import Lexis.Proofs.Event.Reading

/-!
# The rules of a segmentation

What the next segment is can be said by rules, without an order of evaluation:
runs are the longest ones, a word begins with a letter, an operator begins with
a character that is nothing else, a mark opens a comment only where it is no
operator, and every other character is illegal (`Begins`).  The rules allow
exactly one segmentation of any characters, the one that is computed
(`segmentation_iff`).
-/

namespace Lexis.Segment

open Text

/-! ## The rules -/

/-- A run of accepted characters that cannot be made longer: the character
behind it, if there is one, is not accepted. -/
structure LongestRun (accepted : Char → Bool) (run rest : List Char) : Prop where
  all_accepted : ∀ char ∈ run, accepted char = true
  stops : ∀ char ∈ rest.head?, accepted char = false

/-- A character that begins neither blanks nor a number nor a word. -/
structure Plain (char : Char) : Prop where
  notBlank : isBlank char = false
  notDigit : char.isDigit = false
  notLetter : char.isAlpha = false

/-- The rules under which a segment begins some characters; the second list
holds the characters behind it. -/
inductive Begins (vocabulary : Vocabulary) : Segment → List Char → Prop
  | blanks {run rest : List Char} :
      run ≠ [] → LongestRun isBlank run rest → Begins vocabulary (blanks run) rest
  | number {digits rest : List Char} :
      digits ≠ [] → LongestRun Char.isDigit digits rest →
      Begins vocabulary (number digits) rest
  | word {letter : Char} {others rest : List Char} :
      letter.isAlpha = true → LongestRun Char.isAlphanum others rest →
      Begins vocabulary (word (letter :: others)) rest
  /-- A registered pair that does not end the source. -/
  | pair {char second : Char} {rest : List Char} :
      Plain char → isOperator vocabulary [char] = true →
      isOperator vocabulary [char, second] = true → rest ≠ [] →
      Begins vocabulary (operator [char, second]) rest
  | single {char : Char} {rest : List Char} :
      Plain char → isOperator vocabulary [char] = true →
      (∀ second behind, rest = second :: behind → behind ≠ [] →
        isOperator vocabulary [char, second] = false) →
      Begins vocabulary (operator [char]) rest
  /-- As many marks close as opened, or all that are there. -/
  | comment {opening closing : Nat} {body rest : List Char} :
      isOperator vocabulary [mark] = false → 0 < opening →
      LongestRun (· == mark) (List.replicate opening mark)
        (body ++ List.replicate closing mark ++ rest) →
      LongestRun (· != mark) body (List.replicate closing mark ++ rest) →
      closing ≤ opening → (closing < opening → mark ∉ rest.head?) →
      Begins vocabulary (comment opening body closing) rest
  | illegal {char : Char} {rest : List Char} :
      Plain char → isOperator vocabulary [char] = false → char ≠ mark →
      Begins vocabulary (illegal char) rest

/-- A list of segments that begin what is left, one after the other, until
nothing is left. -/
inductive Segmentation (vocabulary : Vocabulary) : List Char → List Segment → Prop
  | nil : Segmentation vocabulary [] []
  | cons {segment : Segment} {rest : List Char} {later : List Segment} :
      Begins vocabulary segment rest → Segmentation vocabulary rest later →
      Segmentation vocabulary (segment.text ++ rest) (segment :: later)

/-! ## Longest runs -/

variable {vocabulary : Vocabulary} {accepted : Char → Bool}

theorem longestRun_takeWhile (accepted : Char → Bool) (chars : List Char) :
    LongestRun accepted (chars.takeWhile accepted) (chars.dropWhile accepted) where
  all_accepted := List.all_eq_true.mp List.all_takeWhile
  stops := by
    intro char found
    have stopped := List.head?_dropWhile_not accepted chars
    rw [Option.mem_def.mp found] at stopped
    simpa using stopped

namespace LongestRun

variable {run rest : List Char}

theorem takeWhile_append (longest : LongestRun accepted run rest) :
    (run ++ rest).takeWhile accepted = run := by
  rw [List.takeWhile_append_of_pos longest.all_accepted]
  cases rest with
  | nil => simp
  | cons char behind =>
      rw [List.takeWhile_cons_of_neg (by simp [longest.stops char rfl]), List.append_nil]

theorem dropWhile_append (longest : LongestRun accepted run rest) :
    (run ++ rest).dropWhile accepted = rest := by
  have whole := List.takeWhile_append_dropWhile (p := accepted) (l := run ++ rest)
  rw [longest.takeWhile_append] at whole
  exact List.append_cancel_left whole

/-- A longest run at the front consists of the first character and the accepted
characters behind it. -/
theorem eq_cons (longest : LongestRun accepted run rest) (notEmpty : run ≠ []) {char : Char}
    {others : List Char} (whole : run ++ rest = char :: others) :
    accepted char = true ∧ run = char :: others.takeWhile accepted := by
  rcases List.exists_cons_of_ne_nil notEmpty with ⟨head, tail, rfl⟩
  have taken := longest.takeWhile_append
  rw [whole] at taken
  rcases List.cons_eq_cons.mp whole with ⟨rfl, -⟩
  have passes := longest.all_accepted head List.mem_cons_self
  rw [List.takeWhile_cons_of_pos passes] at taken
  exact ⟨passes, taken.symm⟩

end LongestRun

theorem eq_dropWhile_of_append {chars behind : List Char}
    (whole : chars.takeWhile accepted ++ behind = chars) : behind = chars.dropWhile accepted := by
  apply List.append_cancel_left
  exact whole.trans List.takeWhile_append_dropWhile.symm

/-! ## Kinds of characters -/

theorem isBlank_eq_false_of_isAlphanum {char : Char} (alphanumeric : char.isAlphanum = true) :
    isBlank char = false := by
  by_contra blank
  simp only [isBlank, Bool.not_eq_false, Bool.or_eq_true, beq_iff_eq] at blank
  rcases blank with (rfl | rfl) | rfl <;> contradiction

theorem isAlpha_eq_false_of_isDigit {char : Char} (digit : char.isDigit = true) :
    char.isAlpha = false := by
  rw [isDigit_iff] at digit
  rw [Bool.eq_false_iff, Ne, isAlpha_iff]
  omega

theorem plain_mark : Plain mark :=
  ⟨by decide, by decide, by decide⟩

/-- A plain character is an operator, opens a comment, or is illegal. -/
theorem Plain.first_eq {char : Char} (plain : Plain char) (rest : List Char) :
    first vocabulary char rest =
      if isOperator vocabulary [char] then operator (operatorAt vocabulary char rest)
      else if char == mark then commentAt (char :: rest)
      else illegal char := by
  rw [first, if_neg (by simp [plain.notBlank]), if_neg (by simp [plain.notDigit]),
    if_neg (by simp [plain.notLetter])]

/-! ## The first segment obeys the rules -/

variable {char : Char} {rest behind : List Char}

/-- A computed comment obeys its rule. -/
theorem begins_commentAt {chars : List Char} (notOperator : isOperator vocabulary [mark] = false)
    (marked : mark ∈ chars.head?) (whole : (commentAt chars).text ++ behind = chars) :
    Begins vocabulary (commentAt chars) behind := by
  rw [commentAt, text, ← takeWhile_beq_eq_replicate, List.append_assoc, List.append_assoc] at whole
  have opened := eq_dropWhile_of_append whole
  have closed := eq_dropWhile_of_append opened
  rw [commentAt]
  refine .comment notOperator ?_ ?_ ?_ (Nat.min_le_left ..) ?_
  · rw [List.length_pos_iff]
    cases chars with
    | nil => contradiction
    | cons first rest => simp [Option.some_inj.mp marked]
  · rw [List.append_assoc, opened, ← takeWhile_beq_eq_replicate]
    exact longestRun_takeWhile _ chars
  · rw [closed]
    exact longestRun_takeWhile _ _
  · intro short found
    rw [Nat.min_eq_right (by omega), ← takeWhile_beq_eq_replicate] at closed
    have stops := (longestRun_takeWhile (· == mark) _).stops mark
      (eq_dropWhile_of_append closed ▸ found)
    contradiction

/-- The computed first segment obeys the rules. -/
theorem begins_first (whole : (first vocabulary char rest).text ++ behind = char :: rest) :
    Begins vocabulary (first vocabulary char rest) behind := by
  revert whole
  rw [first]
  split
  next blank =>
      intro whole
      have run := longestRun_takeWhile isBlank (char :: rest)
      rw [text, ← List.takeWhile_cons_of_pos blank] at whole
      rw [← eq_dropWhile_of_append whole] at run
      rw [← List.takeWhile_cons_of_pos blank]
      exact .blanks (by simp [blank]) run
  split
  next digit =>
      intro whole
      have run := longestRun_takeWhile Char.isDigit (char :: rest)
      rw [text, ← List.takeWhile_cons_of_pos digit] at whole
      rw [← eq_dropWhile_of_append whole] at run
      rw [← List.takeWhile_cons_of_pos digit]
      exact .number (by simp [digit]) run
  split
  next letter =>
      intro whole
      have run := longestRun_takeWhile Char.isAlphanum rest
      rw [text, List.cons_append, List.cons_inj_right] at whole
      rw [← eq_dropWhile_of_append whole] at run
      exact .word letter run
  next notBlank notDigit notLetter =>
      have plain : Plain char :=
        ⟨by simpa using notBlank, by simpa using notDigit, by simpa using notLetter⟩
      split
      next operator =>
          unfold operatorAt
          split
          next second third more =>
              split
              next pair =>
                  intro whole
                  obtain rfl : behind = third :: more := by simpa [text] using whole
                  exact .pair plain operator pair (List.cons_ne_nil third more)
              next notPair =>
                  intro whole
                  obtain rfl : behind = second :: third :: more := by simpa [text] using whole
                  refine .single plain operator fun other _ same _ => ?_
                  rcases List.cons_eq_cons.mp same with ⟨rfl, -⟩
                  simpa using notPair
          next lone =>
              intro whole
              obtain rfl : behind = rest := by simpa [text] using whole
              refine .single plain operator fun second more same notEnd => ?_
              rcases List.exists_cons_of_ne_nil notEnd with ⟨third, others, rfl⟩
              exact absurd same (lone second third others)
      split
      next notOperator marked =>
          intro whole
          obtain rfl := eq_of_beq marked
          exact begins_commentAt (by simpa using notOperator) rfl whole
      next notOperator notMarked =>
          intro whole
          exact .illegal plain (by simpa using notOperator) (by simpa using notMarked)

/-! ## The rules leave no choice -/

/-- Only the computed comment obeys the rule of comments. -/
theorem commentAt_eq {opening closing : Nat} {body : List Char}
    (opened : LongestRun (· == mark) (List.replicate opening mark)
      (body ++ List.replicate closing mark ++ behind))
    (bodied : LongestRun (· != mark) body (List.replicate closing mark ++ behind))
    (atMost : closing ≤ opening) (all : closing < opening → mark ∉ behind.head?) :
    commentAt ((comment opening body closing).text ++ behind) = comment opening body closing := by
  have closed : ((List.replicate closing mark ++ behind).takeWhile (· == mark)).length =
      closing + (behind.takeWhile (· == mark)).length := by
    rw [List.takeWhile_append_of_pos (by simp), List.length_append, List.length_replicate]
  have surplus : closing < opening → (behind.takeWhile (· == mark)).length = 0 := by
    intro short
    cases behind with
    | nil => rfl
    | cons char more =>
        have other : ¬ (char == mark) = true := by
          intro marked
          exact all short (congrArg some (eq_of_beq marked))
        rw [List.takeWhile_cons, if_neg other, List.length_nil]
  rw [commentAt, text, List.append_assoc, List.append_assoc, ← List.append_assoc body]
  simp only [opened.takeWhile_append, opened.dropWhile_append]
  rw [List.append_assoc, bodied.takeWhile_append, bodied.dropWhile_append, closed,
    List.length_replicate]
  congr 1
  omega

/-- Only the computed first segment obeys the rules. -/
theorem first_eq_of_begins {segment : Segment} (begins : Begins vocabulary segment behind)
    (whole : segment.text ++ behind = char :: rest) : first vocabulary char rest = segment := by
  cases begins with
  | blanks notEmpty longest =>
      rcases longest.eq_cons notEmpty whole with ⟨blank, rfl⟩
      rw [first, if_pos blank]
  | number notEmpty longest =>
      rcases longest.eq_cons notEmpty whole with ⟨digit, rfl⟩
      have notBlank := isBlank_eq_false_of_isAlphanum (isAlphanum_of_isDigit digit)
      rw [first, if_neg (by simp [notBlank]), if_pos digit]
  | @word letter others _ isLetter longest =>
      rw [text, List.cons_append, List.cons_eq_cons] at whole
      rcases whole with ⟨rfl, rfl⟩
      have notBlank := isBlank_eq_false_of_isAlphanum (isAlphanum_of_isAlpha isLetter)
      have notDigit : ¬ letter.isDigit = true := by
        intro digit
        rw [isAlpha_eq_false_of_isDigit digit] at isLetter
        contradiction
      rw [first, if_neg (by simp [notBlank]), if_neg notDigit, if_pos isLetter,
        longest.takeWhile_append]
  | @pair only second _ plain isSingle isPair notEnd =>
      rw [text, List.cons_append, List.cons_append, List.nil_append, List.cons_eq_cons] at whole
      rcases whole with ⟨rfl, rfl⟩
      rcases List.exists_cons_of_ne_nil notEnd with ⟨third, more, rfl⟩
      rw [plain.first_eq, if_pos isSingle, operatorAt, if_pos isPair]
  | @single only _ plain isSingle notPair =>
      rw [text, List.cons_append, List.nil_append, List.cons_eq_cons] at whole
      rcases whole with ⟨rfl, rfl⟩
      rw [plain.first_eq, if_pos isSingle, operatorAt.eq_def]
      split
      next second third more =>
          rw [if_neg (by simp [notPair second (third :: more) rfl])]
      next => rfl
  | comment notOperator positive opened bodied atMost all =>
      have computed := commentAt_eq opened bodied atMost all
      rw [whole] at computed
      have marked : char = mark := by
        rcases Nat.exists_eq_succ_of_ne_zero (Nat.ne_of_gt positive) with ⟨more, rfl⟩
        exact (List.cons_eq_cons.mp whole).1.symm
      subst marked
      rw [plain_mark.first_eq, if_neg (by simp [notOperator]), if_pos (beq_self_eq_true _),
        computed]
  | illegal plain notOperator notMark =>
      rcases List.cons_eq_cons.mp whole with ⟨rfl, rfl⟩
      rw [plain.first_eq, if_neg (by simp [notOperator]), if_neg (by simpa using notMark)]

/-! ## Exactly one segmentation -/

theorem Begins.text_ne_nil {segment : Segment} (begins : Begins vocabulary segment rest) :
    segment.text ≠ [] := by
  cases begins with
  | blanks notEmpty => exact notEmpty
  | number notEmpty => exact notEmpty
  | comment _ positive => simp [text, Nat.ne_of_gt positive]
  | _ => exact List.cons_ne_nil _ _

/-- The rules allow the computed segmentation and no other one. -/
theorem segmentation_iff {chars : List Char} {found : List Segment} :
    Segmentation vocabulary chars found ↔ found = segments vocabulary chars := by
  constructor
  · intro segmented
    induction segmented with
    | nil => rw [segments]
    | @cons segment rest later begins _ inductionHypothesis =>
        cases chars : segment.text ++ rest with
        | nil => exact absurd (List.append_eq_nil_iff.mp chars).1 begins.text_ne_nil
        | cons char behind =>
            have computed := first_eq_of_begins begins chars
            rw [segments, computed, ← chars, List.drop_left, inductionHypothesis]
  · rintro rfl
    fun_induction segments vocabulary chars with
    | case1 => exact .nil
    | case2 char rest inductionHypothesis =>
        rcases text_first_prefix vocabulary char rest with ⟨behind, whole⟩
        have begins := begins_first whole
        have left : (char :: rest).drop (first vocabulary char rest).text.length = behind := by
          rw [← whole, List.drop_left]
        rw [left] at inductionHypothesis ⊢
        rw [← whole]
        exact .cons begins inductionHypothesis

theorem segmentation_segments (vocabulary : Vocabulary) (chars : List Char) :
    Segmentation vocabulary chars (segments vocabulary chars) :=
  segmentation_iff.mpr rfl

end Lexis.Segment
