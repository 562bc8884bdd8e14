import Lexis.Proofs.Segmentation.Joining
import Lexis.Proofs.Vocabulary

/-!
# Texts that go on

When more characters are put behind a text, only its last segments can change:
a run grows, an operator takes a second character, a comment is closed
(`Segment.goesOn`).  A segment with enough characters behind it is settled,
whatever follows them (`Begins.append`).
-/

namespace Lexis.Segment

open Text

/-! ## Segments at the end of a text -/

/-- Whether a segment that ends a text is cut otherwise, or may be, once the
character follows. -/
def goesOn (vocabulary : Vocabulary) : Segment → Char → Bool
  | blanks _, next => isBlank next
  | number _, next => next.isDigit
  | word _, next => next.isAlphanum
  | operator [char], next => isOperator vocabulary [char, next]
  | operator _, _ => false
  | comment opening _ closing, next =>
      closing == 0 || closing < opening && next == mark
  | illegal _, _ => false

variable {vocabulary : Vocabulary} {segment : Segment} {rest more other : List Char}

/-- A segment stays before other characters if the first of them was behind it
already or is none that it goes on with.  Besides, an operator tells whether
there is any character behind a pair. -/
theorem Begins.before (begins : Begins vocabulary segment rest)
    (first : ∀ char ∈ other.head?, char ∈ rest.head? ∨ segment.goesOn vocabulary char = false)
    (room : rest ≠ [] → other ≠ [])
    (unsplit : ∀ char second behind, segment = operator [char] → rest = [second] →
      other = second :: behind → behind ≠ [] → isOperator vocabulary [char, second] = false) :
    Begins vocabulary segment other := by
  cases begins with
  | blanks notEmpty longest => exact .blanks notEmpty (longest.before first)
  | number notEmpty longest => exact .number notEmpty (longest.before first)
  | word letter longest => exact .word letter (longest.before first)
  | pair plain single pair notEnd => exact .pair plain single pair (room notEnd)
  | @single char _ plain single notPair =>
      refine .single plain single fun second behind next notEnd => ?_
      subst next
      rcases first second rfl with same | stops
      · rcases List.head?_eq_some_iff.mp same with ⟨later, rfl⟩
        by_cases only : later = []
        · subst only
          exact unsplit char second behind rfl rfl rfl notEnd
        · exact notPair second later rfl only
      · exact stops
  | @comment opening closing body _ notOperator positive opened bodied atMost all =>
      have closes : ∀ char ∈ other.head?,
          char ∈ rest.head? ∨ closing ≠ 0 ∧ (closing < opening → char ≠ mark) := by
        intro char next
        simpa [goesOn] using first char next
      have same (front : List Char) (marked : closing ≠ 0 → front ≠ []) :
          ∀ char ∈ (front ++ other).head?, char ∈ (front ++ rest).head? := by
        intro char next
        cases front with
        | nil =>
            rcases closes char next with here | ⟨closed, -⟩
            · exact here
            · exact absurd rfl (marked closed)
        | cons => exact next
      refine .comment notOperator positive (opened.before fun char next => .inl ?_)
        (bodied.before fun char next => .inl ?_) atMost fun short next => ?_
      · exact same _ (fun closed => by simp [closed]) char next
      · exact same _ (fun closed => by simp [closed]) char next
      · rcases closes mark next with here | ⟨-, stops⟩
        · exact all short here
        · exact stops short rfl
  | illegal plain notOperator notMark => exact .illegal plain notOperator notMark

/-- A segment stays when more characters follow, unless it ends the text and
goes on, or it is an operator and only the second character of its pair is
behind it. -/
theorem Begins.append (begins : Begins vocabulary segment rest)
    (ends : rest = [] → ∀ char ∈ more.head?, segment.goesOn vocabulary char = false)
    (unsplit : ∀ char second, segment = operator [char] → rest = [second] → more ≠ [] →
      isOperator vocabulary [char, second] = false) :
    Begins vocabulary segment (rest ++ more) := by
  refine begins.before (fun char next => ?_)
    (fun notEnd => List.append_ne_nil_of_left_ne_nil notEnd more) ?_
  · cases rest with
    | nil => exact .inr (ends rfl char next)
    | cons => exact .inl next
  · rintro char second behind single rfl whole notEnd
    rw [List.singleton_append, List.cons_inj_right] at whole
    exact unsplit char second single rfl (whole ▸ notEnd)

/-! ## Settled segments -/

/-- The characters settle every segment before them: there are some, and a
single one is not the second of a pair. -/
structure Settles (vocabulary : Vocabulary) (rest : List Char) : Prop where
  ne_nil : rest ≠ []
  unpaired : ∀ char second, rest = [second] → isOperator vocabulary [char, second] = false

theorem settles_of_two_le (room : 2 ≤ byteSize rest) : Settles vocabulary rest where
  ne_nil := by
    rintro rfl
    contradiction
  unpaired := by
    rintro char second rfl
    rw [Bool.eq_false_iff]
    intro pair
    have ascii := (Event.isOperator_eq_true_iff.mp pair).1 second (by simp)
    rw [byteSize_cons, byteSize_nil, utf8Size_of_ascii ascii] at room
    contradiction

theorem settles_of_unpaired (unpaired : vocabulary.Unpaired) (room : 1 ≤ byteSize rest) :
    Settles vocabulary rest where
  ne_nil := by
    rintro rfl
    contradiction
  unpaired char second _ := unpaired.isOperator_pair char second

/-- What is behind some segments is segmented by the other ones. -/
theorem Segmentation.behind {front later : List Segment} {chars : List Char}
    (segmented : Segmentation vocabulary chars (front ++ later)) :
    Segmentation vocabulary (later.flatMap text) later := by
  induction front generalizing chars with
  | nil =>
      rw [List.nil_append] at segmented
      rwa [segmented.flatMap_text]
  | cons segment others inductionHypothesis =>
      rw [List.cons_append] at segmented
      cases segmented with
      | cons _ segmentedLater => exact inductionHypothesis segmentedLater

/-- Segments with characters behind them stay when the text goes on, unless the
last of them is cut off from the second character of its pair. -/
theorem segments_append_of_uncut {front later : List Segment} {chars : List Char}
    (segmented : Segmentation vocabulary chars (front ++ later)) (notEnd : later.flatMap text ≠ [])
    (uncut : ∀ char second, operator [char] ∈ front.getLast? → later.flatMap text = [second] →
      isOperator vocabulary [char, second] = false) (more : List Char) :
    segments vocabulary (chars ++ more) =
      front ++ segments vocabulary (later.flatMap text ++ more) := by
  induction front generalizing chars with
  | nil =>
      rw [List.nil_append] at segmented
      rw [List.nil_append, segmented.flatMap_text]
  | cons segment others inductionHypothesis =>
      rw [List.cons_append] at segmented
      cases segmented with
      | @cons _ rest _ begins segmentedLater =>
          have whole : rest = others.flatMap text ++ later.flatMap text := by
            rw [← segmentedLater.flatMap_text, List.flatMap_append]
          have stays : Begins vocabulary segment (rest ++ more) := by
            apply begins.append
            · intro empty
              rw [whole, List.append_eq_nil_iff] at empty
              exact absurd empty.2 notEnd
            · rintro char second rfl single _
              rw [whole, List.append_eq_singleton_iff] at single
              rcases single with ⟨nothing, single⟩ | ⟨-, nothing⟩
              · cases others with
                | nil => exact uncut char second rfl single
                | cons other further =>
                    cases segmentedLater with
                    | cons beginsOther _ =>
                        rw [List.flatMap_cons, List.append_eq_nil_iff] at nothing
                        exact absurd nothing.1 beginsOther.text_ne_nil
              · exact absurd nothing notEnd
          have uncutLater : ∀ char second, operator [char] ∈ others.getLast? →
              later.flatMap text = [second] → isOperator vocabulary [char, second] = false := by
            intro char second last
            apply uncut char second
            cases others with
            | nil => contradiction
            | cons other further => exact last
          rw [List.append_assoc, stays.segments_eq, inductionHypothesis segmentedLater uncutLater,
            List.cons_append]

/-- Segments with characters behind them that settle them stay when the text
goes on. -/
theorem segments_append_of_settles {front later : List Segment} {chars : List Char}
    (segmented : Segmentation vocabulary chars (front ++ later))
    (settles : Settles vocabulary (later.flatMap text)) (more : List Char) :
    segments vocabulary (chars ++ more) =
      front ++ segments vocabulary (later.flatMap text ++ more) :=
  segments_append_of_uncut segmented settles.ne_nil
    (fun char second _ single => settles.unpaired char second single) more

/-! ## The end of a text -/

/-- The text ends with the two characters of an operator, which are cut apart
because nothing is behind them. -/
structure EndsInPair (vocabulary : Vocabulary) (chars : List Char) (earlier : List Segment)
    (char second : Char) : Prop where
  segments_eq : segments vocabulary chars =
    earlier ++ operator [char] :: segments vocabulary [second]
  isOperator : isOperator vocabulary [char, second] = true

variable {chars : List Char} {earlier : List Segment} {last : Segment} {char second : Char}

theorem EndsInPair.flatMap_text (ends : EndsInPair vocabulary chars earlier char second) :
    earlier.flatMap text ++ [char, second] = chars := by
  have whole := flatMap_text_segments vocabulary chars
  rw [ends.segments_eq, List.flatMap_append, List.flatMap_cons, flatMap_text_segments] at whole
  exact whole

theorem EndsInPair.begins (ends : EndsInPair vocabulary chars earlier char second) :
    Begins vocabulary (operator [char]) [second] := by
  have segmented := segmentation_segments vocabulary chars
  rw [ends.segments_eq] at segmented
  have behind := segmented.behind
  generalize whole : (operator [char] :: segments vocabulary [second]).flatMap text = both at behind
  cases behind with
  | cons begins segmentedLater =>
      rwa [← segmentedLater.flatMap_text, flatMap_text_segments] at begins

/-- Whatever follows the two characters, they are one operator. -/
theorem EndsInPair.segments_append (ends : EndsInPair vocabulary chars earlier char second)
    {next : List Char} (notEmpty : next ≠ []) :
    segments vocabulary (chars ++ next) =
      earlier ++ operator [char, second] :: segments vocabulary next := by
  have segmented := segmentation_segments vocabulary chars
  rw [ends.segments_eq] at segmented
  have behind : (operator [char] :: segments vocabulary [second]).flatMap text =
      [char, second] := by
    rw [List.flatMap_cons, flatMap_text_segments]
    rfl
  have whole := segments_append_of_uncut segmented (by simp [behind]) (by simp [behind]) next
  rw [behind] at whole
  cases ends.begins with
  | single plain single =>
      have pair : Begins vocabulary (operator [char, second]) next :=
        .pair plain single ends.isOperator notEmpty
      rw [whole]
      exact congrArg _ pair.segments_eq

/-- When a text goes on, only its last segment may change, if no pair is cut
apart at its end. -/
theorem segments_append_of_last (divided : segments vocabulary chars = earlier ++ [last])
    (uncut : ∀ earlier char second, ¬ EndsInPair vocabulary chars earlier char second)
    (next : List Char) :
    segments vocabulary (chars ++ next) = earlier ++ segments vocabulary (last.text ++ next) := by
  have segmented := segmentation_segments vocabulary chars
  rw [divided] at segmented
  have lastText : [last].flatMap text = last.text := List.flatMap_singleton ..
  have behind := segmented.behind
  rw [lastText] at behind
  have alone : [last] = segments vocabulary last.text := segmentation_iff.mp behind
  rcases behind.exists_begins List.mem_cons_self with ⟨rest, begins⟩
  rw [← lastText]
  refine segments_append_of_uncut segmented (by rw [lastText]; exact begins.text_ne_nil) ?_ next
  intro char second before single
  rw [lastText] at single
  rcases List.getLast?_eq_some_iff.mp before with ⟨others, rfl⟩
  rw [Bool.eq_false_iff]
  intro pair
  refine uncut others char second ⟨?_, pair⟩
  rw [divided, alone, single, List.append_assoc, List.singleton_append]

end Lexis.Segment
