import Lexis.Proofs.Text.Boundary

/-!
# Reading the first segment

At a place between characters, the event that is read is the event of the
first segment of the characters behind the place, and reading moves behind
that segment (`read?_of_splits`).  Bytes decide the same as characters, one
reading at a time: numbers and words by their classes, operators by the pieces
that can be cut out, comments by the runs of marks.
-/

namespace Lexis.Event

open Text Segment

variable {vocabulary : Vocabulary} {place : Place} {before rest : List Char} {char : Char}

/-! ## Tokens -/

theorem readToken?_of_splits {lexeme after : List Char}
    (splits : place.Splits before (lexeme ++ after)) (token : String → Token) :
    readToken? place (place.forward (byteSize lexeme)) token =
      some (.token (token (String.ofList lexeme)) (place.offset + byteSize lexeme),
        place.forward (byteSize lexeme)) := by
  have cut := splits.forward.textSince?_eq
  rw [← splits.offset_eq] at cut
  rw [readToken?, cut]
  rfl

theorem readToken?_skipWhile {accepts : UInt8 → Bool} {accepted : Char → Bool}
    (splits : place.Splits before (char :: rest)) (decides : Decides accepts accepted)
    (passes : accepted char) (token : String → Token) :
    readToken? place (place.skipWhile accepts) token =
      some (.token (token (String.ofList (char :: rest.takeWhile accepted)))
          (place.offset + byteSize (char :: rest.takeWhile accepted)),
        place.forward (byteSize (char :: rest.takeWhile accepted))) := by
  rw [splits.skipWhile_eq decides, List.takeWhile_cons_of_pos passes]
  rw [← List.takeWhile_append_dropWhile (p := accepted) (l := rest), ← List.cons_append] at splits
  exact readToken?_of_splits splits token

/-! ## Operators -/

/-- The place hands out some piece with a property exactly when some beginning
of the characters behind it has that size and the property. -/
theorem any_peek?_iff {after : List Char} (splits : place.Splits before after) (count : Nat)
    (test : String → Bool) :
    (place.peek? count).any test = true ↔
      ∃ piece, piece <+: after ∧ byteSize piece = count ∧ test (String.ofList piece) = true := by
  rw [Option.any_eq_true]
  constructor
  · rintro ⟨text, peeked, passes⟩
    rw [← String.ofList_toList (s := text)] at peeked passes
    rcases splits.peek?_eq_some_iff.mp peeked with ⟨begins, size⟩
    exact ⟨text.toList, begins, size, passes⟩
  · rintro ⟨piece, begins, size, passes⟩
    exact ⟨String.ofList piece, splits.peek?_eq_some_iff.mpr ⟨begins, size⟩, passes⟩

theorem isOperator_eq_true_iff {spelling : List Char} :
    isOperator vocabulary spelling = true ↔
      (∀ char ∈ spelling, char.toNat < 0x80) ∧
        vocabulary.hasOperator (String.ofList spelling) = true := by
  simp [isOperator, isAscii, List.all_eq_true]

theorem utf8Size_of_isOperator (single : isOperator vocabulary [char] = true) :
    char.utf8Size = 1 :=
  utf8Size_of_ascii ((isOperator_eq_true_iff.mp single).1 char List.mem_cons_self)

theorem byteSize_eq_one_iff {piece : List Char} :
    byteSize piece = 1 ↔ ∃ char, piece = [char] ∧ char.toNat < 0x80 := by
  constructor
  · intro size
    cases piece with
    | nil => contradiction
    | cons char tail =>
        have positive := char.utf8Size_pos
        rw [byteSize_cons] at size
        obtain rfl : tail = [] := byteSize_eq_zero_iff.mp (by omega)
        exact ⟨char, rfl, utf8Size_eq_one_iff.mp (by omega)⟩
  · rintro ⟨char, rfl, ascii⟩
    rw [byteSize_cons, byteSize_nil, utf8Size_of_ascii ascii]

/-- The single character at a place is an operator exactly when it is ASCII and
registered: a longer character has no piece of one byte. -/
theorem atOperator_eq (splits : place.Splits before (char :: rest)) :
    atOperator vocabulary place = isOperator vocabulary [char] := by
  rw [Bool.eq_iff_iff, atOperator, any_peek?_iff splits, isOperator_eq_true_iff]
  constructor
  · rintro ⟨piece, begins, size, registered⟩
    rcases byteSize_eq_one_iff.mp size with ⟨only, rfl, ascii⟩
    rcases List.cons_prefix_cons.mp begins with ⟨rfl, -⟩
    exact ⟨by simpa using ascii, registered⟩
  · rintro ⟨ascii, registered⟩
    have single := byteSize_eq_one_iff.mpr ⟨char, rfl, ascii char List.mem_cons_self⟩
    exact ⟨[char], List.prefix_append [char] rest, single, registered⟩

/-- The pair of characters at a place is an operator exactly when both are
ASCII, together they are registered, and there is a character behind them. -/
theorem atOperatorPair_iff (splits : place.Splits before (char :: rest))
    (width : char.utf8Size = 1) :
    atOperatorPair vocabulary place = true ↔
      ∃ second third more, rest = second :: third :: more ∧
        isOperator vocabulary [char, second] = true := by
  have ascii := utf8Size_eq_one_iff.mp width
  simp only [atOperatorPair, Bool.and_eq_true, decide_eq_true_eq, any_peek?_iff splits,
    splits.remaining_eq, byteSize_cons, width, isOperator_eq_true_iff]
  constructor
  · rintro ⟨room, piece, begins, size, registered⟩
    cases piece with
    | nil => contradiction
    | cons first tail =>
        rcases List.cons_prefix_cons.mp begins with ⟨rfl, tailBegins⟩
        rw [byteSize_cons, width] at size
        rcases byteSize_eq_one_iff.mp (by omega : byteSize tail = 1) with ⟨second, rfl, secondAscii⟩
        rcases tailBegins with ⟨behind, rfl⟩
        rw [byteSize_append, byteSize_cons, byteSize_nil, utf8Size_of_ascii secondAscii] at room
        cases behind with
        | nil => contradiction
        | cons third more =>
            exact ⟨second, third, more, rfl, by simp [ascii, secondAscii], registered⟩
  · rintro ⟨second, third, more, rfl, allAscii, registered⟩
    have secondWidth := utf8Size_of_ascii (allAscii second (by simp))
    have positive := third.utf8Size_pos
    refine ⟨?_, [char, second], List.prefix_append [char, second] (third :: more), ?_, registered⟩
    · rw [byteSize_cons, byteSize_cons, secondWidth]
      omega
    · rw [byteSize_cons, byteSize_cons, byteSize_nil, width, secondWidth]

theorem operatorAt_prefix (vocabulary : Vocabulary) (char : Char) (rest : List Char) :
    operatorAt vocabulary char rest <+: char :: rest := by
  unfold operatorAt
  split
  · split <;> simp
  · simp

theorem byteSize_operatorAt (vocabulary : Vocabulary) (splits : place.Splits before (char :: rest))
    (width : char.utf8Size = 1) :
    byteSize (operatorAt vocabulary char rest) =
      if atOperatorPair vocabulary place then 2 else 1 := by
  unfold operatorAt
  split
  next second third more =>
      by_cases pair : isOperator vocabulary [char, second] = true
      · have secondAscii := (isOperator_eq_true_iff.mp pair).1 second (by simp)
        rw [if_pos pair, if_pos ((atOperatorPair_iff splits width).mpr ⟨_, _, _, rfl, pair⟩),
          byteSize_cons, byteSize_cons, byteSize_nil, width, utf8Size_of_ascii secondAscii]
      · rw [if_neg pair, if_neg, byteSize_cons, byteSize_nil, width]
        rw [atOperatorPair_iff splits width]
        rintro ⟨_, _, _, same, isPair⟩
        rcases List.cons_eq_cons.mp same with ⟨rfl, -⟩
        exact pair isPair
  next lone =>
      rw [if_neg, byteSize_cons, byteSize_nil, width]
      rw [atOperatorPair_iff splits width]
      rintro ⟨second, third, more, same, -⟩
      exact lone second third more same

theorem readOperator?_of_splits (splits : place.Splits before (char :: rest))
    (single : isOperator vocabulary [char] = true) :
    readOperator? vocabulary place =
      some (.token (.symbol (String.ofList (operatorAt vocabulary char rest)))
          (place.offset + byteSize (operatorAt vocabulary char rest)),
        place.forward (byteSize (operatorAt vocabulary char rest))) := by
  have width := byteSize_operatorAt vocabulary splits (utf8Size_of_isOperator single)
  rcases operatorAt_prefix vocabulary char rest with ⟨behind, whole⟩
  rw [← whole] at splits
  rw [readOperator?, ← width, splits.advance_eq_forward, readToken?_of_splits splits]

/-! ## Comments -/

theorem mark_ascii : mark.toNat < 0x80 := by
  decide

theorem size_comment (opening : Nat) (body : List Char) (closing : Nat) :
    (Segment.comment opening body closing).size = opening + byteSize body + closing := by
  change byteSize _ = _
  rw [text, byteSize_append, byteSize_append, byteSize_replicate mark_ascii,
    byteSize_replicate mark_ascii]

/-- A comment consists of its opening marks, its body and its closing marks. -/
theorem readComment_of_splits {chars : List Char} (splits : place.Splits before chars) :
    readComment place =
      (.comment place.offset (place.offset + (commentAt chars).size),
        place.forward (commentAt chars).size) := by
  have opened := splits.skipRun_none mark_ascii
  have bodied := opened.skipTo mark_ascii
  have width : (place.skipRun (UInt8.ofNat mark.toNat) none).offset - place.offset =
      (chars.takeWhile (· == mark)).length := by
    rw [splits.skipRun_none_eq mark_ascii, Place.forward_offset, Nat.add_sub_cancel_left]
  have closed : ((place.skipRun (UInt8.ofNat mark.toNat) none).skipTo
      (UInt8.ofNat mark.toNat)).skipRun (UInt8.ofNat mark.toNat)
        (some (chars.takeWhile (· == mark)).length) =
      place.forward (commentAt chars).size := by
    rw [commentAt, size_comment, bodied.skipRun_some_eq mark_ascii, opened.skipTo_eq mark_ascii,
      splits.skipRun_none_eq mark_ascii, Place.forward_forward, Place.forward_forward,
      Nat.add_assoc]
  have markByte : commentMark = UInt8.ofNat mark.toNat := rfl
  rw [readComment, markByte, width, closed]
  rfl

/-! ## Any event -/

/-- The event at a place is the event of the first segment behind it. -/
theorem read?_of_splits (splits : place.Splits before (char :: rest))
    (notBlank : isBlank char = false) :
    ∃ event, (first vocabulary char rest).event? vocabulary place.offset
        (place.offset + (first vocabulary char rest).size) = some event ∧
      read? vocabulary place =
        some (event, place.forward (first vocabulary char rest).size) := by
  rcases splits.exists_byte?_eq_some with ⟨byte, found, head⟩
  have marked : (byte == commentMark) = (char == mark) := head _ _ (decides_beq mark_ascii)
  rw [read?, found]
  dsimp only
  rw [head _ _ decides_digit, head _ _ decides_letter, atOperator_eq splits, marked, first,
    if_neg (by simp [notBlank])]
  split
  next digit =>
      rw [readNumber?, readToken?_skipWhile splits decides_digit digit]
      exact ⟨_, rfl, rfl⟩
  split
  next letter =>
      rw [readWord?, readToken?_skipWhile splits decides_alphanumeric
        (isAlphanum_of_isAlpha letter), Segment.event?_word]
      exact ⟨_, rfl, rfl⟩
  split
  next operator =>
      rw [readOperator?_of_splits splits operator]
      exact ⟨_, rfl, rfl⟩
  split
  next =>
      rw [readComment_of_splits splits]
      exact ⟨_, rfl, rfl⟩
  next =>
      have size : (Segment.illegal char).size = char.utf8Size := byteSize_cons char []
      rw [readIllegal?, splits.takeChar?_cons, size]
      exact ⟨_, rfl, rfl⟩

end Lexis.Event
