import Lexis.Proofs.Text.Bytes

/-!
# Places between characters

A place at which no character is split has characters before it and characters
behind it (`Place.Splits`).  Everything a place can do is said in terms of
these: looking shows the beginning of the characters behind it, and moving over
accepted bytes moves accepted characters from behind it to before it.
-/

namespace Lexis.Text

/-! ## Positions, pieces and characters at offsets -/

theorem position?_eq_some_iff {text : String} {offset : Nat} {position : text.Pos} :
    position? text offset = some position ↔ position.offset.byteIdx = offset := by
  unfold position?
  constructor
  · intro found
    split at found
    · cases found
      rfl
    · contradiction
  · rintro rfl
    rw [dif_pos (by simpa using! position.isValid)]

theorem exists_position?_iff {text : String} {offset : Nat} :
    (∃ position, position? text offset = some position) ↔
      String.Pos.Raw.IsValid text ⟨offset⟩ := by
  constructor
  · rintro ⟨position, found⟩
    rw [position?_eq_some_iff] at found
    subst found
    exact position.isValid
  · intro valid
    exact ⟨⟨⟨offset⟩, valid⟩, position?_eq_some_iff.mpr rfl⟩

/-- There is a text between two offsets exactly when they are in order and
neither splits a character. -/
theorem exists_between?_iff {text : String} {start stop : Nat} :
    (∃ piece, between? text start stop = some piece) ↔
      start ≤ stop ∧ String.Pos.Raw.IsValid text ⟨start⟩ ∧
        String.Pos.Raw.IsValid text ⟨stop⟩ := by
  rw [← exists_position?_iff, ← exists_position?_iff, between?]
  split
  next ordered =>
      simp only [bind, Option.bind_eq_some_iff, pure, Option.some.injEq, ordered, true_and]
      constructor
      · rintro ⟨piece, first, firstFound, last, lastFound, -⟩
        exact ⟨⟨first, firstFound⟩, last, lastFound⟩
      · rintro ⟨⟨first, firstFound⟩, last, lastFound⟩
        exact ⟨_, first, firstFound, last, lastFound, rfl⟩
  next unordered => simp [unordered]

/-- A piece of a text lies between two offsets exactly when the text consists
of something that ends at the first, the piece, and something that begins at
the second. -/
theorem between?_eq_some_iff {text piece : String} {start stop : Nat} :
    between? text start stop = some piece ↔
      ∃ before after, text = before ++ piece ++ after ∧
        start = before.utf8ByteSize ∧ stop = start + piece.utf8ByteSize := by
  constructor
  · intro cut
    unfold between? at cut
    split at cut
    next ordered =>
        simp only [bind, Option.bind_eq_some_iff, pure, Option.some.injEq] at cut
        rcases cut with ⟨first, firstFound, last, lastFound, rfl⟩
        rw [position?_eq_some_iff] at firstFound lastFound
        have le : first ≤ last := by
          rw [String.Pos.le_iff, String.Pos.Raw.le_iff]
          omega
        obtain ⟨before, after, splitsFirst, splitsLast⟩ :=
          String.copy_slice_eq_iff_splits.mp ⟨le, rfl⟩
        rw [String.extract_eq_copy_slice first last le]
        refine ⟨before, after, splitsLast.eq_append, ?_, ?_⟩
        · rw [← firstFound, splitsFirst.offset_eq_rawEndPos, String.byteIdx_rawEndPos]
        · rw [← firstFound, ← lastFound, splitsLast.offset_eq_rawEndPos,
            splitsFirst.offset_eq_rawEndPos]
          simp
    next => contradiction
  · rintro ⟨before, after, rfl, rfl, rfl⟩
    have splitsFirst := String.Pos.splits_ofEqAppend
      (String.append_assoc : before ++ piece ++ after = before ++ (piece ++ after))
    have splitsLast := String.Pos.splits_ofEqAppend
      (rfl : before ++ piece ++ after = before ++ piece ++ after)
    have firstFound := position?_eq_some_iff.mpr
      (congrArg String.Pos.Raw.byteIdx splitsFirst.offset_eq_rawEndPos)
    have lastFound := position?_eq_some_iff.mpr
      (congrArg String.Pos.Raw.byteIdx splitsLast.offset_eq_rawEndPos)
    rw [String.byteIdx_rawEndPos] at firstFound lastFound
    rw [String.utf8ByteSize_append] at lastFound
    obtain ⟨le, copied⟩ :=
      String.copy_slice_eq_iff_splits.mpr ⟨before, after, splitsFirst, splitsLast⟩
    rw [between?, if_pos (Nat.le_add_right _ _), firstFound, lastFound]
    simp only [bind, Option.bind_some, pure, Option.some.injEq]
    rw [String.extract_eq_copy_slice _ _ le]
    exact copied

/-- A character begins at an offset exactly when it follows something that
ends there. -/
theorem charAt?_eq_some_iff {text : String} {offset : Nat} {char : Char} :
    charAt? text offset = some char ↔
      ∃ before after, text = before ++ String.singleton char ++ after ∧
        offset = before.utf8ByteSize := by
  constructor
  · intro found
    simp only [charAt?, Option.bind_eq_some_iff, position?_eq_some_iff] at found
    rcases found with ⟨position, rfl, found⟩
    split at found
    · contradiction
    next inside =>
        cases found
        exact ⟨_, _, (position.splits_next inside).eq_append, by simp⟩
  · rintro ⟨before, after, rfl, rfl⟩
    have splits := String.Pos.splits_ofEqAppend
      (String.append_assoc :
        before ++ String.singleton char ++ after = before ++ (String.singleton char ++ after))
    have found := position?_eq_some_iff.mpr
      (congrArg String.Pos.Raw.byteIdx splits.offset_eq_rawEndPos)
    have inside := splits.ne_endPos_of_singleton
    rw [charAt?, ← String.byteIdx_rawEndPos, found, Option.bind_some, dif_neg inside,
      Option.some_inj]
    exact String.Pos.Splits.get_eq_of_singleton splits.next

/-! ## Copies of one character -/

theorem takeWhile_beq_eq_replicate (mark : Char) (chars : List Char) :
    chars.takeWhile (· == mark) =
      List.replicate (chars.takeWhile (· == mark)).length mark := by
  rw [List.eq_replicate_iff]
  constructor
  · rfl
  · intro char inside
    exact eq_of_beq (List.all_eq_true.mp List.all_takeWhile char inside)

theorem byteSize_replicate {mark : Char} (ascii : mark.toNat < 0x80) (count : Nat) :
    byteSize (List.replicate count mark) = count := by
  induction count with
  | zero => rfl
  | succ count inductionHypothesis =>
      rw [List.replicate_succ, byteSize_cons, inductionHypothesis, utf8Size_of_ascii ascii]
      omega

theorem byteSize_takeWhile_beq {mark : Char} (ascii : mark.toNat < 0x80) (chars : List Char) :
    byteSize (chars.takeWhile (· == mark)) = (chars.takeWhile (· == mark)).length := by
  conv => lhs; rw [takeWhile_beq_eq_replicate, byteSize_replicate ascii]

/-- As many copies as begin a list can be taken off. -/
theorem replicate_append_drop {mark : Char} {count : Nat} {chars : List Char}
    (short : count ≤ (chars.takeWhile (· == mark)).length) :
    List.replicate count mark ++ chars.drop count = chars := by
  induction count generalizing chars with
  | zero => rfl
  | succ count inductionHypothesis =>
      cases chars with
      | nil => simp at short
      | cons char rest =>
          by_cases marked : (char == mark) = true
          · rw [List.takeWhile_cons, if_pos marked, List.length_cons] at short
            rw [List.replicate_succ, List.cons_append, List.drop_succ_cons,
              inductionHypothesis (Nat.le_of_succ_le_succ short), eq_of_beq marked]
          · rw [List.takeWhile_cons, if_neg marked] at short
            contradiction

namespace Place

/-! ## Characters before and behind a place -/

/-- The place lies behind some characters of its source and before the rest. -/
structure Splits (place : Place) (before after : List Char) : Prop where
  source_eq : place.source = String.ofList (before ++ after)
  offset_eq : place.offset = byteSize before

/-- The place that many bytes further on. -/
def forward (place : Place) (count : Nat) : Place :=
  { place with offset := place.offset + count }

@[simp]
theorem forward_source (place : Place) (count : Nat) :
    (place.forward count).source = place.source :=
  rfl

@[simp]
theorem forward_offset (place : Place) (count : Nat) :
    (place.forward count).offset = place.offset + count :=
  rfl

theorem forward_forward (place : Place) (first second : Nat) :
    (place.forward first).forward second = place.forward (first + second) := by
  rw [forward, forward_source, forward_offset, Nat.add_assoc, forward]

theorem splits_start (source : String) : (start source).Splits [] source.toList :=
  ⟨by simp [start], rfl⟩

/-- A place splits its source somewhere exactly when no character is split. -/
theorem exists_splits_iff {place : Place} :
    (∃ before after, place.Splits before after) ↔
      String.Pos.Raw.IsValid place.source ⟨place.offset⟩ := by
  rw [String.Pos.Raw.isValid_iff_exists_append]
  constructor
  · rintro ⟨before, after, splits⟩
    refine ⟨String.ofList before, String.ofList after, ?_, ?_⟩
    · rw [splits.source_eq, String.ofList_append]
    · rw [splits.offset_eq]
      rfl
  · rintro ⟨before, after, whole, endsHere⟩
    refine ⟨before.toList, after.toList, ?_, ?_⟩
    · rw [whole, String.ofList_append, String.ofList_toList, String.ofList_toList]
    · rw [byteSize_toList]
      exact congrArg String.Pos.Raw.byteIdx endsHere

namespace Splits

variable {place : Place} {before after : List Char}

theorem isValid (splits : place.Splits before after) :
    String.Pos.Raw.IsValid place.source ⟨place.offset⟩ :=
  exists_splits_iff.mp ⟨before, after, splits⟩

theorem size_eq (splits : place.Splits before after) :
    place.source.utf8ByteSize = place.offset + byteSize after := by
  rw [splits.source_eq, splits.offset_eq, utf8ByteSize_ofList, byteSize_append]

@[simp]
theorem remaining_eq (splits : place.Splits before after) :
    place.remaining = byteSize after := by
  rw [remaining, splits.size_eq, Nat.add_sub_cancel_left]

theorem forward {middle : List Char} (splits : place.Splits before (middle ++ after)) :
    (place.forward (byteSize middle)).Splits (before ++ middle) after where
  source_eq := by rw [forward_source, splits.source_eq, List.append_assoc]
  offset_eq := by rw [forward_offset, splits.offset_eq, byteSize_append]

/-! ## Looking -/

theorem drop_bytes_source (splits : place.Splits before after) :
    (bytes (before ++ after)).drop place.offset = bytes after := by
  rw [bytes_append, splits.offset_eq, ← length_bytes, List.drop_left]

theorem byte?_eq (splits : place.Splits before after) : place.byte? = (bytes after).head? := by
  rw [byte?, splits.source_eq, byteAt?_ofList, ← splits.drop_bytes_source, List.head?_drop]

theorem byte?_eq_none_iff (splits : place.Splits before after) :
    place.byte? = none ↔ after = [] := by
  rw [splits.byte?_eq, List.head?_eq_none_iff, ← List.length_eq_zero_iff, length_bytes,
    byteSize_eq_zero_iff]

/-- The byte before a character decides what the character is. -/
theorem exists_byte?_eq_some {char : Char} (splits : place.Splits before (char :: after)) :
    ∃ byte, place.byte? = some byte ∧
      ∀ accepts accepted, Decides accepts accepted → accepts byte = accepted char := by
  cases found : place.byte? with
  | none =>
      rw [splits.byte?_eq_none_iff] at found
      contradiction
  | some byte =>
      rw [splits.byte?_eq] at found
      exact ⟨byte, rfl, fun _ _ decides => decides.head found⟩

/-- The place hands out a piece exactly when the characters behind it begin
with the piece. -/
theorem peek?_eq_some_iff (splits : place.Splits before after) {count : Nat}
    {piece : List Char} :
    place.peek? count = some (String.ofList piece) ↔
      piece <+: after ∧ byteSize piece = count := by
  rw [peek?, between?_eq_some_iff, splits.source_eq, splits.offset_eq]
  constructor
  · rintro ⟨front, behind, whole, frontSize, pieceSize⟩
    rw [utf8ByteSize_ofList] at pieceSize
    have listed : before ++ after = front.toList ++ (piece ++ behind.toList) := by
      simpa using congrArg String.toList whole
    have fronts : byteSize before = byteSize front.toList := by
      rw [frontSize, byteSize_toList]
    have rest := (eq_of_append_eq_append listed fronts).2
    exact ⟨rest ▸ List.prefix_append _ _, by omega⟩
  · rintro ⟨⟨behind, rfl⟩, rfl⟩
    refine ⟨String.ofList before, String.ofList behind, ?_, rfl, rfl⟩
    rw [← List.append_assoc, String.ofList_append, String.ofList_append]

theorem textSince?_eq {piece : List Char} (splits : place.Splits (before ++ piece) after) :
    place.textSince? (byteSize before) = some (String.ofList piece) := by
  rw [textSince?, between?_eq_some_iff, splits.source_eq, splits.offset_eq]
  refine ⟨String.ofList before, String.ofList after, ?_, rfl, ?_⟩
  · rw [String.ofList_append, String.ofList_append]
  · rw [byteSize_append, utf8ByteSize_ofList]

/-! ## Moving -/

theorem takeChar?_cons {char : Char} (splits : place.Splits before (char :: after)) :
    place.takeChar? = some (char, place.forward char.utf8Size) := by
  rw [takeChar?, Option.map_eq_some_iff]
  refine ⟨char, ?_, rfl⟩
  rw [charAt?_eq_some_iff, splits.source_eq, splits.offset_eq]
  refine ⟨String.ofList before, String.ofList after, ?_, rfl⟩
  rw [String.ofList_append, String.ofList_cons, String.append_assoc]

/-- Moving over characters that are there does not meet the end. -/
theorem advance_eq_forward {front : List Char} (splits : place.Splits before (front ++ after)) :
    place.advance (byteSize front) = place.forward (byteSize front) := by
  have size := splits.size_eq
  rw [byteSize_append] at size
  rw [Place.advance, Nat.min_eq_left (by omega)]
  rfl

/-- A run of accepted bytes moves over the accepted characters. -/
theorem runEnd_eq {accepts : UInt8 → Bool} {accepted : Char → Bool}
    (splits : place.Splits before after) (decides : Decides accepts accepted)
    {limit : Nat} :
    runEnd place.source accepts place.offset limit =
      place.offset + min limit (byteSize (after.takeWhile accepted)) := by
  rw [splits.source_eq, runEnd_ofList, splits.drop_bytes_source, ← List.take_takeWhile,
    decides.takeWhile_bytes, List.length_take, length_bytes]

/-- Skipping moves over the longest run of accepted characters. -/
theorem skipWhile_eq {accepts : UInt8 → Bool} {accepted : Char → Bool}
    (splits : place.Splits before after) (decides : Decides accepts accepted) :
    place.skipWhile accepts = place.forward (byteSize (after.takeWhile accepted)) := by
  have whole : byteSize (after.takeWhile accepted) + byteSize (after.dropWhile accepted) =
      byteSize after := by
    rw [← byteSize_append, List.takeWhile_append_dropWhile]
  rw [Place.skipWhile, splits.runEnd_eq decides, splits.remaining_eq, Nat.min_eq_right (by omega)]
  rfl

theorem skipWhile {accepts : UInt8 → Bool} {accepted : Char → Bool}
    (splits : place.Splits before after) (decides : Decides accepts accepted) :
    (place.skipWhile accepts).Splits (before ++ after.takeWhile accepted)
      (after.dropWhile accepted) := by
  rw [splits.skipWhile_eq decides]
  apply Splits.forward
  rwa [List.takeWhile_append_dropWhile]

variable {mark : Char}

theorem skipTo (splits : place.Splits before after) (ascii : mark.toNat < 0x80) :
    (place.skipTo (UInt8.ofNat mark.toNat)).Splits (before ++ after.takeWhile (· != mark))
      (after.dropWhile (· != mark)) :=
  splits.skipWhile (decides_beq ascii).not

theorem skipTo_eq (splits : place.Splits before after) (ascii : mark.toNat < 0x80) :
    place.skipTo (UInt8.ofNat mark.toNat) =
      place.forward (byteSize (after.takeWhile (· != mark))) :=
  splits.skipWhile_eq (decides_beq ascii).not

theorem skipRun_none_eq (splits : place.Splits before after) (ascii : mark.toNat < 0x80) :
    place.skipRun (UInt8.ofNat mark.toNat) none =
      place.forward (after.takeWhile (· == mark)).length := by
  rw [← byteSize_takeWhile_beq ascii]
  exact splits.skipWhile_eq (decides_beq ascii)

theorem skipRun_none (splits : place.Splits before after) (ascii : mark.toNat < 0x80) :
    (place.skipRun (UInt8.ofNat mark.toNat) none).Splits (before ++ after.takeWhile (· == mark))
      (after.dropWhile (· == mark)) :=
  splits.skipWhile (decides_beq ascii)

/-- A run with a limit moves over at most as many copies of a character. -/
theorem skipRun_some_eq (splits : place.Splits before after) (ascii : mark.toNat < 0x80)
    (limit : Nat) :
    place.skipRun (UInt8.ofNat mark.toNat) (some limit) =
      place.forward (min limit (after.takeWhile (· == mark)).length) := by
  have run := byteSize_takeWhile_beq ascii after
  have whole : byteSize (after.takeWhile (· == mark)) + byteSize (after.dropWhile (· == mark)) =
      byteSize after := by
    rw [← byteSize_append, List.takeWhile_append_dropWhile]
  have most : min (min (byteSize after) limit) (after.takeWhile (· == mark)).length =
      min limit (after.takeWhile (· == mark)).length := by
    omega
  rw [Place.skipRun, splits.runEnd_eq (decides_beq ascii), splits.remaining_eq, run,
    Option.elim_some, most]
  rfl

theorem unique {otherBefore otherAfter : List Char} (splits : place.Splits before after)
    (other : place.Splits otherBefore otherAfter) :
    before = otherBefore ∧ after = otherAfter := by
  apply eq_of_append_eq_append
  · exact String.ofList_injective (splits.source_eq.symm.trans other.source_eq)
  · exact splits.offset_eq.symm.trans other.offset_eq

end Splits

/-! ## Nothing to cut out or to take -/

/-- No text is cut out backwards, nor from or to the inside of a character. -/
theorem textSince?_eq_none_iff {place : Place} {first : Nat} :
    place.textSince? first = none ↔
      place.offset < first ∨ ¬ String.Pos.Raw.IsValid place.source ⟨first⟩ ∨
        ¬ String.Pos.Raw.IsValid place.source ⟨place.offset⟩ := by
  rw [← Option.not_isSome_iff_eq_none, Option.isSome_iff_exists, textSince?,
    exists_between?_iff, not_and_or, not_and_or, Nat.not_le]

/-- The character that is taken is the one behind the place. -/
theorem takeChar?_eq_some_iff {place next : Place} {char : Char} :
    place.takeChar? = some (char, next) ↔
      next = place.forward char.utf8Size ∧ ∃ before after, place.Splits before (char :: after) := by
  constructor
  · intro taken
    rcases Option.map_eq_some_iff.mp taken with ⟨_, found, same⟩
    obtain ⟨rfl, rfl⟩ := Prod.mk.inj same
    rcases charAt?_eq_some_iff.mp found with ⟨before, after, whole, beginsHere⟩
    refine ⟨rfl, before.toList, after.toList, ?_, ?_⟩
    · rw [whole]
      apply String.toList_injective
      simp
    · rw [beginsHere, byteSize_toList]
  · rintro ⟨rfl, before, after, splits⟩
    exact splits.takeChar?_cons

/-- There is no character to take at the end, and none inside a character. -/
theorem takeChar?_eq_none_iff {place : Place} :
    place.takeChar? = none ↔
      place.offset = place.source.utf8ByteSize ∨
        ¬ String.Pos.Raw.IsValid place.source ⟨place.offset⟩ := by
  constructor
  · intro nothing
    by_cases valid : String.Pos.Raw.IsValid place.source ⟨place.offset⟩
    · rcases exists_splits_iff.mpr valid with ⟨before, after, splits⟩
      cases after with
      | nil => exact .inl splits.size_eq.symm
      | cons char rest =>
          rw [splits.takeChar?_cons] at nothing
          contradiction
    · exact .inr valid
  · intro outside
    by_contra taken
    rcases Option.ne_none_iff_exists'.mp taken with ⟨⟨char, next⟩, found⟩
    rcases takeChar?_eq_some_iff.mp found with ⟨-, before, after, splits⟩
    have size := splits.size_eq
    have positive := char.utf8Size_pos
    rw [byteSize_cons] at size
    rcases outside with atEnd | invalid
    · omega
    · exact invalid splits.isValid

end Place

end Lexis.Text
