import Lexis.Proofs.Text.Boundary

/-!
# Looking ahead and moving

What a place shows of the text ahead is what is cut out after moving over as
many bytes, and the shortest text that it shows is the character that it takes
(`peek?_agrees`).  Taking one character after the other goes through all
characters that are left (`Splits.takeAll_eq`).
-/

namespace Lexis.Text.Place

variable {place next : Place} {before after : List Char} {char : Char} {text : String}
  {count : Nat}

/-! ## The text ahead -/

/-- There is a text ahead exactly when neither end of it splits a character. -/
theorem exists_peek?_iff :
    (∃ text, place.peek? count = some text) ↔
      place.offset + count ≤ place.source.utf8ByteSize ∧
        String.Pos.Raw.IsValid place.source ⟨place.offset⟩ ∧
        String.Pos.Raw.IsValid place.source ⟨place.offset + count⟩ := by
  rw [peek?, exists_between?_iff]
  constructor
  · rintro ⟨-, begins, ends⟩
    exact ⟨ends.le_rawEndPos, begins, ends⟩
  · rintro ⟨-, begins, ends⟩
    exact ⟨Nat.le_add_right _ _, begins, ends⟩

/-- A text ahead is as long as asked for, and is what is cut out after moving
over it. -/
theorem textSince?_advance (shown : place.peek? count = some text) :
    text.utf8ByteSize = count ∧ place.advance count = place.forward count ∧
      (place.advance count).textSince? place.offset = some text := by
  rcases between?_eq_some_iff.mp shown with ⟨before, after, -, -, length⟩
  have inside := (exists_peek?_iff.mp ⟨text, shown⟩).1
  have moved : place.advance count = place.forward count := by
    rw [advance, Nat.min_eq_left inside]
    rfl
  refine ⟨(Nat.add_left_cancel length).symm, moved, ?_⟩
  rw [moved]
  exact shown

/-! ## The character ahead -/

/-- The character ahead is shown when as many bytes are asked for. -/
theorem Splits.peek?_utf8Size_iff (splits : place.Splits before (char :: after)) {other : Char} :
    place.peek? other.utf8Size = some (String.singleton other) ↔ other = char := by
  have alone : String.singleton other = String.ofList [other] := rfl
  rw [alone, splits.peek?_eq_some_iff]
  simp [List.cons_prefix_cons]

/-- No beginning of the character ahead is shown. -/
theorem Splits.peek?_eq_none (splits : place.Splits before (char :: after))
    (positive : 0 < count) (short : count < char.utf8Size) : place.peek? count = none := by
  by_contra found
  rcases Option.ne_none_iff_exists'.mp found with ⟨text, shown⟩
  rw [← String.ofList_toList (s := text), splits.peek?_eq_some_iff] at shown
  rcases shown with ⟨begins, size⟩
  cases listed : text.toList with
  | nil =>
      rw [listed, byteSize_nil] at size
      omega
  | cons first rest =>
      rw [listed] at begins size
      obtain rfl := (List.cons_prefix_cons.mp begins).1
      rw [byteSize_cons] at size
      omega

/-- Taking the character ahead is the least that can be cut out ahead. -/
theorem Splits.takeChar?_iff_peek? (splits : place.Splits before (char :: after)) (other : Char) :
    (∃ next, place.takeChar? = some (other, next)) ↔
      place.peek? other.utf8Size = some (String.singleton other) := by
  rw [splits.peek?_utf8Size_iff, splits.takeChar?_cons]
  simp [eq_comm]

/-! ## All characters ahead -/

theorem remaining_lt_of_takeChar?_eq_some (taken : place.takeChar? = some (char, next)) :
    next.remaining < place.remaining := by
  rcases takeChar?_eq_some_iff.mp taken with ⟨rfl, before, after, splits⟩
  have size := splits.size_eq
  have positive := char.utf8Size_pos
  rw [byteSize_cons] at size
  rw [remaining, remaining, forward_source, forward_offset]
  omega

/-- Take one character after the other, as long as there is one. -/
def takeAll (place : Place) : List Char × Place :=
  match _ : place.takeChar? with
  | none => ([], place)
  | some (char, next) =>
      let (chars, last) := next.takeAll
      (char :: chars, last)
termination_by place.remaining
decreasing_by exact remaining_lt_of_takeChar?_eq_some ‹_›

theorem takeAll_of_eq_none (nothing : place.takeChar? = none) : place.takeAll = ([], place) := by
  rw [takeAll]
  split
  · rfl
  next taken =>
      rw [nothing] at taken
      contradiction

theorem takeAll_of_eq_some (taken : place.takeChar? = some (char, next)) :
    place.takeAll = (char :: next.takeAll.1, next.takeAll.2) := by
  rw [takeAll]
  split
  next nothing =>
      rw [nothing] at taken
      contradiction
  next same =>
      obtain ⟨rfl, rfl⟩ := Prod.mk.inj (Option.some_inj.mp (taken.symm.trans same))
      rfl

/-- All characters behind a place are taken, and the end is reached. -/
theorem Splits.takeAll_eq (splits : place.Splits before after) :
    place.takeAll = (after, place.forward (byteSize after)) := by
  induction after generalizing place before with
  | nil =>
      have atEnd : place.offset = place.source.utf8ByteSize := splits.size_eq.symm
      exact takeAll_of_eq_none (takeChar?_eq_none_iff.mpr (.inl atEnd))
  | cons char rest inductionHypothesis =>
      have moved : (place.forward (byteSize [char])).Splits (before ++ [char]) rest :=
        Splits.forward splits
      rw [byteSize_cons, byteSize_nil, Nat.add_zero] at moved
      rw [takeAll_of_eq_some splits.takeChar?_cons, inductionHypothesis moved, forward_forward,
        byteSize_cons]

/-- There is a text of so many bytes ahead exactly when they do not reach past
the end and neither end of them splits a character.  It has as many bytes then,
moving over it leads exactly behind it, and there it is what is cut out.
Between characters and before the end, the character that is taken and moved
over is the one that is shown when its bytes are asked for, and fewer bytes show
nothing.  So taking characters goes through all of a source. -/
theorem peek?_agrees (source : String) (offset count : Nat) :
    let place : Place := ⟨source, offset⟩
    ((∃ text, place.peek? count = some text) ↔
      offset + count ≤ source.utf8ByteSize ∧ String.Pos.Raw.IsValid source ⟨offset⟩ ∧
        String.Pos.Raw.IsValid source ⟨offset + count⟩) ∧
    (∀ text, place.peek? count = some text →
      text.utf8ByteSize = count ∧ (place.advance count).offset = offset + count ∧
        (place.advance count).textSince? offset = some text) ∧
    (String.Pos.Raw.IsValid source ⟨offset⟩ → offset < source.utf8ByteSize →
      (∀ char, (∃ next, place.takeChar? = some (char, next)) ↔
        place.peek? char.utf8Size = some (String.singleton char)) ∧
      ∃ char, place.takeChar? = some (char, ⟨source, offset + char.utf8Size⟩) ∧
        ∀ shorter, 0 < shorter → shorter < char.utf8Size → place.peek? shorter = none) ∧
    (start source).takeAll = (source.toList, ⟨source, source.utf8ByteSize⟩) := by
  intro place
  refine ⟨exists_peek?_iff, ?_, ?_, ?_⟩
  · intro text shown
    rcases textSince?_advance shown with ⟨length, moved, cut⟩
    exact ⟨length, congrArg Place.offset moved, cut⟩
  · intro valid inside
    rcases (@exists_splits_iff place).mpr valid with ⟨before, after, splits⟩
    cases after with
    | nil => exact absurd splits.size_eq.symm (Nat.ne_of_lt inside)
    | cons char rest =>
        refine ⟨splits.takeChar?_iff_peek?, char, splits.takeChar?_cons, ?_⟩
        exact fun shorter positive short => splits.peek?_eq_none positive short
  · rw [(splits_start source).takeAll_eq, byteSize_toList, forward, start, Nat.zero_add]

/-- Two bytes ahead end inside a character, three do not. -/
example : (Place.mk "+é" 0).peek? 2 = none ∧ (Place.mk "+é" 0).peek? 3 = some "+é" := by
  decide +kernel

end Lexis.Text.Place
