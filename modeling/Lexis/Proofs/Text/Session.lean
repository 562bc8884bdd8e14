import Lexis.Proofs.Session
import Lexis.Proofs.Text.Boundary

/-!
# Sessions on a place

A session is any sequence of calls on a place, of which copies can be kept and
gone back to (`Place.Call`).  A place may come to lie inside a character then,
but no call leads past the end of the source, and only going back leads
backwards.  Cutting out text is all that can go wrong (`session_within`).
-/

namespace Lexis.Text.Place

/-! ## Calls and replies -/

/-- What can be asked of a place. -/
inductive Call where
  | byte
  | peek (count : Nat)
  /-- Cut out the text since an earlier offset. -/
  | cut (first : Nat)
  | advance (count : Nat)
  | skip (accepts : UInt8 → Bool)
  /-- Count copies of a byte and move over them. -/
  | run (byte : UInt8) (limit : Option Nat)
  | seek (byte : UInt8)
  | take
  /-- Keep a copy of the place. -/
  | keep
  /-- Go back to a copy, the last one that was kept being the first. -/
  | restore (index : Nat)

/-- What is replied. -/
inductive Reply where
  | byte (byte? : Option UInt8)
  | text (text? : Option String)
  | counted (count : Nat)
  | taken (char? : Option Char)
  | done
  /-- The call has gone wrong. -/
  | wrong

/-- A place and the copies that were kept, the last one first. -/
structure Bookmarked where
  place : Place
  kept : List Place

namespace Bookmarked

/-- The beginning of a source, of which there is a copy. -/
def start (source : String) : Bookmarked :=
  ⟨.start source, [.start source]⟩

/-- The same copies with another place. -/
def moved (marked : Bookmarked) (next : Place) : Bookmarked :=
  { marked with place := next }

/-- The reply to a call and what there is after it.  Text cannot be cut out
inside a character or backwards, and seeking cannot begin past the end. -/
def answer (marked : Bookmarked) : Call → Reply × Bookmarked
  | .byte => (.byte marked.place.byte?, marked)
  | .peek count => (.text (marked.place.peek? count), marked)
  | .cut first =>
      match marked.place.textSince? first with
      | some text => (.text (some text), marked)
      | none => (.wrong, marked)
  | .advance count => (.done, marked.moved (marked.place.advance count))
  | .skip accepts => (.done, marked.moved (marked.place.skipWhile accepts))
  | .run byte limit =>
      let (count, next) := marked.place.takeRun byte limit
      (.counted count, marked.moved next)
  | .seek byte =>
      if marked.place.offset ≤ marked.place.source.utf8ByteSize then
        (.done, marked.moved (marked.place.skipTo byte))
      else
        (.wrong, marked)
  | .take =>
      match marked.place.takeChar? with
      | some (char, next) => (.taken (some char), marked.moved next)
      | none => (.taken none, marked)
  | .keep => (.done, { marked with kept := marked.place :: marked.kept })
  | .restore index => (.done, marked.moved (marked.kept[index]?.getD marked.place))

end Bookmarked

/-! ## Staying within the source -/

/-- The place is one in a source, and no further than its end. -/
structure Within (source : String) (place : Place) : Prop where
  source_eq : place.source = source
  offset_le : place.offset ≤ source.utf8ByteSize

/-- A second place lies onward from the first one, within the same source. -/
structure Onward (source : String) (place next : Place) : Prop where
  within : next.Within source
  offset_le : place.offset ≤ next.offset

variable {source : String} {place next : Place}

theorem Within.onward_self (within : place.Within source) : place.Onward source place :=
  ⟨within, Nat.le_refl _⟩

theorem Within.onward_advance (within : place.Within source) (count : Nat) :
    place.Onward source (place.advance count) := by
  rcases within with ⟨rfl, inside⟩
  constructor
  · exact ⟨rfl, Nat.min_le_right _ _⟩
  · exact Nat.le_min.mpr ⟨Nat.le_add_right _ _, inside⟩

theorem Within.onward_skipWhile (within : place.Within source) (accepts : UInt8 → Bool) :
    place.Onward source (place.skipWhile accepts) := by
  rcases within with ⟨rfl, inside⟩
  exact ⟨⟨rfl, runEnd_le inside accepts _⟩, le_skipWhile _ _⟩

theorem Within.onward_skipRun (within : place.Within source) (byte : UInt8)
    (limit : Option Nat) : place.Onward source (place.skipRun byte limit) := by
  rcases within with ⟨rfl, inside⟩
  exact ⟨⟨rfl, runEnd_le inside _ _⟩, le_skipRun _ _ _⟩

/-- A character that can be taken ends within the source. -/
theorem Within.onward_takeChar? {char : Char} (within : place.Within source)
    (taken : place.takeChar? = some (char, next)) : place.Onward source next := by
  rcases within with ⟨rfl, -⟩
  rcases takeChar?_eq_some_iff.mp taken with ⟨rfl, before, after, splits⟩
  have size := splits.size_eq
  rw [byteSize_cons] at size
  constructor
  · refine ⟨rfl, ?_⟩
    rw [forward_offset]
    omega
  · exact Nat.le_add_right _ _

/-- The place and all copies are within a source. -/
structure Bookmarked.Within (source : String) (marked : Bookmarked) : Prop where
  place : marked.place.Within source
  kept : ∀ copy ∈ marked.kept, copy.Within source

namespace Bookmarked

variable {marked : Bookmarked}

theorem within_start (source : String) : (start source).Within source where
  place := ⟨rfl, Nat.zero_le _⟩
  kept := List.forall_mem_singleton.mpr ⟨rfl, Nat.zero_le _⟩

/-- A call leads onward unless it goes back to a copy. -/
theorem Within.onward_answer (within : marked.Within source) {call : Call}
    (goesOn : ∀ index, call ≠ .restore index) :
    marked.place.Onward source (marked.answer call).2.place := by
  cases call with
  | advance count => exact within.place.onward_advance count
  | skip accepts => exact within.place.onward_skipWhile accepts
  | run byte limit => exact within.place.onward_skipRun byte limit
  | cut first =>
      rw [answer]
      split <;> exact within.place.onward_self
  | seek byte =>
      rw [answer]
      split
      · exact within.place.onward_skipWhile _
      · exact within.place.onward_self
  | take =>
      rw [answer]
      split
      next taken => exact within.place.onward_takeChar? taken
      next => exact within.place.onward_self
  | restore index => exact absurd rfl (goesOn index)
  | _ => exact within.place.onward_self

theorem kept_answer_subset (marked : Bookmarked) (call : Call) :
    (marked.answer call).2.kept ⊆ marked.place :: marked.kept := by
  cases call with
  | keep => exact List.Subset.refl _
  | cut | seek | take =>
      rw [answer]
      split <;> exact List.subset_cons_self _ _
  | _ => exact List.subset_cons_self _ _

theorem Within.restored (within : marked.Within source) (index : Nat) :
    (marked.kept[index]?.getD marked.place).Within source := by
  cases found : marked.kept[index]? with
  | none => exact within.place
  | some copy => exact within.kept copy (List.mem_of_getElem? found)

theorem Within.answer (within : marked.Within source) (call : Call) :
    (marked.answer call).2.Within source := by
  constructor
  · by_cases back : ∃ index, call = .restore index
    · rcases back with ⟨index, rfl⟩
      exact within.restored index
    · exact (within.onward_answer (not_exists.mp back)).within
  · intro copy found
    rcases List.mem_cons.mp (kept_answer_subset marked call found) with rfl | earlier
    · exact within.place
    · exact within.kept copy earlier

/-- Only cutting out text goes wrong: backwards, or from or to the inside of a
character. -/
theorem Within.answer_fst_eq_wrong_iff (within : marked.Within source) (call : Call) :
    (marked.answer call).1 = .wrong ↔ ∃ first, call = .cut first ∧
      (marked.place.offset < first ∨ ¬ String.Pos.Raw.IsValid source ⟨first⟩ ∨
        ¬ String.Pos.Raw.IsValid source ⟨marked.place.offset⟩) := by
  rcases within with ⟨⟨rfl, inside⟩, -⟩
  cases call with
  | cut first =>
      rw [Bookmarked.answer]
      cases cut : marked.place.textSince? first with
      | some text => simp [← textSince?_eq_none_iff, cut]
      | none => simp [← textSince?_eq_none_iff, cut]
  | seek byte => simp [Bookmarked.answer, inside]
  | take =>
      rw [Bookmarked.answer]
      split <;> simp
  | _ => simp [Bookmarked.answer]

end Bookmarked

/-- Whatever calls have been made on a place and its copies, it lies in the same
source and no further than its end, though maybe inside a character.  No call
but going back to a copy leads backwards from there.  None goes wrong but
cutting out text, and that does exactly when it is backwards, or from or to the
inside of a character.  A character is taken unless the place is at the end or
inside one, and then nothing changes. -/
theorem session_within (source : String) (calls : List Call) :
    let marked := (Session.run Bookmarked.answer (.start source) calls).2
    let place := marked.place
    place.source = source ∧ place.offset ≤ source.utf8ByteSize ∧
      (∀ call : Call,
        let answered := marked.answer call
        ((∀ index, call ≠ .restore index) → place.offset ≤ answered.2.place.offset) ∧
          (answered.1 = .wrong ↔ ∃ first, call = .cut first ∧
            (place.offset < first ∨ ¬ String.Pos.Raw.IsValid source ⟨first⟩ ∨
              ¬ String.Pos.Raw.IsValid source ⟨place.offset⟩))) ∧
      let took := marked.answer .take
      (took.1 = .taken none ↔ place.offset = source.utf8ByteSize ∨
          ¬ String.Pos.Raw.IsValid source ⟨place.offset⟩) ∧
        (took.1 = .taken none → took.2 = marked) := by
  intro marked place
  have within : marked.Within source :=
    Session.run_invariant (fun _ call within => within.answer call)
      (Bookmarked.within_start source) calls
  have sameSource : place.source = source := within.place.source_eq
  refine ⟨sameSource, within.place.offset_le, ?_, ?_⟩
  · exact fun call => ⟨fun goesOn => (within.onward_answer goesOn).offset_le,
      within.answer_fst_eq_wrong_iff call⟩
  · have nothing := @takeChar?_eq_none_iff place
    rw [sameSource] at nothing
    rw [← nothing, Bookmarked.answer]
    cases marked.place.takeChar? with
    | some pair => simp
    | none => simp

end Lexis.Text.Place
