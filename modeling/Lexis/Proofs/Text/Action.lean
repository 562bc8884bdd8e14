import Lexis.Proofs.Text.Boundary

/-!
# Actions on a place

Reading moves a place by a few kinds of actions, and looks at the text around
it by a few others (`Action`).  Some of them can go wrong: text cannot be cut
out in the middle of a character, searching cannot begin past the end, and
there may be no character to take.

An action is safe when it does not go wrong and stays between characters at
every byte it stops at (`Safe`).  Runs stop at every byte, and are safe because
they hold ASCII bytes only.
-/

namespace Lexis.Text

/-! ## Two phases of a run -/

/-- A run can be moved over in two phases, if the first accepts less. -/
theorem runEnd_runEnd {text : String} {small large : UInt8 → Bool}
    (less : ∀ byte, small byte = true → large byte = true) (start limit : Nat) :
    runEnd text large (runEnd text small start limit)
        (limit - (runEnd text small start limit - start)) =
      runEnd text large start limit := by
  induction limit generalizing start with
  | zero => rw [runEnd, Nat.zero_sub]
  | succ limit inductionHypothesis =>
      by_cases accepted : (byteAt? text start).any small = true
      · have also : (byteAt? text start).any large = true := by
          rw [Option.any_eq_true] at accepted ⊢
          rcases accepted with ⟨byte, found, passes⟩
          exact ⟨byte, found, less byte passes⟩
        have later := le_runEnd text small (start + 1) limit
        rw [runEnd, if_pos accepted, runEnd, if_pos also, ← inductionHypothesis (start + 1)]
        congr 1
        omega
      · rw [runEnd, if_neg accepted, Nat.sub_self, Nat.sub_zero]

namespace Place

theorem skipWhile_skipWhile {small large : UInt8 → Bool}
    (less : ∀ byte, small byte = true → large byte = true) (place : Place) :
    (place.skipWhile small).skipWhile large = place.skipWhile large := by
  have moved := place.le_skipWhile small
  have left : (place.skipWhile small).remaining =
      place.remaining - ((place.skipWhile small).offset - place.offset) := by
    rw [remaining, remaining, skipWhile_source]
    omega
  rw [Place.skipWhile, left]
  exact congrArg (Place.mk place.source) (runEnd_runEnd less place.offset place.remaining)

/-! ## What an action does -/

/-- One operation on a place. -/
inductive Action where
  /-- Move over the bytes of a class, byte by byte. -/
  | skip (kind : CharClass)
  /-- Move over copies of a byte, byte by byte. -/
  | run (byte : UInt8) (limit : Option Nat)
  /-- Jump to the next occurrence of a byte. -/
  | seek (byte : UInt8)
  /-- Compare the end of the next bytes with the end of the source. -/
  | measure (count : Nat)
  /-- Look at the next bytes. -/
  | peek (count : Nat)
  /-- Jump over bytes. -/
  | advance (count : Nat)
  /-- Cut out the text since an earlier offset. -/
  | cut (first : Nat)
  /-- Take the character at the place. -/
  | take
  deriving DecidableEq

namespace Action

/-- The place after an action, or `none` if the action goes wrong. -/
def perform (place : Place) : Action → Option Place
  | skip kind => some (place.skipWhile kind.contains)
  | run byte limit => some (place.skipRun byte limit)
  | seek byte =>
      if place.offset ≤ place.source.utf8ByteSize then some (place.skipTo byte) else none
  | measure _ => some place
  | peek _ => some place
  | advance count => some (place.advance count)
  | cut first => (place.textSince? first).map fun _ => place
  | take => place.takeChar?.map Prod.snd

/-- Whether an action moves byte by byte. -/
def isGradual : Action → Bool
  | skip _ => true
  | run _ _ => true
  | _ => false

/-- Whether a place is one at which an action stops: where it begins, where it
ends, and in between if it moves byte by byte. -/
def StopsAt (place : Place) (action : Action) (stop : Place) : Prop :=
  stop = place ∨ ∃ last, action.perform place = some last ∧
    (stop = last ∨ action.isGradual = true ∧ stop.source = place.source ∧
      place.offset ≤ stop.offset ∧ stop.offset ≤ last.offset)

/-- How far past the place an action reaches without moving there. -/
def reach : Action → Nat
  | measure count => count
  | peek count => count
  | advance count => count
  | _ => 0

/-- Whether an action computes an offset: that of a stop, or how far it
reaches. -/
def Computes (place : Place) (action : Action) (offset : Nat) : Prop :=
  (∃ stop, action.StopsAt place stop ∧ offset = stop.offset) ∨
    offset = place.offset + action.reach

/-- Whether the text that an action cuts out, if it cuts out any, exists and is
not empty. -/
def CutsText (place : Place) : Action → Prop
  | cut first => ∃ lexeme, place.textSince? first = some lexeme ∧ lexeme ≠ ""
  | _ => True

theorem reach_of_isGradual {action : Action} (gradual : action.isGradual = true) :
    action.reach = 0 := by
  cases action with
  | skip => rfl
  | run => rfl
  | _ => contradiction

theorem cutsText_of_isGradual {place : Place} {action : Action}
    (gradual : action.isGradual = true) : action.CutsText place := by
  cases action with
  | cut => contradiction
  | _ => trivial

end Action

/-- The place is no further than the end of its source and splits no character. -/
def Proper (place : Place) : Prop :=
  place.offset ≤ place.source.utf8ByteSize ∧
    String.Pos.Raw.IsValid place.source ⟨place.offset⟩

/-- An action does not go wrong, stops at proper places only, computes no
offset that is more than two bytes past the end, and cuts out no empty text. -/
structure Action.Safe (place : Place) (action : Action) : Prop where
  performs : ∃ last, action.perform place = some last
  proper : ∀ stop, action.StopsAt place stop → stop.Proper
  computed_le : ∀ offset, action.Computes place offset →
    offset ≤ place.source.utf8ByteSize + 2
  cuts : action.CutsText place

/-- Safe actions, one after the other, from one place to another. -/
inductive SafeRun : Place → List Action → Place → Prop
  | nil {place : Place} : SafeRun place [] place
  | cons {place next last : Place} {action : Action} {later : List Action} :
      action.Safe place → action.perform place = some next → SafeRun next later last →
      SafeRun place (action :: later) last

theorem SafeRun.append {place middle last : Place} {first second : List Action}
    (begun : SafeRun place first middle) (ended : SafeRun middle second last) :
    SafeRun place (first ++ second) last := by
  induction begun with
  | nil => exact ended
  | cons safe performed _ inductionHypothesis =>
      exact .cons safe performed (inductionHypothesis ended)

variable {place last : Place} {action : Action} {before front after : List Char}

/-! ## Stops -/

theorem Splits.proper (splits : place.Splits before after) : place.Proper := by
  constructor
  · rw [splits.size_eq]
    apply Nat.le_add_right
  · exact splits.isValid

/-- Every byte behind ASCII characters begins a character. -/
theorem Splits.proper_forward (splits : place.Splits before (front ++ after))
    (ascii : ∀ char ∈ front, char.toNat < 0x80) {count : Nat} (within : count ≤ byteSize front) :
    (place.forward count).Proper := by
  have size := byteSize_of_ascii ascii
  have taken : byteSize (front.take count) = count := by
    rw [byteSize_of_ascii fun char found => ascii char (List.mem_of_mem_take found),
      List.length_take]
    omega
  rw [← List.take_append_drop count front, List.append_assoc] at splits
  have moved := splits.forward
  rw [taken] at moved
  exact moved.proper

theorem Action.StopsAt.source_eq {stop : Place} (stops : action.StopsAt place stop) :
    stop.source = place.source := by
  rcases stops with rfl | ⟨last, performed, rfl | ⟨-, same, -⟩⟩
  · rfl
  · cases action with
    | seek byte =>
        rw [perform] at performed
        split at performed
        · obtain rfl := Option.some_inj.mp performed
          rfl
        · contradiction
    | cut first =>
        rcases Option.map_eq_some_iff.mp performed with ⟨_, -, rfl⟩
        rfl
    | take =>
        rcases Option.map_eq_some_iff.mp performed with ⟨⟨char, behind⟩, taken, rfl⟩
        exact source_of_takeChar?_eq_some taken
    | _ =>
        obtain rfl := Option.some_inj.mp performed
        rfl
  · exact same

/-! ## Safe actions -/

/-- An action that stops at proper places only is safe if it reaches no further
than two bytes. -/
theorem Action.Safe.of_proper (performed : action.perform place = some last)
    (proper : ∀ stop, action.StopsAt place stop → stop.Proper) (near : action.reach ≤ 2)
    (cuts : action.CutsText place) : action.Safe place where
  performs := ⟨last, performed⟩
  proper := proper
  cuts := cuts
  computed_le := by
    rintro offset (⟨stop, stops, rfl⟩ | rfl)
    · have inside := (proper stop stops).1
      rw [stops.source_eq] at inside
      omega
    · have inside := (proper place (Or.inl rfl)).1
      omega

/-- An action that moves byte by byte over ASCII characters is safe. -/
theorem Action.Safe.of_gradual (splits : place.Splits before (front ++ after))
    (ascii : ∀ char ∈ front, char.toNat < 0x80) (gradual : action.isGradual = true)
    (performed : action.perform place = some (place.forward (byteSize front))) :
    action.Safe place := by
  apply Action.Safe.of_proper performed
  · intro stop stops
    have source := stops.source_eq
    have between : place.offset ≤ stop.offset ∧ stop.offset ≤ place.offset + byteSize front := by
      rcases stops with rfl | ⟨last, ended, stops⟩
      · omega
      · obtain rfl := Option.some_inj.mp (performed.symm.trans ended)
        rcases stops with rfl | ⟨-, -, later, earlier⟩
        · exact ⟨Nat.le_add_right _ _, Nat.le_refl _⟩
        · exact ⟨later, earlier⟩
    have same : place.forward (stop.offset - place.offset) = stop := by
      rcases stop with ⟨text, offset⟩
      obtain rfl : text = place.source := source
      rw [forward, Nat.add_sub_cancel' between.1]
    rw [← same]
    exact splits.proper_forward ascii (by omega)
  · rw [reach_of_isGradual gradual]
    apply Nat.zero_le
  · exact cutsText_of_isGradual gradual

/-- An action that jumps from a proper place to another is safe. -/
theorem Action.Safe.of_abrupt (begins : place.Proper) (ends : last.Proper)
    (abrupt : action.isGradual = false) (performed : action.perform place = some last)
    (near : action.reach ≤ 2) (cuts : action.CutsText place) : action.Safe place := by
  apply Action.Safe.of_proper performed ?_ near cuts
  rintro stop (rfl | ⟨reached, ended, rfl | ⟨gradual, -⟩⟩)
  · exact begins
  · obtain rfl := Option.some_inj.mp (performed.symm.trans ended)
    exact ends
  · rw [abrupt] at gradual
    contradiction

/-! ## Each action in turn -/

namespace Splits

theorem safe_skip (splits : place.Splits before after) (kind : CharClass) :
    (Action.skip kind).Safe place := by
  have decides := kind.decides_includes
  have performed : (Action.skip kind).perform place =
      some (place.forward (byteSize (after.takeWhile kind.includes))) :=
    congrArg some (splits.skipWhile_eq decides)
  rw [← List.takeWhile_append_dropWhile (p := kind.includes) (l := after)] at splits
  apply Action.Safe.of_gradual splits ?_ rfl performed
  intro char found
  apply decides.ascii (contains_eq_false_of_high kind)
  exact List.all_eq_true.mp List.all_takeWhile char found

/-- A run of copies of an ASCII character can be moved over. -/
theorem safe_run (splits : place.Splits before after) {mark : Char} (ascii : mark.toNat < 0x80)
    (limit : Option Nat) : (Action.run (UInt8.ofNat mark.toNat) limit).Safe place := by
  have moved : ∃ count, place.skipRun (UInt8.ofNat mark.toNat) limit = place.forward count ∧
      count ≤ (after.takeWhile (· == mark)).length := by
    cases limit with
    | none => exact ⟨_, splits.skipRun_none_eq ascii, Nat.le_refl _⟩
    | some most => exact ⟨_, splits.skipRun_some_eq ascii most, Nat.min_le_right _ _⟩
  rcases moved with ⟨count, performed, short⟩
  rw [← replicate_append_drop short] at splits
  apply Action.Safe.of_gradual splits
  · intro char found
    rwa [List.eq_of_mem_replicate found]
  · rfl
  · rw [Action.perform, performed, byteSize_replicate ascii]

theorem safe_seek (splits : place.Splits before after) {mark : Char} (ascii : mark.toNat < 0x80) :
    (Action.seek (UInt8.ofNat mark.toNat)).Safe place := by
  apply Action.Safe.of_abrupt splits.proper (splits.skipTo ascii).proper rfl
  · rw [Action.perform, if_pos splits.proper.1]
  · apply Nat.zero_le
  · trivial

theorem safe_measure (splits : place.Splits before after) {count : Nat} (near : count ≤ 2) :
    (Action.measure count).Safe place :=
  .of_abrupt splits.proper splits.proper rfl rfl near trivial

theorem safe_peek (splits : place.Splits before after) {count : Nat} (near : count ≤ 2) :
    (Action.peek count).Safe place :=
  .of_abrupt splits.proper splits.proper rfl rfl near trivial

theorem safe_advance (splits : place.Splits before (front ++ after))
    (near : byteSize front ≤ 2) : (Action.advance (byteSize front)).Safe place := by
  have performed : (Action.advance (byteSize front)).perform place =
      some (place.forward (byteSize front)) := congrArg some splits.advance_eq_forward
  exact .of_abrupt splits.proper splits.forward.proper rfl performed near trivial

theorem safe_cut {piece : List Char} (splits : place.Splits (before ++ piece) after)
    (notEmpty : piece ≠ []) : (Action.cut (byteSize before)).Safe place := by
  have cut := splits.textSince?_eq
  apply Action.Safe.of_abrupt splits.proper splits.proper rfl
  · rw [Action.perform, cut, Option.map_some]
  · apply Nat.zero_le
  · exact ⟨_, cut, by simpa using notEmpty⟩

theorem safe_take {char : Char} (splits : place.Splits before (char :: after)) :
    Action.take.Safe place := by
  have taken := splits.takeChar?_cons
  have moved : (place.forward (byteSize [char])).Splits (before ++ [char]) after :=
    Splits.forward splits
  rw [byteSize_cons, byteSize_nil, Nat.add_zero] at moved
  apply Action.Safe.of_abrupt splits.proper moved.proper rfl
  · rw [Action.perform, taken, Option.map_some]
  · apply Nat.zero_le
  · trivial

end Splits

end Place

end Lexis.Text
