import Lexis.Proofs.Text.Action

/-!
# Bytes skipped and characters skipped

A place skips byte by byte.  From a place between characters, a test that
accepts ASCII bytes only stops where the first character fails it, and an ASCII
byte is counted and sought as the character that it is (`skips_characters`).
No byte of a longer character is ever taken for one of these, so all skipping
ends between characters again.
-/

namespace Lexis.Text

open Segment

theorem toNat_ofNat_of_ascii {code : Nat} (ascii : code < 0x80) :
    (Char.ofNat code).toNat = code := by
  have valid : code.isValidChar := .inl (Nat.lt_trans ascii (by decide))
  rw [Char.ofNat, dif_pos valid]
  rfl

/-- A test that accepts ASCII bytes only decides being an ASCII character whose
byte it accepts. -/
theorem decides_of_asciiOnly {accepts : UInt8 → Bool}
    (asciiOnly : ∀ byte, 0x80 ≤ byte → accepts byte = false) :
    Decides accepts (fun char => isAscii char && accepts (UInt8.ofNat char.toNat)) := by
  apply decides_of_ascii false
  · intro code ascii
    simp [isAscii, toNat_ofNat_of_ascii ascii, ascii]
  · exact asciiOnly
  · intro char wide
    simp [isAscii, Nat.not_lt.mpr wide]

/-- An ASCII byte is the byte of an ASCII character. -/
theorem ascii_ofNat_toNat {byte : UInt8} (ascii : byte < 0x80) :
    (Char.ofNat byte.toNat).toNat < 0x80 ∧
      UInt8.ofNat (Char.ofNat byte.toNat).toNat = byte := by
  have low : byte.toNat < 0x80 := UInt8.lt_iff_toNat_lt.mp ascii
  rw [toNat_ofNat_of_ascii low]
  exact ⟨low, UInt8.ofNat_toNat⟩

namespace Place

variable {place : Place} {before after : List Char} {mark : Char}

/-- A run counts the copies of an ASCII character that it moves over: all of
them, or as many as the limit allows. -/
theorem Splits.takeRun_eq (splits : place.Splits before after) (ascii : mark.toNat < 0x80)
    (limit : Option Nat) :
    let copies := (after.takeWhile (· == mark)).length
    let taken := limit.elim copies (min · copies)
    place.takeRun (UInt8.ofNat mark.toNat) limit = (taken, place.forward taken) := by
  intro copies taken
  have moved : place.skipRun (UInt8.ofNat mark.toNat) limit = place.forward taken := by
    cases limit with
    | none => exact splits.skipRun_none_eq ascii
    | some most => exact splits.skipRun_some_eq ascii most
  rw [takeRun, moved, forward_offset, Nat.add_sub_cancel_left]

/-- Copies of an ASCII character can be moved over one by one. -/
theorem Splits.forward_replicate {count : Nat} (splits : place.Splits before after)
    (ascii : mark.toNat < 0x80) (short : count ≤ (after.takeWhile (· == mark)).length) :
    (place.forward count).Splits (before ++ List.replicate count mark) (after.drop count) := by
  rw [← replicate_append_drop short] at splits
  have moved := splits.forward
  rwa [byteSize_replicate ascii] at moved

/-- From a place between characters, skipping by a test that accepts ASCII bytes
only stops before the first character that is not ASCII or fails the test, a run
of an ASCII byte takes and counts copies of its character up to the limit, and
seeking one stops before the first copy.  All of them may reach the end, and
all of them end between characters. -/
theorem skips_characters (proper : place.Proper) :
    ∃ before after, place.Splits before after ∧
      (∀ accepts : UInt8 → Bool, (∀ byte, 0x80 ≤ byte → accepts byte = false) →
        let passes (char : Char) := isAscii char && accepts (UInt8.ofNat char.toNat)
        let skipped := place.skipWhile accepts
        skipped.Splits (before ++ after.takeWhile passes) (after.dropWhile passes) ∧
          skipped.Proper) ∧
      ∀ byte : UInt8, byte < 0x80 →
        let mark := Char.ofNat byte.toNat
        (∀ limit : Option Nat,
          let copies := (after.takeWhile (· == mark)).length
          let taken := limit.elim copies (min · copies)
          let run := place.takeRun byte limit
          run.1 = taken ∧
            run.2.Splits (before ++ List.replicate taken mark) (after.drop taken) ∧
            run.2.Proper) ∧
        let sought := place.skipTo byte
        sought.Splits (before ++ after.takeWhile (· != mark)) (after.dropWhile (· != mark)) ∧
          sought.Proper := by
  rcases exists_splits_iff.mpr proper.2 with ⟨before, after, splits⟩
  refine ⟨before, after, splits, ?_, ?_⟩
  · intro accepts asciiOnly passes skipped
    have stopped := splits.skipWhile (decides_of_asciiOnly asciiOnly)
    exact ⟨stopped, stopped.proper⟩
  · intro byte single mark
    rcases ascii_ofNat_toNat single with ⟨ascii, same⟩
    constructor
    · intro limit copies taken run
      have counted : run = (taken, place.forward taken) := by
        rw [← splits.takeRun_eq ascii limit, same]
      have short : taken ≤ copies := by
        cases limit with
        | none => exact Nat.le_refl copies
        | some most => exact Nat.min_le_right most copies
      have moved := splits.forward_replicate ascii short
      rw [counted]
      exact ⟨rfl, moved, moved.proper⟩
    · intro sought
      have stopped := splits.skipTo ascii
      rw [same] at stopped
      exact ⟨stopped, stopped.proper⟩

/-- Between longer characters, a limit stops a run early, and a longer character
stops skipping and is passed over in seeking. -/
theorem skips_characters_wide :
    let place : Place := ⟨"λ##1é-€", 2⟩
    let accepts (byte : UInt8) := byte == 0x23 || CharClass.digit.contains byte
    place.Proper ∧ (∀ byte, 0x80 ≤ byte → accepts byte = false) ∧
      (place.skipWhile accepts).offset = 5 ∧
      (place.takeRun 0x23 (some 1)).1 = 1 ∧ (place.takeRun 0x23 (some 1)).2.offset = 3 ∧
      (place.takeRun 0x23 none).1 = 2 ∧
      (place.skipTo 0x2d).offset = 7 ∧ (place.skipTo 0x2e).offset = 11 := by
  intro place accepts
  have known : place.Splits ['λ'] ['#', '#', '1', 'é', '-', '€'] := ⟨rfl, rfl⟩
  have asciiOnly : ∀ byte, 0x80 ≤ byte → accepts byte = false := by
    intro byte high
    have notMark : byte ≠ 0x23 := by
      rintro rfl
      contradiction
    simp [accepts, notMark, contains_eq_false_of_high .digit high]
  rcases skips_characters known.proper with ⟨before, after, splits, skips, single⟩
  obtain ⟨rfl, rfl⟩ := splits.unique known
  rcases single 0x23 (by decide) with ⟨runs, -⟩
  rcases single 0x2d (by decide) with ⟨-, seeksDash, -⟩
  rcases single 0x2e (by decide) with ⟨-, seeksEnd, -⟩
  refine ⟨known.proper, asciiOnly, (skips accepts asciiOnly).1.offset_eq.trans ?_,
    (runs (some 1)).1.trans ?_, (runs (some 1)).2.1.offset_eq.trans ?_,
    (runs none).1.trans ?_, seeksDash.offset_eq.trans ?_, seeksEnd.offset_eq.trans ?_⟩
  all_goals decide +kernel

end Place

end Lexis.Text
