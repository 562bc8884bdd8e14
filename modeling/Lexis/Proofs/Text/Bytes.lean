import Lexis.Event.Reading
import Lexis.Segmentation
import Mathlib.Data.List.Basic
import Mathlib.Data.List.TakeWhile

/-!
# The bytes of characters

A text is a list of characters and, in UTF-8, a list of bytes.  An ASCII
character is one byte; every byte of another character is `0x80` or more.  So a
test of bytes that treats the bytes from `0x80` on alike is a test of
characters (`Decides`), and a run of accepted bytes is a run of accepted
characters (`Decides.takeWhile_bytes`).
-/

namespace Lexis.Text

/-- The bytes of some characters. -/
def bytes (chars : List Char) : List UInt8 :=
  chars.flatMap String.utf8EncodeChar

@[simp]
theorem utf8ByteSize_ofList (chars : List Char) :
    (String.ofList chars).utf8ByteSize = byteSize chars :=
  rfl

@[simp]
theorem byteSize_toList (text : String) : byteSize text.toList = text.utf8ByteSize := by
  rw [byteSize, String.ofList_toList]

@[simp]
theorem byteSize_nil : byteSize [] = 0 :=
  rfl

@[simp]
theorem byteSize_cons (char : Char) (rest : List Char) :
    byteSize (char :: rest) = char.utf8Size + byteSize rest := by
  simp only [byteSize, String.ofList_cons, String.utf8ByteSize_append,
    String.utf8ByteSize_singleton]

@[simp]
theorem byteSize_append (first second : List Char) :
    byteSize (first ++ second) = byteSize first + byteSize second := by
  simp only [byteSize, String.ofList_append, String.utf8ByteSize_append]

@[simp]
theorem byteSize_eq_zero_iff {chars : List Char} : byteSize chars = 0 ↔ chars = [] := by
  cases chars with
  | nil => simp
  | cons char rest =>
      have positive := char.utf8Size_pos
      rw [byteSize_cons]
      simp
      omega

theorem length_le_byteSize (chars : List Char) : chars.length ≤ byteSize chars := by
  induction chars with
  | nil => simp
  | cons char rest inductionHypothesis =>
      have positive := char.utf8Size_pos
      rw [List.length_cons, byteSize_cons]
      omega

@[simp]
theorem bytes_cons (char : Char) (rest : List Char) :
    bytes (char :: rest) = String.utf8EncodeChar char ++ bytes rest :=
  List.flatMap_cons

@[simp]
theorem bytes_append (first second : List Char) :
    bytes (first ++ second) = bytes first ++ bytes second :=
  List.flatMap_append

@[simp]
theorem length_bytes (chars : List Char) : (bytes chars).length = byteSize chars := by
  induction chars with
  | nil => rfl
  | cons char rest inductionHypothesis => simp [inductionHypothesis]

/-- Two beginnings of one list that take equally many bytes are equal. -/
theorem eq_of_append_eq_append {first second afterFirst afterSecond : List Char}
    (same : first ++ afterFirst = second ++ afterSecond)
    (sizes : byteSize first = byteSize second) :
    first = second ∧ afterFirst = afterSecond := by
  rcases List.append_eq_append_iff.mp same with ⟨more, rfl, rfl⟩ | ⟨more, rfl, rfl⟩
  all_goals
    rw [byteSize_append] at sizes
    have empty : more = [] := byteSize_eq_zero_iff.mp (by omega)
    simp [empty]

/-! ## Bytes at offsets -/

theorem byteAt?_ofList (chars : List Char) (index : Nat) :
    byteAt? (String.ofList chars) index = (bytes chars)[index]? := by
  unfold byteAt?
  split
  next inside =>
      rw [List.getElem?_eq_getElem (by rwa [length_bytes])]
      simp [String.getUTF8Byte, List.utf8Encode, bytes, List.getElem_toByteArray]
  next outside =>
      rw [List.getElem?_eq_none (by rw [length_bytes]; exact Nat.le_of_not_lt outside)]

/-- A run ends behind the accepted bytes among those that are looked at. -/
theorem runEnd_ofList (chars : List Char) (accepts : UInt8 → Bool) (start limit : Nat) :
    runEnd (String.ofList chars) accepts start limit =
      start + ((((bytes chars).drop start).take limit).takeWhile accepts).length := by
  induction limit generalizing start with
  | zero => simp [runEnd]
  | succ limit inductionHypothesis =>
      rw [runEnd, byteAt?_ofList]
      cases found : (bytes chars)[start]? with
      | none =>
          rw [List.drop_eq_nil_of_le (List.getElem?_eq_none_iff.mp found)]
          simp
      | some byte =>
          rcases List.getElem?_eq_some_iff.mp found with ⟨inside, rfl⟩
          rw [inductionHypothesis, List.drop_eq_getElem_cons inside, List.take_succ_cons]
          by_cases accepted : accepts (bytes chars)[start] = true
          · rw [List.takeWhile_cons_of_pos accepted, List.length_cons]
            simp only [Option.any_some, accepted, if_true]
            omega
          · simp [accepted]

/-! ## ASCII and other characters -/

theorem utf8EncodeChar_of_ascii {char : Char} (ascii : char.toNat < 0x80) :
    String.utf8EncodeChar char = [UInt8.ofNat char.toNat] := by
  rw [String.utf8EncodeChar, if_pos]
  · rfl
  · exact Nat.le_of_lt_succ ascii

theorem utf8Size_of_ascii {char : Char} (ascii : char.toNat < 0x80) : char.utf8Size = 1 := by
  rw [← String.length_utf8EncodeChar, utf8EncodeChar_of_ascii ascii, List.length_singleton]

theorem byteSize_of_ascii {chars : List Char} (ascii : ∀ char ∈ chars, char.toNat < 0x80) :
    byteSize chars = chars.length := by
  induction chars with
  | nil => rfl
  | cons char rest inductionHypothesis =>
      rcases List.forall_mem_cons.mp ascii with ⟨here, later⟩
      rw [byteSize_cons, utf8Size_of_ascii here, inductionHypothesis later, List.length_cons,
        Nat.add_comm]

theorem utf8Size_eq_one_iff {char : Char} : char.utf8Size = 1 ↔ char.toNat < 0x80 := by
  rw [Char.utf8Size_eq_one_iff, UInt32.le_iff_toNat_le]
  exact Nat.lt_succ_iff.symm

/-- No byte of a longer character is an ASCII byte. -/
theorem le_of_mem_utf8EncodeChar {char : Char} {byte : UInt8} (wide : 0x80 ≤ char.toNat)
    (found : byte ∈ String.utf8EncodeChar char) : 0x80 ≤ byte := by
  have notSingle : ¬ char.val.toNat ≤ 0x7f := by
    change 0x80 ≤ char.val.toNat at wide
    omega
  rw [UInt8.le_iff_toNat_le]
  simp only [String.utf8EncodeChar, if_neg notSingle] at found
  split at found
  all_goals try split at found
  all_goals
    simp only [List.mem_cons, List.not_mem_nil, or_false] at found
    rcases found with rfl | rfl | rfl | rfl
  all_goals
    simp only [UInt8.toNat_ofNat', UInt8.reduceToNat]
    omega

/-! ## Tests of bytes and tests of characters -/

/-- A test of bytes decides a test of characters when it accepts all bytes of
the characters that pass and no byte of the others. -/
def Decides (accepts : UInt8 → Bool) (accepted : Char → Bool) : Prop :=
  ∀ char, ∀ byte ∈ String.utf8EncodeChar char, accepts byte = accepted char

/-- A test of bytes that is the same from `0x80` on decides the test of
characters that agrees with it on ASCII and is the same beyond. -/
theorem decides_of_ascii {accepts : UInt8 → Bool} {accepted : Char → Bool} (beyond : Bool)
    (low : ∀ code < 0x80, accepts (UInt8.ofNat code) = accepted (Char.ofNat code))
    (high : ∀ byte : UInt8, 0x80 ≤ byte → accepts byte = beyond)
    (wide : ∀ char : Char, 0x80 ≤ char.toNat → accepted char = beyond) :
    Decides accepts accepted := by
  intro char byte found
  by_cases ascii : char.toNat < 0x80
  · rw [utf8EncodeChar_of_ascii ascii, List.mem_singleton] at found
    rw [found, low char.toNat ascii, Char.ofNat_toNat]
  · have isWide := Nat.le_of_not_lt ascii
    rw [wide char isWide, high byte (le_of_mem_utf8EncodeChar isWide found)]

namespace Decides

variable {accepts : UInt8 → Bool} {accepted : Char → Bool}

/-- The first byte of a character decides whether the character passes. -/
theorem head (decides : Decides accepts accepted) {char : Char} {rest : List Char}
    {byte : UInt8} (found : (bytes (char :: rest)).head? = some byte) :
    accepts byte = accepted char := by
  rw [bytes_cons] at found
  cases encoded : String.utf8EncodeChar char with
  | nil => exact absurd encoded String.utf8EncodeChar_ne_nil
  | cons first others =>
      rw [encoded, List.cons_append, List.head?_cons, Option.some_inj] at found
      subst found
      exact decides char first (by simp [encoded])

/-- The run of accepted bytes is the run of accepted characters. -/
theorem takeWhile_bytes (decides : Decides accepts accepted) (chars : List Char) :
    (bytes chars).takeWhile accepts = bytes (chars.takeWhile accepted) := by
  induction chars with
  | nil => rfl
  | cons char rest inductionHypothesis =>
      by_cases passes : accepted char = true
      · rw [List.takeWhile_cons_of_pos passes, bytes_cons, bytes_cons,
          List.takeWhile_append_of_pos, inductionHypothesis]
        intro byte found
        rw [decides char byte found, passes]
      · rw [List.takeWhile_cons_of_neg passes]
        cases found : (bytes (char :: rest)) with
        | nil => rfl
        | cons byte others =>
            have rejected : accepts byte = accepted char :=
              decides.head (congrArg List.head? found)
            rw [List.takeWhile_cons_of_neg (by rwa [rejected])]
            rfl

/-- A test that accepts ASCII bytes only decides a test of ASCII characters. -/
theorem ascii (decides : Decides accepts accepted)
    (low : ∀ {byte : UInt8}, 0x80 ≤ byte → accepts byte = false) {char : Char}
    (passes : accepted char = true) : char.toNat < 0x80 := by
  by_contra notAscii
  rcases List.exists_mem_of_ne_nil _ (String.utf8EncodeChar_ne_nil (c := char)) with ⟨byte, found⟩
  have rejected := low (le_of_mem_utf8EncodeChar (Nat.le_of_not_lt notAscii) found)
  rw [decides char byte found, passes] at rejected
  contradiction

theorem not (decides : Decides accepts accepted) :
    Decides (fun byte => !accepts byte) (fun char => !accepted char) := by
  intro char byte found
  exact congrArg Bool.not (decides char byte found)

end Decides

/-- Comparing with an ASCII byte decides comparing with its character. -/
theorem decides_beq {mark : Char} (ascii : mark.toNat < 0x80) :
    Decides (· == UInt8.ofNat mark.toNat) (· == mark) := by
  intro char byte found
  have markCode : (UInt8.ofNat mark.toNat).toNat = mark.toNat :=
    UInt8.toNat_ofNat_of_lt' (Nat.lt_trans ascii (by decide))
  rw [Bool.eq_iff_iff, beq_iff_eq, beq_iff_eq, ← UInt8.toNat_inj, ← Char.toNat_inj, markCode]
  by_cases single : char.toNat < 0x80
  · rw [utf8EncodeChar_of_ascii single, List.mem_singleton] at found
    rw [found, UInt8.toNat_ofNat_of_lt' (Nat.lt_trans single (by decide))]
  · have high := UInt8.le_iff_toNat_le.mp
      (le_of_mem_utf8EncodeChar (Nat.le_of_not_lt single) found)
    change 0x80 ≤ byte.toNat at high
    omega

/-! ## The classes of a source -/

open CharClass Segment

theorem contains_eq_false_of_high (kind : CharClass) {byte : UInt8} (high : 0x80 ≤ byte) :
    kind.contains byte = false := by
  rw [UInt8.le_iff_toNat_le] at high
  change 0x80 ≤ byte.toNat at high
  cases kind <;>
    simp only [CharClass.contains, within, Bool.or_eq_false_iff, Bool.and_eq_false_iff,
      decide_eq_false_iff_not, beq_eq_false_iff_ne, ne_eq, UInt8.le_iff_toNat_le,
      ← UInt8.toNat_inj, UInt8.reduceToNat] <;>
    omega

theorem decides_whitespace : Decides whitespace.contains isBlank := by
  apply decides_of_ascii false (by decide) (fun _ => contains_eq_false_of_high _)
  intro char wide
  simp only [isBlank, Bool.or_eq_false_iff, beq_eq_false_iff_ne, ne_eq, ← Char.toNat_inj,
    Char.reduceToNat]
  omega

theorem isDigit_iff {char : Char} :
    char.isDigit = true ↔ 0x30 ≤ char.toNat ∧ char.toNat ≤ 0x39 := by
  have ranges : char.isDigit =
      (decide ('0'.val ≤ char.val) && decide (char.val ≤ '9'.val)) := rfl
  rw [ranges, Bool.and_eq_true, decide_eq_true_iff, decide_eq_true_iff, UInt32.le_iff_toNat_le,
    UInt32.le_iff_toNat_le]
  rfl

theorem isAlpha_iff {char : Char} :
    char.isAlpha = true ↔
      0x41 ≤ char.toNat ∧ char.toNat ≤ 0x5a ∨ 0x61 ≤ char.toNat ∧ char.toNat ≤ 0x7a := by
  have ranges : char.isAlpha =
      (decide ('A'.val ≤ char.val ∧ char.val ≤ 'Z'.val) ||
        decide ('a'.val ≤ char.val) && decide (char.val ≤ 'z'.val)) := rfl
  rw [ranges, Bool.or_eq_true, Bool.and_eq_true, decide_eq_true_iff, decide_eq_true_iff,
    decide_eq_true_iff, UInt32.le_iff_toNat_le, UInt32.le_iff_toNat_le, UInt32.le_iff_toNat_le,
    UInt32.le_iff_toNat_le]
  rfl

theorem isAlphanum_of_isDigit {char : Char} (digit : char.isDigit = true) :
    char.isAlphanum = true := by
  rw [Char.isAlphanum, digit, Bool.or_true]

theorem isAlphanum_of_isAlpha {char : Char} (letter : char.isAlpha = true) :
    char.isAlphanum = true := by
  rw [Char.isAlphanum, letter, Bool.true_or]

theorem isDigit_of_wide {char : Char} (wide : 0x80 ≤ char.toNat) : char.isDigit = false := by
  rw [Bool.eq_false_iff, Ne, isDigit_iff]
  omega

theorem isAlpha_of_wide {char : Char} (wide : 0x80 ≤ char.toNat) : char.isAlpha = false := by
  rw [Bool.eq_false_iff, Ne, isAlpha_iff]
  omega

theorem decides_digit : Decides digit.contains Char.isDigit :=
  decides_of_ascii false (by decide) (fun _ => contains_eq_false_of_high _)
    fun _ => isDigit_of_wide

theorem decides_letter : Decides letter.contains Char.isAlpha :=
  decides_of_ascii false (by decide) (fun _ => contains_eq_false_of_high _)
    fun _ => isAlpha_of_wide

theorem decides_alphanumeric : Decides alphanumeric.contains Char.isAlphanum := by
  apply decides_of_ascii false (by decide) (fun _ => contains_eq_false_of_high _)
  intro char wide
  rw [Char.isAlphanum, isAlpha_of_wide wide, isDigit_of_wide wide, Bool.or_self]

end Lexis.Text

namespace Lexis.CharClass

open Text Segment

/-- Whether a character is in a class. -/
def includes : CharClass → Char → Bool
  | whitespace => isBlank
  | digit => Char.isDigit
  | letter => Char.isAlpha
  | alphanumeric => Char.isAlphanum

/-- A class of bytes is a class of characters. -/
theorem decides_includes (kind : CharClass) : Decides kind.contains kind.includes := by
  cases kind with
  | whitespace => exact decides_whitespace
  | digit => exact decides_digit
  | letter => exact decides_letter
  | alphanumeric => exact decides_alphanumeric

end Lexis.CharClass
