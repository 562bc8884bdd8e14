/-!
# Parts of a text

A place in a text is the number of bytes before it in UTF-8.  Any number can be
asked about: past the end there is no byte, and a piece of text exists only
between two offsets at which a character begins or the text ends.

A text is also cut into pieces at every occurrence of a separating character.
There is one more piece than there are separators, so an empty text is one
empty piece.
-/

namespace Lexis.Text

/-! ## Bytes -/

/-- The byte at an offset, if the text reaches that far. -/
def byteAt? (text : String) (offset : Nat) : Option UInt8 :=
  if inside : offset < text.utf8ByteSize then
    some (text.getUTF8Byte ⟨offset⟩ inside)
  else
    none

theorem lt_of_byteAt?_eq_some {text : String} {offset : Nat} {byte : UInt8}
    (found : byteAt? text offset = some byte) : offset < text.utf8ByteSize := by
  unfold byteAt? at found
  split at found
  · assumption
  · contradiction

/-- The end of the longest run of accepted bytes from `start`, of which at
most `limit` are looked at. -/
def runEnd (text : String) (accepts : UInt8 → Bool) (start : Nat) : Nat → Nat
  | 0 => start
  | limit + 1 =>
      if (byteAt? text start).any accepts then runEnd text accepts (start + 1) limit
      else start

theorem le_runEnd (text : String) (accepts : UInt8 → Bool) (start limit : Nat) :
    start ≤ runEnd text accepts start limit := by
  induction limit generalizing start with
  | zero => exact Nat.le_refl start
  | succ limit inductionHypothesis =>
      unfold runEnd
      split
      · exact Nat.le_of_succ_le (inductionHypothesis (start + 1))
      · exact Nat.le_refl start

/-- A run that begins with an accepted byte is not empty. -/
theorem lt_runEnd {text : String} {accepts : UInt8 → Bool} {start limit : Nat}
    {byte : UInt8} (found : byteAt? text start = some byte) (accepted : accepts byte)
    (positive : 0 < limit) : start < runEnd text accepts start limit := by
  cases limit with
  | zero => contradiction
  | succ limit =>
      rw [runEnd, found, Option.any_some, if_pos accepted]
      exact le_runEnd text accepts (start + 1) limit

theorem runEnd_le {text : String} {start : Nat} (inside : start ≤ text.utf8ByteSize)
    (accepts : UInt8 → Bool) (limit : Nat) :
    runEnd text accepts start limit ≤ text.utf8ByteSize := by
  induction limit generalizing start with
  | zero => exact inside
  | succ limit inductionHypothesis =>
      unfold runEnd
      cases found : byteAt? text start with
      | none => exact inside
      | some byte =>
          split
          · exact inductionHypothesis (lt_of_byteAt?_eq_some found)
          · exact inside

/-! ## Characters -/

/-- The number of bytes of some characters. -/
def byteSize (chars : List Char) : Nat :=
  (String.ofList chars).utf8ByteSize

/-- The position at an offset, if a character begins or the text ends there. -/
def position? (text : String) (offset : Nat) : Option text.Pos :=
  if valid : String.Pos.Raw.isValid text ⟨offset⟩ then
    some ⟨⟨offset⟩, String.Pos.Raw.isValid_eq_true_iff.mp valid⟩
  else
    none

/-- The character that begins at an offset. -/
def charAt? (text : String) (offset : Nat) : Option Char :=
  (position? text offset).bind fun position =>
    if atEnd : position = text.endPos then none else some (position.get atEnd)

/-- The text between two offsets, if the first is not after the second and
neither lies inside a character or past the end. -/
def between? (text : String) (start stop : Nat) : Option String :=
  if start ≤ stop then do
    let first ← position? text start
    let last ← position? text stop
    return text.extract first last
  else
    none

/-! ## Pieces -/

/-- The pieces of a text between the occurrences of a character. -/
def pieces (separator : Char) (text : String) : List String :=
  (text.toList.splitOn separator).map String.ofList

theorem pieces_append (separator : Char) (first second : String) :
    pieces separator (first ++ String.singleton separator ++ second) =
      pieces separator first ++ pieces separator second := by
  simp [pieces, List.splitOn, List.splitOnP_append_cons]

end Lexis.Text
