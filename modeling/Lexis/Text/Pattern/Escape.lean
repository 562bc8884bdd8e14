/-!
# Escapes

A backslash makes something else of the characters behind it: a literal of a
character that has a meaning of its own, the literal with a given number, a
class that has a letter, or an anchor.
-/

namespace Lexis.Text.Pattern

/-- What a backslash and the characters behind it stand for. -/
inductive Escape where
  | literal (code : Nat)
  /-- A literal that has a two-digit number. -/
  | byte (code : Nat)
  /-- A class that a letter names, or its complement. -/
  | named (complement : Bool)
  /-- The beginning or the end of the text. -/
  | anchor
  | wordEdge
  deriving DecidableEq

namespace Escape

/-- The code of a literal. -/
def code? : Escape → Option Nat
  | literal code | byte code => some code
  | _ => none

/-- What a backslash makes of a character alone. -/
def ofChar? : Char → Option Escape
  | 'a' => some (literal 0x7)
  | 't' => some (literal 0x9)
  | 'n' => some (literal 0xa)
  | 'v' => some (literal 0xb)
  | 'f' => some (literal 0xc)
  | 'r' => some (literal 0xd)
  | 'd' | 's' | 'w' => some (named false)
  | 'D' | 'S' | 'W' => some (named true)
  | 'A' | 'z' => some anchor
  | 'b' | 'B' | '<' | '>' => some wordEdge
  | char =>
      if char.isAlphanum || 0x80 ≤ char.toNat then none else some (literal char.toNat)

/-! ## Numbers -/

/-- How many digits the number of a character has behind a letter. -/
def digitCount? : Char → Option Nat
  | 'x' => some 2
  | 'u' => some 4
  | 'U' => some 8
  | _ => none

/-- The value of a hexadecimal digit. -/
def hexadecimal? (char : Char) : Option Nat :=
  if char.isDigit then some (char.toNat - '0'.toNat)
  else if 'a' ≤ char ∧ char ≤ 'f' then some (char.toNat - 'a'.toNat + 10)
  else if 'A' ≤ char ∧ char ≤ 'F' then some (char.toNat - 'A'.toNat + 10)
  else none

/-- The literal with a number of so many digits, if it is the number of a
character. -/
def ofNumber? (digits code : Nat) : Option Escape :=
  if code.isValidChar then some (if digits = 2 then byte code else literal code) else none

end Escape

end Lexis.Text.Pattern
