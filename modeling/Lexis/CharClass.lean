/-!
# Character classes

A source text is classified byte by byte.  Every class holds ASCII bytes only,
so no byte of a longer character is ever in one, and a run of bytes of a class
begins and ends between two characters.

A byte may be in several classes: a digit is also alphanumeric.
-/

namespace Lexis

/-- The classes that a source byte can be in. -/
inductive CharClass where
  | whitespace
  | digit
  | letter
  | alphanumeric
  deriving DecidableEq

namespace CharClass

/-- Whether a byte lies between two others, both included. -/
def within (first last byte : UInt8) : Bool :=
  first ≤ byte && byte ≤ last

/-- The bytes of a class.  Whitespace is the space, the line feed and the tab
and nothing else; an underscore is in no class. -/
def contains : CharClass → UInt8 → Bool
  | whitespace, byte => byte == 0x20 || byte == 0x0a || byte == 0x09
  | digit, byte => within 0x30 0x39 byte
  | letter, byte => within 0x41 0x5a byte || within 0x61 0x7a byte
  | alphanumeric, byte =>
      within 0x41 0x5a byte || within 0x61 0x7a byte || within 0x30 0x39 byte

theorem alphanumeric_of_letter {byte : UInt8} (inLetter : letter.contains byte) :
    alphanumeric.contains byte :=
  Bool.or_eq_true_iff.mpr (Or.inl inLetter)

/-- The classes in the order of their flags. -/
def all : List CharClass :=
  [whitespace, digit, letter, alphanumeric]

/-- The bit that stands for a class in a mask. -/
def flag : CharClass → Nat
  | whitespace => 1
  | digit => 2
  | letter => 4
  | alphanumeric => 8

/-- The name under which a class is reported. -/
def label : CharClass → String
  | whitespace => "WHITESPACE"
  | digit => "DIGIT"
  | letter => "LETTER"
  | alphanumeric => "LEGIT"

/-- The classes of a byte, in the order of their flags. -/
def ofByte (byte : UInt8) : List CharClass :=
  all.filter (·.contains byte)

/-- The classes of a byte as one mask. -/
def mask (byte : UInt8) : Nat :=
  (ofByte byte).foldl (fun bits kind => bits ||| kind.flag) 0

end CharClass

end Lexis
