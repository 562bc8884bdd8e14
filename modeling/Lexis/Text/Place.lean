import Lexis.Text.Offset

/-!
# Places

A place is a source text with a byte offset into it.  It moves forward over
bytes, and it may be moved into the middle of a character; only what hands out
text or a character asks where characters begin.
-/

namespace Lexis.Text

/-- A byte offset into a source text. -/
structure Place where
  source : String
  offset : Nat

namespace Place

/-- The beginning of a text. -/
def start (source : String) : Place :=
  ⟨source, 0⟩

/-! ## Looking -/

/-- The byte at the place, or `none` at the end. -/
def byte? (place : Place) : Option UInt8 :=
  byteAt? place.source place.offset

/-- The number of bytes from the place to the end. -/
def remaining (place : Place) : Nat :=
  place.source.utf8ByteSize - place.offset

/-- Whether every byte lies before the place. -/
def atEnd (place : Place) : Bool :=
  place.source.utf8ByteSize ≤ place.offset

/-- The next `count` bytes, if the text has them and neither end of them lies
inside a character. -/
def peek? (place : Place) (count : Nat) : Option String :=
  between? place.source place.offset (place.offset + count)

/-- The text from an earlier offset to the place, if `first` is no later than
the place and neither end lies inside a character. -/
def textSince? (place : Place) (first : Nat) : Option String :=
  between? place.source first place.offset

/-! ## Moving -/

/-- Move over `count` bytes, or to the end if there are fewer. -/
def advance (place : Place) (count : Nat) : Place :=
  { place with offset := min (place.offset + count) place.source.utf8ByteSize }

/-- Move over the bytes that are accepted, up to the first that is not. -/
def skipWhile (place : Place) (accepts : UInt8 → Bool) : Place :=
  { place with offset := runEnd place.source accepts place.offset place.remaining }

/-- Move over copies of one byte, at most `limit` of them if there is a limit. -/
def skipRun (place : Place) (byte : UInt8) (limit : Option Nat) : Place :=
  let most := limit.elim place.remaining (min place.remaining)
  { place with offset := runEnd place.source (· == byte) place.offset most }

/-- Move over copies of one byte as `skipRun` does, and count them. -/
def takeRun (place : Place) (byte : UInt8) (limit : Option Nat) : Nat × Place :=
  let behind := place.skipRun byte limit
  (behind.offset - place.offset, behind)

/-- Move to the next occurrence of a byte, or to the end. -/
def skipTo (place : Place) (byte : UInt8) : Place :=
  place.skipWhile (· != byte)

/-- The character at the place and the place behind it, or `none` at the
end and inside a character. -/
def takeChar? (place : Place) : Option (Char × Place) :=
  (charAt? place.source place.offset).map fun char =>
    (char, { place with offset := place.offset + char.utf8Size })

/-! ## The source stays, the offset grows -/

@[simp]
theorem advance_source (place : Place) (count : Nat) :
    (place.advance count).source = place.source :=
  rfl

@[simp]
theorem skipWhile_source (place : Place) (accepts : UInt8 → Bool) :
    (place.skipWhile accepts).source = place.source :=
  rfl

@[simp]
theorem skipRun_source (place : Place) (byte : UInt8) (limit : Option Nat) :
    (place.skipRun byte limit).source = place.source :=
  rfl

@[simp]
theorem skipTo_source (place : Place) (byte : UInt8) :
    (place.skipTo byte).source = place.source :=
  rfl

theorem lt_of_byte?_eq_some {place : Place} {byte : UInt8}
    (found : place.byte? = some byte) : place.offset < place.source.utf8ByteSize :=
  lt_of_byteAt?_eq_some found

theorem le_skipWhile (place : Place) (accepts : UInt8 → Bool) :
    place.offset ≤ (place.skipWhile accepts).offset :=
  le_runEnd ..

theorem le_skipRun (place : Place) (byte : UInt8) (limit : Option Nat) :
    place.offset ≤ (place.skipRun byte limit).offset :=
  le_runEnd ..

theorem le_skipTo (place : Place) (byte : UInt8) :
    place.offset ≤ (place.skipTo byte).offset :=
  le_skipWhile ..

/-- Skipping moves whenever the byte at the place is accepted. -/
theorem lt_skipWhile {place : Place} {accepts : UInt8 → Bool} {byte : UInt8}
    (found : place.byte? = some byte) (accepted : accepts byte) :
    place.offset < (place.skipWhile accepts).offset :=
  lt_runEnd found accepted (Nat.sub_pos_of_lt (lt_of_byte?_eq_some found))

theorem lt_skipRun {place : Place} {byte : UInt8} (found : place.byte? = some byte) :
    place.offset < (place.skipRun byte none).offset :=
  lt_runEnd found (beq_self_eq_true byte)
    (Nat.sub_pos_of_lt (lt_of_byte?_eq_some found))

/-- Advancing moves whenever there is a byte at the place. -/
theorem lt_advance {place : Place} {byte : UInt8} (found : place.byte? = some byte)
    {count : Nat} (positive : 0 < count) :
    place.offset < (place.advance count).offset := by
  have inside := lt_of_byte?_eq_some found
  simp only [advance]
  omega

/-- Taking a character moves over it. -/
theorem lt_of_takeChar?_eq_some {place next : Place} {char : Char}
    (taken : place.takeChar? = some (char, next)) : place.offset < next.offset := by
  obtain ⟨_, _, same⟩ := Option.map_eq_some_iff.mp taken
  obtain ⟨rfl, rfl⟩ := Prod.mk.inj same
  exact Nat.lt_add_of_pos_right (Char.utf8Size_pos _)

theorem source_of_takeChar?_eq_some {place next : Place} {char : Char}
    (taken : place.takeChar? = some (char, next)) : next.source = place.source := by
  obtain ⟨_, _, same⟩ := Option.map_eq_some_iff.mp taken
  obtain ⟨rfl, rfl⟩ := Prod.mk.inj same
  rfl

end Place

end Lexis.Text
