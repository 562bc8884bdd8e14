import Lexis.CharClass
import Lexis.Event
import Lexis.Text.Place
import Lexis.Vocabulary

/-!
# Reading events

What a source holds at a place is decided by the byte there, by the characters
that follow and by the vocabulary: a number, a word, an operator, a comment or
an illegal character, tried in this order.  Each reading gives the event that
begins at the place with the place behind it.

Text can be cut out only where no character is split, so the readings that cut
a lexeme are optional.  Reading always moves forward (`lt_of_read?_eq_some`),
which is why a scan ends.
-/

namespace Lexis

open Text

namespace Event

/-! ## Tokens -/

/-- The token whose lexeme lies between two places. -/
def readToken? (place behind : Place) (token : String → Token) : Option (Event × Place) :=
  (behind.textSince? place.offset).map fun lexeme =>
    (.token (token lexeme) behind.offset, behind)

/-- A number is the longest run of digits. -/
def readNumber? (place : Place) : Option (Event × Place) :=
  readToken? place (place.skipWhile CharClass.digit.contains) .number

/-- A word is the longest run of letters and digits. -/
def readWord? (vocabulary : Vocabulary) (place : Place) : Option (Event × Place) :=
  readToken? place (place.skipWhile CharClass.alphanumeric.contains) vocabulary.word

/-- Whether the single character at the place is a registered operator. -/
def atOperator (vocabulary : Vocabulary) (place : Place) : Bool :=
  (place.peek? 1).any vocabulary.hasOperator

/-- Whether the pair of characters at the place is a registered operator.  A
pair that ends the source does not count. -/
def atOperatorPair (vocabulary : Vocabulary) (place : Place) : Bool :=
  2 < place.remaining && (place.peek? 2).any vocabulary.hasOperator

/-- An operator is a registered pair, or else a single character. -/
def readOperator? (vocabulary : Vocabulary) (place : Place) : Option (Event × Place) :=
  readToken? place (place.advance (if atOperatorPair vocabulary place then 2 else 1)) .symbol

/-! ## Comments and illegal characters -/

/-- The byte that opens and closes a comment. -/
def commentMark : UInt8 := 0x23

/-- A comment opens with a run of marks and closes with at most as many, so
the marks that are left over open another comment.  A comment that is not
closed runs to the end. -/
def readComment (place : Place) : Event × Place :=
  let opened := place.skipRun commentMark none
  let width := opened.offset - place.offset
  let closed := (opened.skipTo commentMark).skipRun commentMark (some width)
  (.comment place.offset closed.offset, closed)

/-- An illegal character is skipped whole. -/
def readIllegal? (place : Place) : Option (Event × Place) :=
  place.takeChar?.map fun (char, behind) => (.illegal ⟨place.offset, char⟩, behind)

/-! ## Any event -/

/-- The event that begins at a place; whitespace has to be skipped before. -/
def read? (vocabulary : Vocabulary) (place : Place) : Option (Event × Place) :=
  match place.byte? with
  | none => none
  | some byte =>
      if CharClass.digit.contains byte then readNumber? place
      else if CharClass.letter.contains byte then readWord? vocabulary place
      else if atOperator vocabulary place then readOperator? vocabulary place
      else if byte == commentMark then some (readComment place)
      else readIllegal? place

/-! ## Reading moves forward -/

theorem readToken?_eq_some_iff {place behind next : Place} {token : String → Token}
    {event : Event} :
    readToken? place behind token = some (event, next) ↔
      next = behind ∧ ∃ lexeme, behind.textSince? place.offset = some lexeme ∧
        event = .token (token lexeme) behind.offset := by
  simp only [readToken?, Option.map_eq_some_iff, Prod.mk.injEq]
  constructor
  · rintro ⟨lexeme, cut, rfl, rfl⟩
    exact ⟨rfl, lexeme, cut, rfl⟩
  · rintro ⟨rfl, lexeme, cut, rfl⟩
    exact ⟨lexeme, cut, rfl, rfl⟩

theorem lt_readComment {place : Place} (marked : place.byte? = some commentMark) :
    place.offset < (readComment place).2.offset :=
  Nat.lt_of_lt_of_le (Place.lt_skipRun marked)
    (Nat.le_trans (Place.le_skipTo _ _) (Place.le_skipRun _ _ _))

/-- An event begins before the end of the source and is not empty. -/
theorem lt_of_read?_eq_some {vocabulary : Vocabulary} {place behind : Place} {event : Event}
    (met : read? vocabulary place = some (event, behind)) :
    place.offset < behind.offset ∧ place.offset < place.source.utf8ByteSize := by
  unfold read? at met
  split at met
  · contradiction
  next byte found =>
    refine ⟨?_, Place.lt_of_byte?_eq_some found⟩
    split at met
    next digit =>
      obtain ⟨rfl, _⟩ := readToken?_eq_some_iff.mp met
      exact Place.lt_skipWhile found digit
    split at met
    next letter =>
      obtain ⟨rfl, _⟩ := readToken?_eq_some_iff.mp met
      exact Place.lt_skipWhile found (CharClass.alphanumeric_of_letter letter)
    split at met
    next =>
      obtain ⟨rfl, _⟩ := readToken?_eq_some_iff.mp met
      exact Place.lt_advance found (by split <;> decide)
    split at met
    next marked =>
      obtain rfl := eq_of_beq marked
      obtain ⟨_, rfl⟩ := Prod.mk.inj (Option.some.inj met)
      exact lt_readComment found
    next =>
      obtain ⟨taken, takes, same⟩ := Option.map_eq_some_iff.mp met
      obtain ⟨_, rfl⟩ := Prod.mk.inj same
      exact Place.lt_of_takeChar?_eq_some takes

theorem source_of_read?_eq_some {vocabulary : Vocabulary} {place behind : Place}
    {event : Event} (met : read? vocabulary place = some (event, behind)) :
    behind.source = place.source := by
  unfold read? at met
  split at met
  · contradiction
  repeat' split at met
  · obtain ⟨rfl, _⟩ := readToken?_eq_some_iff.mp met
    rfl
  · obtain ⟨rfl, _⟩ := readToken?_eq_some_iff.mp met
    rfl
  · obtain ⟨rfl, _⟩ := readToken?_eq_some_iff.mp met
    rfl
  · obtain ⟨_, rfl⟩ := Prod.mk.inj (Option.some.inj met)
    rfl
  · obtain ⟨taken, takes, same⟩ := Option.map_eq_some_iff.mp met
    obtain ⟨_, rfl⟩ := Prod.mk.inj same
    exact Place.source_of_takeChar?_eq_some takes

end Event

end Lexis
