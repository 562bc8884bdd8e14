import Lexis.Event
import Lexis.Text.Offset
import Lexis.Vocabulary

/-!
# Segmentations

The characters of a source fall into segments, from left to right: blanks,
numbers, words, operators, comments and illegal characters.  What the next
segment is depends on nothing but the vocabulary and the characters that are
left, and the segments put together are the source again
(`flatMap_text_segments`).

A segmentation speaks of characters alone.  Byte offsets come in only when the
events of a scan are read off it (`Segment.events`).
-/

namespace Lexis

/-- A stretch of a source. -/
inductive Segment where
  | blanks (run : List Char)
  | number (digits : List Char)
  | word (letters : List Char)
  | operator (spelling : List Char)
  /-- Opening marks, a body without marks, and closing marks. -/
  | comment (opening : Nat) (body : List Char) (closing : Nat)
  | illegal (char : Char)
  deriving DecidableEq

namespace Segment

/-- The character that opens and closes a comment. -/
def mark : Char := '#'

/-- The characters of a segment. -/
def text : Segment → List Char
  | blanks run => run
  | number digits => digits
  | word letters => letters
  | operator spelling => spelling
  | comment opening body closing =>
      List.replicate opening mark ++ body ++ List.replicate closing mark
  | illegal char => [char]

/-! ## The first segment -/

/-- Whether a character separates and does nothing else. -/
def isBlank (char : Char) : Bool :=
  char == ' ' || char == '\n' || char == '\t'

/-- Whether a character is a single byte. -/
def isAscii (char : Char) : Bool :=
  char.toNat < 0x80

/-- Whether ASCII characters are a registered operator. -/
def isOperator (vocabulary : Vocabulary) (spelling : List Char) : Bool :=
  spelling.all isAscii && vocabulary.hasOperator (String.ofList spelling)

/-- The operator that begins with a character which is one.  A pair needs a
character behind it. -/
def operatorAt (vocabulary : Vocabulary) (char : Char) : List Char → List Char
  | second :: _ :: _ =>
      if isOperator vocabulary [char, second] then [char, second] else [char]
  | _ => [char]

/-- The comment that begins a list of characters with a mark. -/
def commentAt (chars : List Char) : Segment :=
  let opening := (chars.takeWhile (· == mark)).length
  let inside := chars.dropWhile (· == mark)
  let behind := inside.dropWhile (· != mark)
  comment opening (inside.takeWhile (· != mark))
    (min opening (behind.takeWhile (· == mark)).length)

/-- The segment that a character begins, with the characters behind it. -/
def first (vocabulary : Vocabulary) (char : Char) (rest : List Char) : Segment :=
  if isBlank char then blanks (char :: rest.takeWhile isBlank)
  else if char.isDigit then number (char :: rest.takeWhile Char.isDigit)
  else if char.isAlpha then word (char :: rest.takeWhile Char.isAlphanum)
  else if isOperator vocabulary [char] then operator (operatorAt vocabulary char rest)
  else if char == mark then commentAt (char :: rest)
  else illegal char

private theorem replicate_take_prefix_of_takeWhile (count : Nat) (chars : List Char) :
    List.replicate (min count (chars.takeWhile (· == mark)).length) mark <+: chars := by
  induction chars generalizing count with
  | nil => simp
  | cons char rest inductionHypothesis =>
      by_cases marked : char = mark
      · cases count with
        | zero => simp
        | succ count =>
            simpa [marked, Nat.add_min_add_right, List.replicate_succ, List.prefix_cons_iff]
              using inductionHypothesis count
      · simp [marked]

theorem text_commentAt_prefix (chars : List Char) : (commentAt chars).text <+: chars := by
  have opened : List.replicate (chars.takeWhile (· == mark)).length mark =
      chars.takeWhile (· == mark) := by
    refine (List.eq_replicate_iff.mpr ⟨rfl, fun char inside => ?_⟩).symm
    simpa using List.all_eq_true.mp (List.all_takeWhile) char inside
  simp only [commentAt, text, opened]
  conv => rhs; rw [← List.takeWhile_append_dropWhile (p := (· == mark)) (l := chars)]
  rw [List.append_assoc, List.prefix_append_right_inj]
  conv => rhs; rw [← List.takeWhile_append_dropWhile (p := (· != mark))
    (l := chars.dropWhile (· == mark))]
  rw [List.prefix_append_right_inj]
  exact replicate_take_prefix_of_takeWhile _ _

/-- The text of the first segment begins the characters that it was read from. -/
theorem text_first_prefix (vocabulary : Vocabulary) (char : Char) (rest : List Char) :
    (first vocabulary char rest).text <+: char :: rest := by
  unfold first
  split
  · exact (List.prefix_cons_inj char).mpr (List.takeWhile_prefix isBlank)
  split
  · exact (List.prefix_cons_inj char).mpr (List.takeWhile_prefix Char.isDigit)
  split
  · exact (List.prefix_cons_inj char).mpr (List.takeWhile_prefix Char.isAlphanum)
  split
  · unfold operatorAt
    split
    · simp only [text]
      split <;> simp
    · simp [text]
  split
  · exact text_commentAt_prefix (char :: rest)
  · simp [text]

theorem text_first_ne_nil (vocabulary : Vocabulary) (char : Char) (rest : List Char) :
    (first vocabulary char rest).text ≠ [] := by
  unfold first
  split
  · simp [text]
  split
  · simp [text]
  split
  · simp [text]
  split
  · simp only [text, operatorAt]
    split
    · split <;> simp
    · simp
  split
  next marked => simp [commentAt, text, eq_of_beq marked, List.replicate_succ]
  · simp [text]

/-! ## All segments -/

/-- The segments of some characters, from left to right. -/
def segments (vocabulary : Vocabulary) : List Char → List Segment
  | [] => []
  | char :: rest =>
      first vocabulary char rest ::
        segments vocabulary
          ((char :: rest).drop (first vocabulary char rest).text.length)
termination_by chars => chars.length
decreasing_by
  have positive := List.length_pos_iff.mpr (text_first_ne_nil vocabulary char rest)
  simp only [List.length_drop, List.length_cons]
  omega

/-- The segments put together are the characters that they were read from. -/
theorem flatMap_text_segments (vocabulary : Vocabulary) (chars : List Char) :
    (segments vocabulary chars).flatMap text = chars := by
  fun_induction segments vocabulary chars with
  | case1 => rfl
  | case2 char rest inductionHypothesis =>
      obtain ⟨behind, whole⟩ := text_first_prefix vocabulary char rest
      rw [List.flatMap_cons, inductionHypothesis]
      conv => rhs; rw [← whole]
      rw [← whole, List.drop_left]

/-! ## Events -/

/-- The number of bytes that a segment takes. -/
def size (segment : Segment) : Nat :=
  Text.byteSize segment.text

/-- The event of a segment that lies between two offsets.  Blanks are none. -/
def event? (vocabulary : Vocabulary) (start stop : Nat) : Segment → Option Event
  | blanks _ => none
  | number digits => some (.token (.number (String.ofList digits)) stop)
  | word letters =>
      let lexeme := String.ofList letters
      let isKeyword := vocabulary.hasKeyword lexeme
      some (.token (if isKeyword then .symbol lexeme else .identifier lexeme) stop)
  | operator spelling => some (.token (.symbol (String.ofList spelling)) stop)
  | comment _ _ _ => some (.comment start stop)
  | illegal char => some (.illegal ⟨start, char⟩)

theorem event?_word (vocabulary : Vocabulary) (letters : List Char) (start stop : Nat) :
    (word letters).event? vocabulary start stop =
      some (.token (vocabulary.word (String.ofList letters)) stop) := by
  rw [event?, Vocabulary.word_eq_ite]

/-- The events of segments that begin at an offset. -/
def events (vocabulary : Vocabulary) (start : Nat) : List Segment → List Event
  | [] => []
  | segment :: later =>
      (segment.event? vocabulary start (start + segment.size)).toList ++
        events vocabulary (start + segment.size) later

end Segment

end Lexis
