import Lexis.Proofs.Scan.Whole
import Lexis.Proofs.Segmentation.Continuing

/-!
# Pairs that the end of a source splits

A pair needs a character behind it.  A scan that comes to the last two
characters of its source as an operator reads the first one alone, although
together they may be registered (`Scan.SplitPair`).  This is said by the passes
of the scan: at which offsets they read (`Scan.ReadsAt`) and that the reading
there is that of an operator (`Event.readsOperator`).  It is the same as to say
that the segments of the source end in a pair cut apart
(`Scan.splitPair_iff`).
-/

namespace Lexis

open Text Segment

/-! ## Where events begin -/

namespace Event

/-- The offset at which an event begins. -/
def start : Event → Nat
  | token found stop => stop - found.lexeme.utf8ByteSize
  | comment start _ => start
  | illegal warning => warning.position

variable {vocabulary : Vocabulary} {place : Place} {before rest : List Char} {char : Char}

theorem start_of_event? {segment : Segment} {event : Event} {offset : Nat}
    (found : segment.event? vocabulary offset (offset + segment.size) = some event) :
    event.start = offset := by
  cases segment with
  | blanks => contradiction
  | comment | illegal =>
      obtain rfl := Option.some_inj.mp found
      rfl
  | word letters =>
      rw [Segment.event?_word] at found
      obtain rfl := Option.some_inj.mp found
      rw [start, Vocabulary.lexeme_word]
      exact Nat.add_sub_cancel ..
  | number | operator =>
      obtain rfl := Option.some_inj.mp found
      exact Nat.add_sub_cancel ..

/-- Whether what is read at a place is an operator: neither a digit nor a letter
is there, but a character that is registered as an operator. -/
def readsOperator (vocabulary : Vocabulary) (place : Place) : Bool :=
  place.byte?.any fun byte =>
    !CharClass.digit.contains byte && !CharClass.letter.contains byte &&
      atOperator vocabulary place

theorem readsOperator_eq (splits : place.Splits before (char :: rest)) :
    readsOperator vocabulary place =
      (!char.isDigit && !char.isAlpha && isOperator vocabulary [char]) := by
  rcases splits.exists_byte?_eq_some with ⟨byte, found, head⟩
  rw [readsOperator, found, Option.any_some, head _ _ decides_digit, head _ _ decides_letter,
    atOperator_eq splits]

end Event

namespace Scan

/-! ## Where a scan reads -/

/-- The scan reads an event at the offset, by its next pass or by a later one. -/
inductive ReadsAt : Scan → Nat → Prop
  | here {scan after : Scan} {event : Event} :
      scan.pass = (some event, after) → ReadsAt scan scan.behindWhitespace.offset
  | later {scan after : Scan} {event : Event} {offset : Nat} :
      scan.pass = (some event, after) → ReadsAt after offset → ReadsAt scan offset

variable {scan : Scan} {event : Event} {events later : List Event} {offset : Nat}

theorem start_of_ahead_cons (ahead : scan.Ahead (event :: later)) :
    event.start = scan.behindWhitespace.offset := by
  rcases ahead.behindWhitespace with ⟨before, after, splits, notBlank, -, listed⟩
  cases after with
  | nil =>
      rw [segments, Segment.events] at listed
      exact absurd listed (List.cons_ne_nil event later)
  | cons char rest =>
      rcases Event.read?_of_splits splits (notBlank char rfl) with ⟨read, found, -⟩
      rw [segments, Segment.events, found, Option.toList_some, List.singleton_append] at listed
      rcases List.cons_eq_cons.mp listed with ⟨rfl, -⟩
      exact Event.start_of_event? found

/-- A scan reads where the events ahead of it begin, and nowhere else. -/
theorem readsAt_iff (ahead : scan.Ahead events) :
    scan.ReadsAt offset ↔ ∃ event ∈ events, event.start = offset := by
  induction events generalizing scan with
  | nil =>
      have ended := pass_of_ahead_nil ahead
      constructor
      · rintro (passed | ⟨passed, -⟩)
        all_goals
          rw [ended] at passed
          cases passed
      · rintro ⟨event, met, -⟩
        contradiction
  | cons event later inductionHypothesis =>
      rcases pass_of_ahead_cons ahead with ⟨behind, passed, aheadLater, -⟩
      constructor
      · rintro (- | ⟨again, readsLater⟩)
        · exact ⟨event, List.mem_cons_self, start_of_ahead_cons ahead⟩
        · rw [passed] at again
          rcases Prod.mk.inj again with ⟨-, rfl⟩
          rcases (inductionHypothesis aheadLater).mp readsLater with ⟨other, met, begins⟩
          exact ⟨other, List.mem_cons_of_mem _ met, begins⟩
      · rintro ⟨other, met, rfl⟩
        rcases List.mem_cons.mp met with rfl | metLater
        · rw [start_of_ahead_cons ahead]
          exact .here passed
        · exact .later passed ((inductionHypothesis aheadLater).mpr ⟨other, metLater, rfl⟩)

/-! ## Split pairs -/

/-- The source ends with two characters that are registered as one operator, and
the scan of it comes to them as an operator. -/
structure SplitPair (vocabulary : Vocabulary) (source : String) (char second : Char) : Prop where
  ends : [char, second] <:+ source.toList
  isOperator : isOperator vocabulary [char, second] = true
  readsAt : (start vocabulary source).ReadsAt (source.utf8ByteSize - 2)
  readsOperator : Event.readsOperator vocabulary ⟨source, source.utf8ByteSize - 2⟩ = true

variable {vocabulary : Vocabulary} {source : String} {char second : Char}

theorem utf8ByteSize_of_pair {front : List Char}
    (pair : isOperator vocabulary [char, second] = true)
    (whole : front ++ [char, second] = source.toList) :
    source.utf8ByteSize = byteSize front + 2 := by
  have two : byteSize [char, second] = 2 :=
    byteSize_of_ascii (Event.isOperator_eq_true_iff.mp pair).1
  rw [← byteSize_toList, ← whole, byteSize_append, two]

/-- Where nothing is behind them, two characters are cut apart after the first
one if it is an operator. -/
theorem segments_pair (plain : Plain char) (single : Segment.isOperator vocabulary [char] = true)
    (second : Char) :
    segments vocabulary [char, second] = operator [char] :: segments vocabulary [second] := by
  have cut : Begins vocabulary (operator [char]) [second] := by
    refine .single plain single fun other others same notEnd => ?_
    rcases List.cons_eq_cons.mp same with ⟨-, rfl⟩
    contradiction
  exact cut.segments_eq

/-- The segments of a source with a split pair end with its two characters. -/
theorem SplitPair.exists_endsInPair (split : SplitPair vocabulary source char second) :
    ∃ earlier, EndsInPair vocabulary source.toList earlier char second := by
  rcases split with ⟨⟨front, whole⟩, pair, readsAt, readsOperator⟩
  have size := utf8ByteSize_of_pair pair whole
  have splits : Place.Splits ⟨source, byteSize front⟩ front [char, second] :=
    ⟨by rw [whole, String.ofList_toList], rfl⟩
  rw [size, Nat.add_sub_cancel] at readsAt readsOperator
  rw [Event.readsOperator_eq splits] at readsOperator
  simp only [Bool.and_eq_true, Bool.not_eq_true'] at readsOperator
  rcases readsOperator with ⟨⟨notDigit, notLetter⟩, single⟩
  rcases (readsAt_iff (ahead_start vocabulary source)).mp readsAt with ⟨event, met, begins⟩
  rcases exists_segment_of_mem_events met with ⟨earlier, segment, later, divided, lies⟩
  rw [Event.start_of_event? lies, Nat.zero_add] at begins
  have segmented := segmentation_segments vocabulary source.toList
  have parts := segmented.flatMap_text
  rw [divided] at segmented parts
  rw [List.flatMap_append, ← whole] at parts
  rcases eq_of_append_eq_append parts begins with ⟨-, behind⟩
  have ending := segmented.behind
  rw [behind, segmentation_iff] at ending
  have notBlank : isBlank char = false := by
    by_contra blank
    rw [Bool.not_eq_false] at blank
    rw [segments, first, if_pos blank] at ending
    rcases List.cons_eq_cons.mp ending with ⟨rfl, -⟩
    contradiction
  refine ⟨earlier, ?_, pair⟩
  rw [divided, ending, segments_pair ⟨notBlank, notDigit, notLetter⟩ single]

/-- A scan comes to a pair that its segments end with as an operator. -/
theorem splitPair_of_endsInPair {earlier : List Segment}
    (ends : EndsInPair vocabulary source.toList earlier char second) :
    SplitPair vocabulary source char second := by
  have whole := ends.flatMap_text
  have size := utf8ByteSize_of_pair ends.isOperator whole
  have splits : Place.Splits ⟨source, byteSize (earlier.flatMap text)⟩ (earlier.flatMap text)
      [char, second] := ⟨by rw [whole, String.ofList_toList], rfl⟩
  refine ⟨⟨_, whole⟩, ends.isOperator, ?_, ?_⟩
  · rw [readsAt_iff (ahead_start vocabulary source), size, Nat.add_sub_cancel, ends.segments_eq,
      events_append]
    refine ⟨_, List.mem_append_right _ List.mem_cons_self, ?_⟩
    rw [Nat.zero_add]
    exact Nat.add_sub_cancel ..
  · rw [size, Nat.add_sub_cancel, Event.readsOperator_eq splits]
    cases ends.begins with
    | single plain single => simp [plain.notDigit, plain.notLetter, single]

/-- The source has a split pair exactly when its segments end with the two
characters cut apart. -/
theorem splitPair_iff :
    SplitPair vocabulary source char second ↔
      ∃ earlier, EndsInPair vocabulary source.toList earlier char second := by
  constructor
  · exact SplitPair.exists_endsInPair
  · rintro ⟨earlier, ends⟩
    exact splitPair_of_endsInPair ends

end Scan

end Lexis
