import Lexis.Proofs.Scan.Parts
import Lexis.Proofs.Vocabulary

/-!
# Vocabularies that cut texts alike

Two vocabularies may cut every text at the same places and yet take the
segments for different things (`Recasts`).  Then the journal of a scan under
the one is that under the other, retold event by event (`toList_journal_eq`).
Which places these are is up to the operators at the character there
(`Begins.of_agreeAt`), so they are the same ones where the same operators are
live (`recasts_of_liveOperator`).
-/

namespace Lexis

open Segment

/-- Where the left vocabulary cuts off a segment, the right one cuts off its
recast, and the event of the recast is that of the segment, retold. -/
structure Recasts (left right : Vocabulary) (recast : Segment → Segment)
    (retell : Event → Event) : Prop where
  text_eq : ∀ segment, (recast segment).text = segment.text
  begins : ∀ {segment rest}, Begins left segment rest → Begins right (recast segment) rest
  event?_eq : ∀ {segment rest}, Begins left segment rest → ∀ start,
    (recast segment).event? right start (start + segment.size) =
      (segment.event? left start (start + segment.size)).map retell

variable {left right : Vocabulary} {recast : Segment → Segment} {retell : Event → Event}
  {segment : Segment} {chars rest : List Char} {found : List Segment}

namespace Recasts

theorem segmentation (recasts : Recasts left right recast retell)
    (segmented : Segmentation left chars found) :
    Segmentation right chars (found.map recast) := by
  induction segmented with
  | nil => exact .nil
  | @cons segment rest later begins _ inductionHypothesis =>
      rw [← recasts.text_eq segment]
      exact .cons (recasts.begins begins) inductionHypothesis

theorem events_map (recasts : Recasts left right recast retell)
    (segmented : Segmentation left chars found) (start : Nat) :
    events right start (found.map recast) = (events left start found).map retell := by
  induction segmented generalizing start with
  | nil => rfl
  | @cons segment rest later begins _ inductionHypothesis =>
      have size : (recast segment).size = segment.size := by
        rw [Segment.size, recasts.text_eq, Segment.size]
      rw [List.map_cons, events, events, size, recasts.event?_eq begins, inductionHypothesis,
        List.map_append, Option.toList_map]

/-- A scan under the right vocabulary records what one under the left vocabulary
does, retold. -/
theorem toList_journal_eq (recasts : Recasts left right recast retell) (source : String) :
    (Scan.ofSource right source).journal.toList =
      (Scan.ofSource left source).journal.toList.map retell := by
  have segmented := segmentation_segments left source.toList
  rw [Scan.toList_journal_ofSource, Scan.toList_journal_ofSource,
    ← segmentation_iff.mp (recasts.segmentation segmented), recasts.events_map segmented]

end Recasts

/-! ## The same operators -/

/-- Two vocabularies know the same operators at a character: it is an operator
of both or of none, and behind it so are its pairs. -/
structure Vocabulary.AgreeAt (left right : Vocabulary) (char : Char) : Prop where
  single : isOperator left [char] = isOperator right [char]
  pair : isOperator left [char] = true →
    ∀ second, isOperator left [char, second] = isOperator right [char, second]

/-- Only the operators at the first character of a segment are asked for. -/
theorem Segment.Begins.of_agreeAt (begins : Begins left segment rest)
    (agree : ∀ char ∈ segment.text.head?, Plain char → Vocabulary.AgreeAt left right char) :
    Begins right segment rest := by
  cases begins with
  | blanks notEmpty longest => exact .blanks notEmpty longest
  | number notEmpty longest => exact .number notEmpty longest
  | word letter longest => exact .word letter longest
  | pair plain single pair notEnd =>
      have agreeHere := agree _ rfl plain
      rw [agreeHere.pair single] at pair
      rw [agreeHere.single] at single
      exact .pair plain single pair notEnd
  | single plain single notPair =>
      have agreeHere := agree _ rfl plain
      refine .single plain (agreeHere.single ▸ single) ?_
      intro second behind next notEnd
      rw [← agreeHere.pair single]
      exact notPair second behind next notEnd
  | @comment opening _ _ _ notOperator positive opened bodied atMost all =>
      have opens : mark ∈ (List.replicate opening mark).head? := by
        rw [List.head?_replicate, if_neg positive.ne']
        rfl
      have agreeHere := agree mark (by simp [text, Option.mem_def.mp opens]) plain_mark
      rw [agreeHere.single] at notOperator
      exact .comment notOperator positive opened bodied atMost all
  | illegal plain notOperator notMark =>
      rw [(agree _ rfl plain).single] at notOperator
      exact .illegal plain notOperator notMark

section SameOperators

variable (same : ∀ spelling, left.LiveOperator spelling ↔ right.LiveOperator spelling)
include same

theorem agreeAt_of_liveOperator {char : Char} (plain : Plain char) :
    Vocabulary.AgreeAt left right char := by
  have single : isOperator left [char] = isOperator right [char] := by
    rw [Bool.eq_iff_iff, ← Vocabulary.liveOperator_single_iff plain,
      ← Vocabulary.liveOperator_single_iff plain]
    exact same [char]
  refine ⟨single, fun operator second => ?_⟩
  have pair := same [char, second]
  rw [Vocabulary.liveOperator_pair_iff, Vocabulary.liveOperator_pair_iff,
    Vocabulary.liveOperator_single_iff plain, Vocabulary.liveOperator_single_iff plain,
    ← single] at pair
  rw [Bool.eq_iff_iff]
  simpa [operator] using pair

/-- Vocabularies with the same live operators cut every text alike. -/
theorem recasts_of_liveOperator
    (retells : ∀ {segment rest}, Begins left segment rest → ∀ start stop,
      segment.event? right start stop = (segment.event? left start stop).map retell) :
    Recasts left right id retell where
  text_eq _ := rfl
  begins begins := begins.of_agreeAt fun _ _ plain => agreeAt_of_liveOperator same plain
  event?_eq begins start := retells begins start _

end SameOperators

end Lexis
