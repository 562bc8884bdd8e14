import Lexis.Proofs.Segmentation.Stopping

/-!
# Blanks between texts

Where no operator contains a blank, nothing reaches over blanks but a comment.
A text without an unclosed comment is read in the same way before blanks,
whatever follows them, and what follows them is read as if it stood alone
(`readApart_append_blanks`).

The text before the blanks is not read as it is without them: a pair of
operator characters that ends it becomes one operator before a blank
(`EndsInPair.events_append`).
-/

namespace Lexis.Segment

open Text

variable {vocabulary : Vocabulary} {front run : List Char} {found : List Segment}

/-- The events of two texts, one behind the other, are those of each alone. -/
def ReadApart (vocabulary : Vocabulary) (front behind : List Char) : Prop :=
  ∀ start, events vocabulary start (segments vocabulary (front ++ behind)) =
    events vocabulary start (segments vocabulary front) ++
      events vocabulary (start + byteSize front) (segments vocabulary behind)

/-- A text without an unclosed comment and with blanks behind it is read apart
from what follows the blanks. -/
theorem readApart_append_blanks (avoid : vocabulary.OperatorsAvoid isBlank)
    (segmented : Segmentation vocabulary front found) (closed : found.any isUnclosed = false)
    (notEmpty : run ≠ []) (allBlank : ∀ char ∈ run, isBlank char = true) (behind : List Char) :
    ReadApart vocabulary (front ++ run) behind := by
  intro start
  rw [segmentation_iff.mp segmented] at closed
  rcases exists_stopped vocabulary front with ⟨found, stopped⟩
  have stops (more : List Char) : Stops vocabulary front (run ++ more) := by
    apply stops_of_isBlank avoid (isUnclosed_getLast?_eq_false closed)
      (List.append_ne_nil_of_left_ne_nil notEmpty more)
    intro char isNext
    rw [List.head?_append_of_ne_nil _ notEmpty] at isNext
    exact allBlank char (List.mem_of_mem_head? isNext)
  have before := stopped.events_append (stops behind) start
  have alone := stopped.events_append (stops []) start
  rw [events_segments_blanks vocabulary allBlank] at before
  rw [List.append_nil, events_blanks vocabulary allBlank, List.append_nil] at alone
  rw [List.append_assoc, before, alone, byteSize_append, Nat.add_assoc]

end Lexis.Segment
