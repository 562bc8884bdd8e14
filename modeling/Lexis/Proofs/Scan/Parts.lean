import Lexis.Proofs.Scan.Ahead
import Lexis.Proofs.Segmentation.Joining

/-!
# Parts of a source

The events of some characters, wherever they stand in a source, are those of
the scan of these characters alone, further on (`events_segments`).  So what a
part contributes to a scan is said by a scan of the part.
-/

namespace Lexis.Scan

open Segment

theorem toList_journal_ofSource (vocabulary : Vocabulary) (source : String) :
    (ofSource vocabulary source).journal.toList =
      events vocabulary 0 (segments vocabulary source.toList) := by
  rw [ofSource, finish_of_ahead (ahead_start vocabulary source), Array.toList_appendList]
  rfl

theorem place_ofSource (vocabulary : Vocabulary) (source : String) :
    (ofSource vocabulary source).place = ⟨source, source.utf8ByteSize⟩ := by
  rw [ofSource, finish_of_ahead (ahead_start vocabulary source)]
  rfl

variable (vocabulary : Vocabulary) (offset : Nat) (chars : List Char)

/-- The events of some characters are those of their own scan, further on. -/
theorem events_segments :
    events vocabulary offset (segments vocabulary chars) =
      (ofSource vocabulary (String.ofList chars)).journal.toList.map (Event.shift offset) := by
  rw [toList_journal_ofSource, String.toList_ofList, ← events_add, Nat.zero_add]

/-- The events of a source that stands in another one are those of its own scan. -/
theorem events_segments_toList (source : String) :
    events vocabulary offset (segments vocabulary source.toList) =
      (ofSource vocabulary source).journal.toList.map (Event.shift offset) := by
  rw [events_segments, String.ofList_toList]

theorem filterMap_token?_events :
    (events vocabulary offset (segments vocabulary chars)).filterMap Event.token? =
      (ofSource vocabulary (String.ofList chars)).tokens := by
  rw [events_segments, Event.filterMap_token?_map_shift, tokens]

theorem filterMap_warning?_events :
    (events vocabulary offset (segments vocabulary chars)).filterMap Event.warning? =
      (ofSource vocabulary (String.ofList chars)).warnings.map (Warning.shift offset) := by
  rw [events_segments, Event.filterMap_warning?_map_shift, warnings]

end Lexis.Scan
