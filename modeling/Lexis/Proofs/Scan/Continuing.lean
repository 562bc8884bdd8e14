import Lexis.Proofs.Scan.Parts
import Lexis.Proofs.Scan.Summary
import Lexis.Proofs.Segmentation.Continuing

/-!
# Sources that go on

A scan can begin before its source is complete.  A token with two more bytes
behind it is final, and so are all tokens and warnings before it: they are the
same however the source goes on (`ended_append_of_room`).  Without pairs among
the operators one more byte is enough.
-/

namespace Lexis

open Text Segment

namespace Segment

variable {vocabulary : Vocabulary} {start stop index : Nat} {token : Token}
  {found : List Segment}

/-- The tokens of segments begin with the token of the first one, if it has one. -/
theorem filterMap_ended?_events_cons (vocabulary : Vocabulary) (start : Nat) (segment : Segment)
    (later : List Segment) :
    (events vocabulary start (segment :: later)).filterMap Event.ended? =
      ((segment.event? vocabulary start (start + segment.size)).bind Event.ended?).toList ++
        (events vocabulary (start + segment.size) later).filterMap Event.ended? := by
  rw [events, List.filterMap_append]
  cases segment <;> rfl

theorem eq_of_bind_ended? {segment : Segment} {last : Nat}
    (ended : (segment.event? vocabulary start last).bind Event.ended? = some (token, stop)) :
    stop = last := by
  cases segment with
  | number | word | operator => exact (congrArg Prod.snd (Option.some_inj.mp ended)).symm
  | _ => contradiction

/-- A token divides the segments into those up to it and those behind it. -/
theorem exists_append_of_getElem?_ended
    (ended : ((events vocabulary start found).filterMap Event.ended?)[index]? =
      some (token, stop)) :
    ∃ front later, found = front ++ later ∧ stop = start + byteSize (front.flatMap text) ∧
      ((events vocabulary start front).filterMap Event.ended?).length = index + 1 := by
  induction found generalizing start index with
  | nil => contradiction
  | cons segment others inductionHypothesis =>
      rw [filterMap_ended?_events_cons] at ended
      have further (front : List Segment) :
          start + segment.size + byteSize (front.flatMap text) =
            start + byteSize ((segment :: front).flatMap text) := by
        rw [List.flatMap_cons, byteSize_append, ← Nat.add_assoc]
        rfl
      cases here : (segment.event? vocabulary start (start + segment.size)).bind Event.ended? with
      | none =>
          rw [here, Option.toList_none, List.nil_append] at ended
          rcases inductionHypothesis ended with ⟨front, later, rfl, reached, length⟩
          refine ⟨segment :: front, later, rfl, reached.trans (further front), ?_⟩
          rw [filterMap_ended?_events_cons, here, Option.toList_none, List.nil_append, length]
      | some first =>
          rw [here, Option.toList_some, List.singleton_append] at ended
          cases index with
          | zero =>
              obtain rfl := Option.some_inj.mp ended
              refine ⟨[segment], others, rfl, (eq_of_bind_ended? here).trans (further []), ?_⟩
              rw [filterMap_ended?_events_cons, here]
              rfl
          | succ index =>
              rcases inductionHypothesis ended with ⟨front, later, rfl, reached, length⟩
              refine ⟨segment :: front, later, rfl, reached.trans (further front), ?_⟩
              rw [filterMap_ended?_events_cons, here, Option.toList_some, List.length_append,
                List.length_singleton, length, Nat.add_comm]

theorem le_position_of_mem_events {warning : Warning}
    (met : warning ∈ (events vocabulary start found).filterMap Event.warning?) :
    start ≤ warning.position := by
  rcases List.mem_filterMap.mp met with ⟨event, listed, isWarning⟩
  rcases exists_segment_of_mem_events listed with ⟨earlier, segment, later, -, lies⟩
  cases segment with
  | illegal char =>
      obtain rfl := Option.some_inj.mp lies
      obtain rfl := Option.some_inj.mp isWarning
      exact Nat.le_add_right start _
  | blanks => contradiction
  | _ =>
      obtain rfl := Option.some_inj.mp lies
      contradiction

theorem position_lt_of_mem_events {warning : Warning}
    (met : warning ∈ (events vocabulary start found).filterMap Event.warning?) :
    warning.position < start + byteSize (found.flatMap text) := by
  rcases List.mem_filterMap.mp met with ⟨event, listed, isWarning⟩
  rcases exists_segment_of_mem_events listed with ⟨earlier, segment, later, rfl, lies⟩
  cases segment with
  | illegal char =>
      obtain rfl := Option.some_inj.mp lies
      obtain rfl := Option.some_inj.mp isWarning
      have positive := char.utf8Size_pos
      simp only [List.flatMap_append, List.flatMap_cons, text, byteSize_append, byteSize_cons]
      omega
  | blanks => contradiction
  | _ =>
      obtain rfl := Option.some_inj.mp lies
      contradiction

theorem stop_le_of_mem_events
    (met : (token, stop) ∈ (events vocabulary start found).filterMap Event.ended?) :
    stop ≤ start + byteSize (found.flatMap text) := by
  rcases List.mem_filterMap.mp met with ⟨event, listed, isEnded⟩
  rcases exists_segment_of_mem_events listed with ⟨earlier, segment, later, rfl, lies⟩
  have ended : (segment.event? vocabulary (start + byteSize (earlier.flatMap text))
      (start + byteSize (earlier.flatMap text) + segment.size)).bind Event.ended? =
        some (token, stop) := by
    rw [lies]
    exact isEnded
  have size : segment.size = byteSize segment.text := rfl
  rw [eq_of_bind_ended? ended, size, List.flatMap_append, List.flatMap_cons, byteSize_append,
    byteSize_append]
  omega

theorem size_illegal_pos (char : Char) : 0 < (illegal char).size :=
  Nat.lt_of_lt_of_eq char.utf8Size_pos (byteSize_cons char []).symm

/-- Warnings come in the order of the source. -/
theorem pairwise_position_events (vocabulary : Vocabulary) (start : Nat) (found : List Segment) :
    ((events vocabulary start found).filterMap Event.warning?).Pairwise
      fun earlier later => earlier.position < later.position := by
  induction found generalizing start with
  | nil => exact .nil
  | cons segment later inductionHypothesis =>
      have behind := inductionHypothesis (start + segment.size)
      rw [events, List.filterMap_append]
      cases segment with
      | illegal char =>
          refine List.pairwise_cons.mpr ⟨fun warning met => ?_, behind⟩
          exact Nat.lt_of_lt_of_le (Nat.lt_add_of_pos_right (size_illegal_pos char))
            (le_position_of_mem_events met)
      | _ => exact behind

/-- The warnings before an offset are not changed by the events behind it. -/
theorem filter_warnings_append (front : List Event) (stop : Nat) (later : List Segment) :
    ((front ++ events vocabulary stop later).filterMap Event.warning?).filter
        (·.position < stop) =
      (front.filterMap Event.warning?).filter (·.position < stop) := by
  have behind : ((events vocabulary stop later).filterMap Event.warning?).filter
      (·.position < stop) = [] := by
    rw [List.filter_eq_nil_iff]
    intro warning met
    rw [decide_eq_true_iff, Nat.not_lt]
    exact le_position_of_mem_events met
  rw [List.filterMap_append, List.filter_append, behind, List.append_nil]

/-- Warnings before an offset are told from those that were moved behind it. -/
theorem filter_warnings_append_shift {before after : List Warning} {distance : Nat}
    (early : ∀ warning ∈ before, warning.position < stop) (far : stop ≤ distance) :
    (before ++ after.map (Warning.shift distance)).filter (·.position < stop) = before := by
  have late : (after.map (Warning.shift distance)).filter (·.position < stop) = [] := by
    rw [List.filter_eq_nil_iff]
    intro warning met
    rcases List.mem_map.mp met with ⟨other, -, rfl⟩
    rw [decide_eq_true_iff, Nat.not_lt]
    exact Nat.le_trans far (Nat.le_add_left distance other.position)
  rw [List.filter_append, late, List.append_nil, List.filter_eq_self]
  intro warning met
  exact decide_eq_true (early warning met)

end Segment

namespace Summary

/-- With two bytes behind it, or one where no operator is a pair, a token is
final: however the source goes on, the tokens up to it with the offsets behind
them and the warnings before its end are the same. -/
theorem ended_append_of_room (vocabulary : Vocabulary) (source more : String) {index stop : Nat}
    {token : Token}
    (ended : (ofSource vocabulary source).ended[index]? = some (token, stop))
    (room : stop + 2 ≤ source.utf8ByteSize ∨
      vocabulary.Unpaired ∧ stop + 1 ≤ source.utf8ByteSize) :
    let short := ofSource vocabulary source
    let long := ofSource vocabulary (source ++ more)
    long.ended.take (index + 1) = short.ended.take (index + 1) ∧
      long.warnings.filter (·.position < stop) = short.warnings.filter (·.position < stop) := by
  intro short long
  rw [ofSource, Scan.toList_journal_ofSource] at ended
  rcases exists_append_of_getElem?_ended ended with ⟨front, later, divided, reached, length⟩
  rw [Nat.zero_add] at reached
  have segmented := segmentation_segments vocabulary source.toList
  have whole := segmented.flatMap_text
  rw [divided] at segmented whole
  rw [List.flatMap_append] at whole
  have size : source.utf8ByteSize = stop + byteSize (later.flatMap text) := by
    rw [reached, ← byteSize_append, whole, byteSize_toList]
  have settles : Settles vocabulary (later.flatMap text) := by
    rcases room with two | ⟨unpaired, one⟩
    · exact settles_of_two_le (by omega)
    · exact settles_of_unpaired unpaired (by omega)
  have shortEvents : (Scan.ofSource vocabulary source).journal.toList =
      events vocabulary 0 front ++ events vocabulary stop later := by
    rw [Scan.toList_journal_ofSource, divided, events_append, reached, Nat.zero_add]
  have longEvents : (Scan.ofSource vocabulary (source ++ more)).journal.toList =
      events vocabulary 0 front ++ events vocabulary stop
        (segments vocabulary (later.flatMap text ++ more.toList)) := by
    rw [Scan.toList_journal_ofSource, String.toList_append,
      segments_append_of_settles segmented settles, events_append, reached, Nat.zero_add]
  constructor
  · simp only [short, long, ofSource, shortEvents, longEvents, List.filterMap_append]
    rw [← length, List.take_left, List.take_left]
  · simp only [short, long, ofSource, Scan.warnings, shortEvents, longEvents]
    rw [filter_warnings_append, filter_warnings_append]

/-- A pair with two bytes behind it stays, although its own characters could
follow again. -/
theorem ended_append_of_room_pair :
    let vocabulary := Vocabulary.arithmetic.registerAll [.operator "<", .operator "<="]
    (ofSource vocabulary "?1<=<=").ended[1]? = some (.symbol "<=", 4) ∧
      4 + 2 ≤ "?1<=<=".utf8ByteSize ∧
      (ofSource vocabulary ("?1<=<=" ++ "=é")).ended.take 2 =
        [(.number "1", 2), (.symbol "<=", 4)] ∧
      (ofSource vocabulary ("?1<=<=" ++ "=é")).warnings.filter (·.position < 4) = [⟨0, '?'⟩] := by
  intro vocabulary
  have ended : (ofSource vocabulary "?1<=<=").ended[1]? = some (.symbol "<=", 4) := by
    decide +kernel
  have room : 4 + 2 ≤ "?1<=<=".utf8ByteSize := by decide
  rcases ended_append_of_room vocabulary "?1<=<=" "=é" ended (.inl room) with ⟨tokens, warnings⟩
  refine ⟨ended, room, tokens.trans ?_, warnings.trans ?_⟩
  · decide +kernel
  · decide +kernel

/-- With a single byte behind it, an operator can still become a pair. -/
example :
    let vocabulary := Vocabulary.arithmetic.registerAll [.operator "<", .operator "<="]
    (ofSource vocabulary "<=").ended = [(.symbol "<", 1), (.symbol "=", 2)] ∧
      (ofSource vocabulary ("<=" ++ "=")).ended = [(.symbol "<=", 2), (.symbol "=", 3)] := by
  decide +kernel

end Summary

end Lexis
