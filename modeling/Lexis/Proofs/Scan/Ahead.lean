import Lexis.Proofs.Scan.Pass

/-!
# The events ahead of a scan

At a place between characters, all that a scan will ever do is fixed by one
list: the events of the segments behind the place (`Ahead`).  A pass takes the
first event off the list, and no pass splits a character (`pass_of_ahead_cons`).
A finished scan has recorded the whole list and has reached the end of the
source (`finish_of_ahead`).
-/

namespace Lexis

open Text

/-! ## Segments behind the blanks -/

namespace Segment

/-- Blanks have no event, so events are read off behind them. -/
theorem events_segments_dropWhile (vocabulary : Vocabulary) (offset : Nat) (chars : List Char) :
    events vocabulary offset (segments vocabulary chars) =
      events vocabulary (offset + byteSize (chars.takeWhile isBlank))
        (segments vocabulary (chars.dropWhile isBlank)) := by
  cases chars with
  | nil => rfl
  | cons char rest =>
      by_cases blank : isBlank char = true
      · have run : first vocabulary char rest = blanks ((char :: rest).takeWhile isBlank) := by
          rw [first, if_pos blank, List.takeWhile_cons_of_pos blank]
        have left := eq_dropWhile_of_append
          (List.prefix_iff_eq_append.mp (List.takeWhile_prefix (l := char :: rest) isBlank))
        rw [segments, run, events, text, left]
        rfl
      · rw [List.takeWhile_cons_of_neg blank, List.dropWhile_cons_of_neg blank]
        rfl

end Segment

namespace Event

/-- The token of an event that is one, with the offset behind it. -/
def ended? : Event → Option (Token × Nat)
  | token found stop => some (found, stop)
  | _ => none

theorem map_fst_filterMap_ended? (events : List Event) :
    (events.filterMap ended?).map Prod.fst = events.filterMap token? := by
  rw [List.map_filterMap]
  refine congrArg (List.filterMap · events) (funext fun event => ?_)
  cases event <;> rfl

theorem exists_of_token?_eq_some {event : Event} {found : Token}
    (isToken : event.token? = some found) : ∃ stop, event = .token found stop := by
  cases event with
  | token other stop =>
      obtain rfl := Option.some_inj.mp isToken
      exact ⟨stop, rfl⟩
  | _ => contradiction

/-- The event begins no earlier than the first offset and ends at the last. -/
def Within (first last : Nat) : Event → Prop
  | token _ stop => stop = last
  | comment start stop => first ≤ start ∧ stop = last
  | illegal warning => first ≤ warning.position ∧ warning.position < last

theorem within_of_event? {vocabulary : Vocabulary} {segment : Segment} {event : Event}
    {earlier first last : Nat} (found : segment.event? vocabulary first last = some event)
    (after : earlier ≤ first) (before : first < last) : event.Within earlier last := by
  cases segment with
  | blanks => contradiction
  | comment =>
      obtain rfl := Option.some_inj.mp found
      exact ⟨after, rfl⟩
  | illegal =>
      obtain rfl := Option.some_inj.mp found
      exact ⟨after, before⟩
  | _ =>
      obtain rfl := Option.some_inj.mp found
      rfl

end Event

namespace Scan

open Segment

/-- The scan moved to the end of its source. -/
def toEnd (scan : Scan) : Scan :=
  { scan with place := ⟨scan.source, scan.source.utf8ByteSize⟩ }

/-- The events that a scan has not met yet: the place lies between characters,
and these are the events of the segments behind it. -/
def Ahead (scan : Scan) (events : List Event) : Prop :=
  ∃ before after, scan.place.Splits before after ∧
    events = Segment.events scan.vocabulary scan.position (segments scan.vocabulary after)

variable {scan : Scan} {event : Event} {events later : List Event}

theorem ahead_start (vocabulary : Vocabulary) (source : String) :
    (start vocabulary source).Ahead
      (Segment.events vocabulary 0 (segments vocabulary source.toList)) :=
  ⟨[], source.toList, Place.splits_start source, rfl⟩

theorem Ahead.isValid (ahead : scan.Ahead events) :
    String.Pos.Raw.IsValid scan.source ⟨scan.position⟩ := by
  rcases ahead with ⟨before, after, splits, -⟩
  exact splits.isValid

theorem ahead_of_place {text : String} (atEnd : scan.place = ⟨text, text.utf8ByteSize⟩) :
    scan.Ahead [] := by
  refine ⟨text.toList, [], ⟨?_, ?_⟩, ?_⟩
  · simp [atEnd]
  · simp [atEnd, byteSize]
  · rw [segments, Segment.events]

theorem toEnd_eq_self {text : String} (atEnd : scan.place = ⟨text, text.utf8ByteSize⟩) :
    scan.toEnd = scan := by
  rcases scan with ⟨vocabulary, place, current?, journal⟩
  obtain rfl : place = ⟨text, text.utf8ByteSize⟩ := atEnd
  rfl

/-! ## One pass -/

/-- Behind the blanks no blank begins, and the same events are ahead. -/
theorem Ahead.behindWhitespace (ahead : scan.Ahead events) :
    ∃ before after, scan.behindWhitespace.Splits before after ∧
      (∀ char ∈ after.head?, isBlank char = false) ∧
      scan.position ≤ scan.behindWhitespace.offset ∧
      events = Segment.events scan.vocabulary scan.behindWhitespace.offset
        (segments scan.vocabulary after) := by
  rcases ahead with ⟨before, after, splits, rfl⟩
  have skipped := splits.skipWhile decides_whitespace
  refine ⟨_, _, skipped, (longestRun_takeWhile isBlank after).stops, Place.le_skipWhile _ _, ?_⟩
  rw [events_segments_dropWhile, Scan.behindWhitespace, splits.skipWhile_eq decides_whitespace]
  rfl

/-- With nothing ahead, there are only blanks up to the end of the source. -/
theorem behindWhitespace_of_ahead_nil (ahead : scan.Ahead []) :
    scan.behindWhitespace = ⟨scan.source, scan.source.utf8ByteSize⟩ ∧
      scan.behindWhitespace.byte? = none := by
  rcases ahead.behindWhitespace with ⟨before, after, splits, notBlank, -, listed⟩
  cases after with
  | nil =>
      have size := splits.size_eq
      rw [byteSize_nil, Nat.add_zero, Scan.behindWhitespace, Place.skipWhile_source] at size
      constructor
      · rw [source, size]
        rfl
      · exact splits.byte?_eq_none_iff.mpr rfl
  | cons char rest =>
      rcases Event.read?_of_splits splits (notBlank char rfl) with ⟨event, found, -⟩
      rw [segments, Segment.events, found] at listed
      contradiction

theorem pass_of_ahead_nil (ahead : scan.Ahead []) : scan.pass = (none, scan.toEnd) := by
  rcases behindWhitespace_of_ahead_nil ahead with ⟨atEnd, noByte⟩
  have nothing : Event.read? scan.vocabulary scan.behindWhitespace = none := by
    rw [Event.read?, noByte]
  rw [pass_of_read?_eq_none nothing, atEnd]
  rfl

/-- A pass with events ahead reads the first one and leaves the later ones. -/
theorem pass_of_ahead_cons (ahead : scan.Ahead (event :: later)) :
    ∃ behind, scan.pass = (some event, scan.record event behind) ∧
      (scan.record event behind).Ahead later ∧ behind.source = scan.source ∧
      event.Within scan.position behind.offset := by
  rcases ahead.behindWhitespace with ⟨before, after, splits, notBlank, skipped, listed⟩
  cases after with
  | nil =>
      rw [segments, Segment.events] at listed
      exact absurd listed (List.cons_ne_nil event later)
  | cons char rest =>
      rcases Event.read?_of_splits splits (notBlank char rfl) with ⟨read, found, met⟩
      rcases text_first_prefix scan.vocabulary char rest with ⟨behind, whole⟩
      rw [segments, Segment.events, found, Option.toList_some, List.singleton_append,
        ← whole, List.drop_left] at listed
      rcases List.cons_eq_cons.mp listed with ⟨rfl, rfl⟩
      rw [← whole] at splits
      refine ⟨_, pass_of_read?_eq_some met, ⟨_, behind, splits.forward, rfl⟩, rfl, ?_⟩
      exact Event.within_of_event? found skipped (Event.lt_of_read?_eq_some met).1

/-! ## The next token -/

/-- A token is handed out by reading the events ahead up to the first token. -/
theorem exists_of_next_eq_some {after : Scan} {token : Token} (ahead : scan.Ahead events)
    (handed : scan.next = (some token, after)) :
    ∃ skipped later, events = skipped ++ .token token after.position :: later ∧
      skipped.filterMap Event.token? = [] ∧
      after.journal = scan.journal ++ (skipped ++ [.token token after.position]) ∧
      after.Ahead later := by
  induction events generalizing scan with
  | nil =>
      rw [next_of_pass_none (pass_of_ahead_nil ahead)] at handed
      simp at handed
  | cons event others inductionHypothesis =>
      rcases pass_of_ahead_cons ahead with ⟨behind, passed, aheadOthers, -, within⟩
      cases kind : event.token? with
      | some found =>
          rw [next_of_pass_token passed kind] at handed
          rcases Prod.mk.inj handed with ⟨same, rfl⟩
          obtain rfl := Option.some_inj.mp same
          rcases Event.exists_of_token?_eq_some kind with ⟨stop, rfl⟩
          obtain rfl : stop = behind.offset := within
          refine ⟨[], others, rfl, rfl, ?_, aheadOthers⟩
          simp [record, position]
      | none =>
          rw [next_of_pass_skipped passed kind] at handed
          rcases inductionHypothesis aheadOthers handed with
            ⟨skipped, later, rfl, noToken, journal, aheadLater⟩
          refine ⟨event :: skipped, later, rfl, ?_, ?_, aheadLater⟩
          · rw [List.filterMap_cons_none kind, noToken]
          · rw [journal, record, List.cons_append, Array.appendList_cons]

/-! ## How much is ahead -/

theorem length_events_le (vocabulary : Vocabulary) (offset : Nat) (chars : List Char) :
    (Segment.events vocabulary offset (segments vocabulary chars)).length ≤ chars.length := by
  fun_induction segments vocabulary chars generalizing offset with
  | case1 => exact Nat.le_refl 0
  | case2 char rest inductionHypothesis =>
      have positive := List.length_pos_iff.mpr (text_first_ne_nil vocabulary char rest)
      have later := inductionHypothesis (offset + (first vocabulary char rest).size)
      have single := Option.length_toList_le (o := (first vocabulary char rest).event? vocabulary
        offset (offset + (first vocabulary char rest).size))
      rw [List.length_drop] at later
      rw [Segment.events, List.length_append]
      rw [List.length_cons] at later ⊢
      omega

/-- There are no more events ahead than bytes are left. -/
theorem Ahead.length_le_remaining (ahead : scan.Ahead events) :
    events.length ≤ scan.remaining := by
  rcases ahead with ⟨before, after, splits, rfl⟩
  rw [remaining, splits.remaining_eq]
  exact Nat.le_trans (length_events_le _ _ after) (length_le_byteSize after)

/-! ## The whole run -/

theorem getLast?_tokens_cons (event : Event) (later : List Event) (current? : Option Token) :
    (((event :: later).filterMap Event.token?).getLast? <|> current?) =
      ((later.filterMap Event.token?).getLast? <|> event.token? <|> current?) := by
  cases kind : event.token? with
  | none =>
      rw [List.filterMap_cons_none kind]
      rfl
  | some token =>
      rw [List.filterMap_cons_some kind, List.getLast?_cons]
      cases (later.filterMap Event.token?).getLast? <;> rfl

/-- A finished scan has met everything that was ahead, in that order. -/
theorem finish_of_ahead (ahead : scan.Ahead events) :
    scan.finish = ⟨scan.vocabulary, scan.toEnd.place,
      (events.filterMap Event.token?).getLast? <|> scan.current?, scan.journal ++ events⟩ := by
  induction events generalizing scan with
  | nil =>
      rw [finish_of_pass_none (pass_of_ahead_nil ahead), Array.appendList_nil]
      rfl
  | cons event later inductionHypothesis =>
      rcases pass_of_ahead_cons ahead with ⟨behind, passed, aheadLater, sameSource, -⟩
      have place : (scan.record event behind).toEnd.place = scan.toEnd.place := by
        simp only [toEnd, source, record] at sameSource ⊢
        rw [sameSource]
      rw [finish_of_pass_some passed, inductionHypothesis aheadLater, place,
        getLast?_tokens_cons, Array.appendList_cons]
      rfl

/-- The tokens ahead are handed out, each at the offset behind it. -/
theorem handed_of_ahead (ahead : scan.Ahead events) :
    scan.handed = events.filterMap Event.ended? := by
  induction events generalizing scan with
  | nil => exact handed_of_pass_none (pass_of_ahead_nil ahead)
  | cons event later inductionHypothesis =>
      rcases pass_of_ahead_cons ahead with ⟨behind, passed, aheadLater, -, within⟩
      rw [handed_of_pass_some passed, inductionHypothesis aheadLater]
      cases event with
      | token found stop =>
          obtain rfl : stop = behind.offset := within
          rfl
      | comment => rfl
      | illegal => rfl

end Scan

end Lexis
