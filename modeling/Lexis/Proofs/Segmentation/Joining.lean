import Lexis.Proofs.Segmentation

/-!
# Joining segmentations

Characters can be cut into segments piece by piece.  A segment that begins
some characters can be taken off (`Begins.segments_eq`), and a front whose
segments still obey the rules before the characters behind it is cut on its own
(`segments_append`).  Events are read off joined segments one after the other
(`events_append`), and the offset at which the segments begin only shifts them
(`events_add`).
-/

namespace Lexis

open Text

/-! ## Events further on -/

/-- What is seen of events that were all changed, where the change shows in the
same way in whatever is seen. -/
theorem Event.filterMap_map_of_commutes {α : Type} {see : Event → Option α}
    {change : Event → Event} {alter : α → α}
    (commutes : ∀ event, see (change event) = (see event).map alter) (events : List Event) :
    (events.map change).filterMap see = (events.filterMap see).map alter := by
  rw [List.filterMap_map, List.map_filterMap]
  exact congrArg (List.filterMap · events) (funext commutes)

/-- The same warning further on in a source. -/
def Warning.shift (distance : Nat) (warning : Warning) : Warning :=
  { warning with position := warning.position + distance }

/-- The same event further on in a source. -/
def Event.shift (distance : Nat) : Event → Event
  | token found stop => token found (stop + distance)
  | comment start stop => comment (start + distance) (stop + distance)
  | illegal warning => illegal (warning.shift distance)

@[simp]
theorem Event.token?_shift (distance : Nat) (event : Event) :
    (event.shift distance).token? = event.token? := by
  cases event <;> rfl

@[simp]
theorem Event.warning?_shift (distance : Nat) (event : Event) :
    (event.shift distance).warning? = event.warning?.map (Warning.shift distance) := by
  cases event <;> rfl

theorem Event.filterMap_token?_map_shift (distance : Nat) (events : List Event) :
    (events.map (shift distance)).filterMap token? = events.filterMap token? := by
  rw [List.filterMap_map]
  exact congrArg (List.filterMap · events) (funext fun event => event.token?_shift distance)

theorem Event.filterMap_warning?_map_shift (distance : Nat) (events : List Event) :
    (events.map (shift distance)).filterMap warning? =
      (events.filterMap warning?).map (Warning.shift distance) :=
  filterMap_map_of_commutes (fun event => event.warning?_shift distance) events

namespace Segment

variable {vocabulary : Vocabulary} {segment : Segment} {front rest behind : List Char}

/-! ## Events of segments -/

theorem event?_add (vocabulary : Vocabulary) (segment : Segment) (start stop distance : Nat) :
    segment.event? vocabulary (start + distance) (stop + distance) =
      (segment.event? vocabulary start stop).map (Event.shift distance) := by
  cases segment <;> rfl

/-- Segments that begin further on have the same events further on. -/
theorem events_add (vocabulary : Vocabulary) (start distance : Nat) (segments : List Segment) :
    events vocabulary (start + distance) segments =
      (events vocabulary start segments).map (Event.shift distance) := by
  induction segments generalizing start with
  | nil => rfl
  | cons segment later inductionHypothesis =>
      have stop : start + distance + segment.size = start + segment.size + distance := by omega
      rw [events, events, stop, event?_add, inductionHypothesis, List.map_append,
        Option.toList_map]

/-- The events of joined segments follow one another. -/
theorem events_append (vocabulary : Vocabulary) (start : Nat) (earlier later : List Segment) :
    events vocabulary start (earlier ++ later) =
      events vocabulary start earlier ++
        events vocabulary (start + byteSize (earlier.flatMap text)) later := by
  induction earlier generalizing start with
  | nil => rfl
  | cons segment others inductionHypothesis =>
      have further : start + segment.size + byteSize (others.flatMap text) =
          start + byteSize ((segment :: others).flatMap text) := by
        rw [List.flatMap_cons, byteSize_append, ← Nat.add_assoc]
        rfl
      rw [List.cons_append, events, events, inductionHypothesis, further, List.append_assoc]

/-! ## Segments one after the other -/

/-- A segment that begins some characters is cut off first. -/
theorem Begins.segments_eq (begins : Begins vocabulary segment rest) :
    segments vocabulary (segment.text ++ rest) = segment :: segments vocabulary rest := by
  have later := segmentation_segments vocabulary rest
  exact (segmentation_iff.mp (.cons begins later)).symm

/-- Every segment of a segmentation obeys the rules where it stands. -/
theorem Segmentation.exists_begins {chars : List Char} {found : List Segment}
    (segmented : Segmentation vocabulary chars found) (member : segment ∈ found) :
    ∃ rest, Begins vocabulary segment rest := by
  induction segmented with
  | nil => contradiction
  | cons begins _ inductionHypothesis =>
      rcases List.mem_cons.mp member with rfl | later
      · exact ⟨_, begins⟩
      · exact inductionHypothesis later

/-- The segments of a segmentation put together are its characters. -/
theorem Segmentation.flatMap_text {chars : List Char} {found : List Segment}
    (segmented : Segmentation vocabulary chars found) : found.flatMap text = chars := by
  rw [segmentation_iff.mp segmented, flatMap_text_segments]

/-- A front is cut on its own when each segment of it begins the characters
that are really behind it. -/
theorem segments_append
    (stays : ∀ segment after, (segment.text ++ after) <:+ front → Begins vocabulary segment after →
      Begins vocabulary segment (after ++ behind)) :
    segments vocabulary (front ++ behind) =
      segments vocabulary front ++ segments vocabulary behind := by
  have segmented := segmentation_segments vocabulary front
  generalize segments vocabulary front = found at segmented
  induction segmented with
  | nil => rfl
  | @cons segment after later begins _ inductionHypothesis =>
      have begins := stays segment after List.suffix_rfl begins
      rw [List.append_assoc, begins.segments_eq, inductionHypothesis, List.cons_append]
      intro further beyond suffix
      exact stays further beyond (suffix.trans (List.suffix_append _ _))

/-- A run stays the longest one before other characters, if the first of them
was behind it already or is not accepted. -/
theorem LongestRun.before {accepted : Char → Bool} {run : List Char}
    (longest : LongestRun accepted run rest)
    (first : ∀ char ∈ behind.head?, char ∈ rest.head? ∨ accepted char = false) :
    LongestRun accepted run behind where
  all_accepted := longest.all_accepted
  stops := by
    intro char next
    rcases first char next with same | other
    · exact longest.stops char same
    · exact other

end Segment

end Lexis
