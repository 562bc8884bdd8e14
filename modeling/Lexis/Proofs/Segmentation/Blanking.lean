import Lexis.Proofs.Segmentation.Stopping

/-!
# Illegal characters as blanks

Where no operator contains a blank, a segment that is not blanks itself stays
when characters behind it give way to spaces (`Begins.of_faded`).  So a text
may have a space in place of each illegal character: its events are those of
the segments in which the illegal ones are blanks (`events_map_blanked`).
-/

namespace Lexis.Segment

open Text

/-! ## Spaces in place of characters -/

/-- The second list is the first one with spaces in place of some characters. -/
inductive Faded : List Char → List Char → Prop
  | nil : Faded [] []
  | kept {char : Char} {chars others : List Char} :
      Faded chars others → Faded (char :: chars) (char :: others)
  | lost {char : Char} {chars others : List Char} :
      Faded chars others → Faded (char :: chars) (' ' :: others)

variable {vocabulary : Vocabulary} {segment : Segment} {chars others rest faded : List Char}
  {found : List Segment} {start : Nat}

namespace Faded

theorem refl (chars : List Char) : Faded chars chars := by
  induction chars with
  | nil => exact .nil
  | cons char rest inductionHypothesis => exact .kept inductionHypothesis

theorem append (front : Faded chars others) (behind : Faded rest faded) :
    Faded (chars ++ rest) (others ++ faded) := by
  induction front with
  | nil => exact behind
  | kept _ inductionHypothesis => exact .kept inductionHypothesis
  | lost _ inductionHypothesis => exact .lost inductionHypothesis

theorem eq_nil_iff (fades : Faded chars others) : others = [] ↔ chars = [] := by
  cases fades <;> simp

theorem head? (fades : Faded chars others) :
    ∀ char ∈ others.head?, char ∈ chars.head? ∨ char = ' ' := by
  rintro char next
  cases fades with
  | nil => contradiction
  | kept => exact .inl next
  | lost => exact .inr (Option.some_inj.mp next).symm

end Faded

/-- A segment other than blanks stays when characters behind it give way to
spaces. -/
theorem Begins.of_faded (avoid : vocabulary.OperatorsAvoid isBlank)
    (begins : Begins vocabulary segment rest) (notBlanks : ∀ run, segment ≠ Segment.blanks run)
    (fades : Faded rest faded) : Begins vocabulary segment faded := by
  refine begins.before (fun char next => ?_) (mt fades.eq_nil_iff.mp) ?_
  · rcases fades.head? char next with same | rfl
    · exact .inl same
    · refine .inr (goesOn_eq_false_of_isBlank avoid notBlanks ?_ rfl)
      rw [Bool.eq_false_iff]
      intro unclosed
      obtain rfl := begins.eq_nil_of_isUnclosed unclosed
      rw [fades.eq_nil_iff.mpr rfl] at next
      contradiction
  · rintro char second behind - rfl rfl notEnd
    cases fades with
    | kept nothing | lost nothing => exact absurd (nothing.eq_nil_iff.mpr rfl) notEnd

/-! ## Segments with blanks in place of illegal characters -/

/-- A segment with a space in place of an illegal character. -/
def blanked : Segment → Segment
  | illegal _ => blanks [' ']
  | segment => segment

theorem faded_text_blanked (segment : Segment) : Faded segment.text segment.blanked.text := by
  cases segment with
  | illegal => exact .lost .nil
  | _ => exact .refl _

theorem faded_flatMap_text_blanked (found : List Segment) :
    Faded (found.flatMap text) ((found.map blanked).flatMap text) := by
  induction found with
  | nil => exact .nil
  | cons segment later inductionHypothesis =>
      exact (faded_text_blanked segment).append inductionHypothesis

/-- Before a text in which characters gave way to spaces, a segment has its own
event, or none if it is blanks now. -/
theorem Begins.events_blanked (avoid : vocabulary.OperatorsAvoid isBlank)
    (begins : Begins vocabulary segment rest) (fades : Faded rest faded) (start : Nat) :
    events vocabulary start (segments vocabulary (segment.blanked.text ++ faded)) =
      (segment.blanked.event? vocabulary start (start + segment.blanked.size)).toList ++
        events vocabulary (start + segment.blanked.size) (segments vocabulary faded) := by
  have space : ∀ char ∈ [' '], isBlank char = true := List.all_eq_true.mp rfl
  cases segment with
  | blanks run =>
      cases begins with
      | blanks _ longest =>
          exact events_segments_blanks vocabulary longest.all_accepted start faded
  | illegal => exact events_segments_blanks vocabulary space start faded
  | _ =>
      have stays := begins.of_faded avoid (fun _ => Segment.noConfusion) fades
      simp only [blanked, stays.segments_eq, events]

/-- The events of a text with a space in place of each illegal character are
those of its segments with blanks in place of the illegal ones. -/
theorem events_map_blanked (avoid : vocabulary.OperatorsAvoid isBlank)
    (segmented : Segmentation vocabulary chars found) (start : Nat) :
    events vocabulary start (segments vocabulary ((found.map blanked).flatMap text)) =
      events vocabulary start (found.map blanked) := by
  induction segmented generalizing start with
  | nil => rw [List.map_nil, List.flatMap_nil, segments]
  | @cons segment rest later begins segmentedLater inductionHypothesis =>
      have fades : Faded rest ((later.map blanked).flatMap text) := by
        rw [← segmentedLater.flatMap_text]
        exact faded_flatMap_text_blanked later
      rw [List.map_cons, List.flatMap_cons, begins.events_blanked avoid fades,
        inductionHypothesis, events]

/-! ## What is seen of them -/

theorem filterMap_token?_events_blanked (vocabulary : Vocabulary) (start other : Nat)
    (found : List Segment) :
    (events vocabulary start (found.map blanked)).filterMap Event.token? =
      (events vocabulary other found).filterMap Event.token? := by
  induction found generalizing start other with
  | nil => rfl
  | cons segment later inductionHypothesis =>
      have same : (segment.blanked.event? vocabulary start
            (start + segment.blanked.size)).toList.filterMap Event.token? =
          (segment.event? vocabulary other (other + segment.size)).toList.filterMap
            Event.token? := by
        cases segment <;> rfl
      rw [List.map_cons, events, events, List.filterMap_append, List.filterMap_append, same,
        inductionHypothesis _ (other + segment.size)]

theorem filterMap_warning?_events_blanked (vocabulary : Vocabulary) (start : Nat)
    (found : List Segment) :
    (events vocabulary start (found.map blanked)).filterMap Event.warning? = [] := by
  induction found generalizing start with
  | nil => rfl
  | cons segment later inductionHypothesis =>
      rw [List.map_cons, events, List.filterMap_append, inductionHypothesis]
      cases segment <;> rfl

end Lexis.Segment
