import Lexis.Proofs.Scan.Ahead
import Lexis.Proofs.Segmentation.Comments
import Lexis.Proofs.Segmentation.Continuing

/-!
# Characters that stop a text

Characters behind a text stop it when its last segment does not go on with the
first of them (`Stops`).  All that stop a text leave it the same events
(`exists_stopped`): its own ones, or those with the pair whole that ends the
text.  Blanks stop every text but an unclosed comment where no operator
contains a blank (`stops_of_isBlank`); where none contains a mark, so does a
mark behind a text that does not end with one (`stops_of_mark`).
-/

namespace Lexis.Segment

open Text

variable {vocabulary : Vocabulary} {chars next run : List Char} {segment last : Segment}
  {earlier : List Segment}

/-! ## The last segment -/

theorem begins_last (divided : segments vocabulary chars = earlier ++ [last]) :
    Begins vocabulary last [] := by
  have segmented := segmentation_segments vocabulary chars
  rw [divided] at segmented
  have behind := segmented.behind
  generalize [last].flatMap text = whole at behind
  cases behind with
  | cons begins nothing =>
      cases nothing with
      | nil => exact begins

theorem getLast?_eq_of_divided (divided : segments vocabulary chars = earlier ++ [last]) :
    chars.getLast? = last.text.getLast? := by
  have whole := flatMap_text_segments vocabulary chars
  rw [divided, List.flatMap_append, List.flatMap_singleton] at whole
  rw [← whole, List.getLast?_append_of_ne_nil _ (begins_last divided).text_ne_nil]

/-! ## Events before characters that stop the text -/

/-- There are characters, and the last segment of the text does not go on with
the first of them, unless it is blanks. -/
structure Stops (vocabulary : Vocabulary) (chars next : List Char) : Prop where
  ne_nil : next ≠ []
  ends : ∀ last ∈ (segments vocabulary chars).getLast?, (∀ run, last ≠ blanks run) →
    ∀ char ∈ next.head?, last.goesOn vocabulary char = false

theorem events_segments_blanks (vocabulary : Vocabulary)
    (allBlank : ∀ char ∈ run, isBlank char = true) (start : Nat) (chars : List Char) :
    events vocabulary start (segments vocabulary (run ++ chars)) =
      events vocabulary (start + byteSize run) (segments vocabulary chars) := by
  rw [events_segments_dropWhile, events_segments_dropWhile vocabulary (start + byteSize run),
    List.takeWhile_append_of_pos allBlank, List.dropWhile_append_of_pos allBlank, byteSize_append,
    Nat.add_assoc]

theorem events_blanks (vocabulary : Vocabulary) (allBlank : ∀ char ∈ run, isBlank char = true)
    (start : Nat) : events vocabulary start (segments vocabulary run) = [] := by
  rw [← List.append_nil run, events_segments_blanks vocabulary allBlank, segments, events]

/-- A segment that nothing follows has the same event before characters that it
does not go on with. -/
theorem Begins.events_append (begins : Begins vocabulary last [])
    (ends : (∀ run, last ≠ Segment.blanks run) →
      ∀ char ∈ next.head?, last.goesOn vocabulary char = false) (start : Nat) :
    events vocabulary start (segments vocabulary (last.text ++ next)) =
      events vocabulary start [last] ++
        events vocabulary (start + byteSize last.text) (segments vocabulary next) := by
  by_cases isBlanks : ∃ run, last = Segment.blanks run
  · rcases isBlanks with ⟨run, rfl⟩
    cases begins with
    | blanks _ longest => exact events_segments_blanks vocabulary longest.all_accepted start next
  · have stays : Begins vocabulary last ([] ++ next) :=
      begins.append (fun _ => ends (not_exists.mp isBlanks)) (fun _ _ _ other => by contradiction)
    rw [List.nil_append] at stays
    have single : [last].flatMap text = last.text := List.flatMap_singleton ..
    rw [stays.segments_eq, ← List.singleton_append, Segment.events_append, single]

/-- A text without a pair at its end has its own events before characters that
stop it. -/
theorem Stops.events_append (stops : Stops vocabulary chars next)
    (uncut : ∀ earlier char second, ¬ EndsInPair vocabulary chars earlier char second)
    (start : Nat) :
    events vocabulary start (segments vocabulary (chars ++ next)) =
      events vocabulary start (segments vocabulary chars) ++
        events vocabulary (start + byteSize chars) (segments vocabulary next) := by
  have whole := flatMap_text_segments vocabulary chars
  rcases List.eq_nil_or_concat' (segments vocabulary chars) with none | ⟨earlier, last, divided⟩
  · rw [none] at whole
    obtain rfl : chars = [] := whole.symm
    rw [none]
    rfl
  · have isLast : last ∈ (segments vocabulary chars).getLast? := by
      rw [divided]
      exact List.getLast?_concat
    rw [divided, List.flatMap_append, List.flatMap_singleton] at whole
    have size : start + byteSize (earlier.flatMap text) + byteSize last.text =
        start + byteSize chars := by
      rw [← whole, byteSize_append, Nat.add_assoc]
    rw [segments_append_of_last divided uncut, divided, Segment.events_append,
      Segment.events_append, (begins_last divided).events_append (stops.ends last isLast), size,
      List.append_assoc]

/-- A pair that ends the text is whole before any characters. -/
theorem EndsInPair.events_append {char second : Char}
    (ends : EndsInPair vocabulary chars earlier char second) (notEmpty : next ≠ [])
    (start : Nat) :
    events vocabulary start (segments vocabulary (chars ++ next)) =
      events vocabulary start (earlier ++ [operator [char, second]]) ++
        events vocabulary (start + byteSize chars) (segments vocabulary next) := by
  have text : (earlier ++ [operator [char, second]]).flatMap text = chars := by
    rw [List.flatMap_append]
    exact ends.flatMap_text
  rw [ends.segments_append notEmpty, ← List.singleton_append, ← List.append_assoc,
    Segment.events_append, text]

/-- The segments of a text before all characters that stop it. -/
structure Stopped (vocabulary : Vocabulary) (chars : List Char) (found : List Segment) : Prop where
  flatMap_text : found.flatMap text = chars
  events_append : ∀ {next : List Char}, Stops vocabulary chars next → ∀ start,
    events vocabulary start (segments vocabulary (chars ++ next)) =
      events vocabulary start found ++
        events vocabulary (start + byteSize chars) (segments vocabulary next)

/-- All characters that stop a text leave it the same events: its own ones, or
those with the pair whole that ends it. -/
theorem exists_stopped (vocabulary : Vocabulary) (chars : List Char) :
    ∃ found, Stopped vocabulary chars found := by
  by_cases cut : ∃ earlier char second, EndsInPair vocabulary chars earlier char second
  · rcases cut with ⟨earlier, char, second, ends⟩
    refine ⟨earlier ++ [operator [char, second]], ?_, fun stops => ends.events_append stops.ne_nil⟩
    rw [List.flatMap_append]
    exact ends.flatMap_text
  · have uncut : ∀ earlier char second, ¬ EndsInPair vocabulary chars earlier char second :=
      fun earlier char second ends => cut ⟨earlier, char, second, ends⟩
    exact ⟨segments vocabulary chars, flatMap_text_segments vocabulary chars,
      fun stops => stops.events_append uncut⟩

/-! ## Blanks and marks -/

/-- No segment but blanks and unclosed comments goes on with a blank. -/
theorem goesOn_eq_false_of_isBlank (avoid : vocabulary.OperatorsAvoid isBlank)
    (notBlanks : ∀ run, segment ≠ blanks run) (closed : segment.isUnclosed = false)
    {char : Char} (blank : isBlank char = true) : segment.goesOn vocabulary char = false := by
  have notAlphanumeric : char.isAlphanum = false := by
    by_contra alphanumeric
    rw [Bool.not_eq_false] at alphanumeric
    rw [isBlank_eq_false_of_isAlphanum alphanumeric] at blank
    contradiction
  cases segment with
  | blanks run => exact absurd rfl (notBlanks run)
  | number => exact (Bool.or_eq_false_iff.mp notAlphanumeric).2
  | word => exact notAlphanumeric
  | operator spelling =>
      rcases spelling with _ | ⟨first, _ | ⟨second, others⟩⟩
      · rfl
      · exact avoid.isOperator_eq_false (List.mem_cons_of_mem _ List.mem_cons_self) blank
      · rfl
  | comment opening body closing =>
      have notMark : (char == mark) = false := by
        rw [beq_eq_false_iff_ne]
        rintro rfl
        contradiction
      rw [isUnclosed] at closed
      rw [goesOn, closed, notMark, Bool.and_false, Bool.or_false]
  | illegal => rfl

/-- No segment but comments goes on with a mark. -/
theorem goesOn_mark_eq_false (avoid : vocabulary.OperatorsAvoid (· == mark))
    (notComment : ∀ opening body closing, segment ≠ comment opening body closing) :
    segment.goesOn vocabulary mark = false := by
  cases segment with
  | operator spelling =>
      rcases spelling with _ | ⟨first, _ | ⟨second, others⟩⟩
      · rfl
      · exact avoid.isOperator_eq_false (List.mem_cons_of_mem _ List.mem_cons_self) rfl
      · rfl
  | comment opening body closing => exact absurd rfl (notComment opening body closing)
  | _ => rfl

theorem isUnclosed_getLast?_eq_false (closed : (segments vocabulary chars).any isUnclosed = false) :
    ∀ last ∈ (segments vocabulary chars).getLast?, last.isUnclosed = false := by
  intro last isLast
  have other := List.any_eq_false.mp closed last (List.mem_of_mem_getLast? isLast)
  rwa [Bool.not_eq_true] at other

/-- Blanks stop a text that leaves no comment open. -/
theorem stops_of_isBlank (avoid : vocabulary.OperatorsAvoid isBlank)
    (closed : ∀ last ∈ (segments vocabulary chars).getLast?, last.isUnclosed = false)
    (notEmpty : next ≠ []) (blank : ∀ char ∈ next.head?, isBlank char = true) :
    Stops vocabulary chars next where
  ne_nil := notEmpty
  ends last isLast notBlanks char isNext :=
    goesOn_eq_false_of_isBlank avoid notBlanks (closed last isLast) (blank char isNext)

/-- A mark stops a text that leaves no comment open and does not end with a
mark. -/
theorem stops_of_mark (avoid : vocabulary.OperatorsAvoid (· == mark))
    (closed : ∀ last ∈ (segments vocabulary chars).getLast?, last.isUnclosed = false)
    (noMark : mark ∉ chars.getLast?) (marked : mark ∈ next.head?) :
    Stops vocabulary chars next where
  ne_nil := by
    rintro rfl
    contradiction
  ends last isLast _ char isNext := by
    obtain rfl : mark = char := Option.some_inj.mp (marked.symm.trans isNext)
    apply goesOn_mark_eq_false avoid
    rintro opening body closing rfl
    rcases List.getLast?_eq_some_iff.mp isLast with ⟨earlier, divided⟩
    have closes : closing ≠ 0 := by simpa [isUnclosed] using closed _ isLast
    apply noMark
    rw [getLast?_eq_of_divided divided, text,
      List.getLast?_append_of_ne_nil _ (by simpa using closes), List.getLast?_replicate,
      if_neg closes]
    rfl

/-! ## Comments that are not closed -/

/-- A comment that is not closed takes in what follows without a mark. -/
theorem segments_append_unclosed {opening : Nat} {body : List Char}
    (divided : segments vocabulary chars = earlier ++ [comment opening body 0])
    (uncut : ∀ earlier char second, ¬ EndsInPair vocabulary chars earlier char second)
    (noMark : mark ∉ next) :
    segments vocabulary (chars ++ next) = earlier ++ [comment opening (body ++ next) 0] := by
  rw [segments_append_of_last divided uncut]
  cases begins_last divided with
  | comment notOperator positive _ bodied =>
      have bodyNoMark : mark ∉ body := fun found => by
        simpa using bodied.all_accepted mark found
      have longer : Begins vocabulary (comment opening (body ++ next) (min opening 0))
          (List.replicate (0 - opening) mark ++ []) :=
        begins_comment notOperator positive (by simp [bodyNoMark, noMark]) (fun _ => rfl)
          (fun _ => rfl) (by simp)
      rw [Nat.min_zero, Nat.zero_sub, List.replicate_zero, List.append_nil] at longer
      have alone := longer.segments_eq
      rw [List.append_nil] at alone
      have whole : (comment opening body 0).text ++ next =
          (comment opening (body ++ next) 0).text := by
        simp only [text, List.replicate_zero, List.append_nil, List.append_assoc]
      rw [whole, alone, segments]

end Lexis.Segment
