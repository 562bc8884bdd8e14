import Lexis.Proofs.Scan.Continuing
import Lexis.Proofs.Scan.SplitPair
import Lexis.Proofs.Segmentation.Stopping

/-!
# Blanks at the end of a source

Whether a source ends with blanks makes no difference to its tokens and
warnings, with one exception: the blanks make a pair whole that the end of the
source splits (`Summary.ofSource_trailing_blanks`).
-/

namespace Lexis

open Text Segment

theorem Event.filterMap_ended?_map_shift (distance : Nat) (events : List Event) :
    (events.map (shift distance)).filterMap ended? =
      (events.filterMap ended?).map fun ended => (ended.1, ended.2 + distance) := by
  refine filterMap_map_of_commutes (fun event => ?_) events
  cases event <;> rfl

/-! ## What is seen of a source -/

namespace Segment

variable {vocabulary : Vocabulary} {chars run : List Char} {α : Type} {see : Event → Option α}

/-- Blanks behind a text without a pair at its end change nothing that is seen
of its events, other than comments. -/
theorem filterMap_events_append_blanks (unseen : ∀ start stop, see (.comment start stop) = none)
    (avoid : vocabulary.OperatorsAvoid isBlank)
    (uncut : ∀ earlier char second, ¬ EndsInPair vocabulary chars earlier char second)
    (notEmpty : run ≠ []) (allBlank : ∀ char ∈ run, isBlank char = true) (start : Nat) :
    (events vocabulary start (segments vocabulary (chars ++ run))).filterMap see =
      (events vocabulary start (segments vocabulary chars)).filterMap see := by
  by_cases closed : ∀ last ∈ (segments vocabulary chars).getLast?, last.isUnclosed = false
  · have stops : Stops vocabulary chars run := stops_of_isBlank avoid closed notEmpty
      fun char isNext => allBlank char (List.mem_of_mem_head? isNext)
    rw [stops.events_append uncut, events_blanks vocabulary allBlank, List.append_nil]
  · simp only [not_forall, Bool.not_eq_false] at closed
    rcases closed with ⟨last, isLast, unclosed⟩
    rcases List.getLast?_eq_some_iff.mp isLast with ⟨earlier, divided⟩
    cases last with
    | comment opening body closing =>
        have none : closing = 0 := by simpa [isUnclosed] using unclosed
        subst none
        have noMark : mark ∉ run := fun found => absurd (allBlank mark found) (by decide)
        rw [segments_append_unclosed divided uncut noMark, divided, events_append, events_append,
          List.filterMap_append, List.filterMap_append]
        simp only [events, event?, Option.toList_some, List.append_nil,
          List.filterMap_cons_none (unseen _ _)]
    | _ => simp [isUnclosed] at unclosed

end Segment

namespace Summary

open Scan (SplitPair)

variable {vocabulary : Vocabulary} {source blanks : String} {earlier : List Segment}
  {char second : Char}

/-! ## Without a split pair -/

/-- Without a split pair, blanks at the end change neither the tokens nor the
warnings. -/
theorem ofSource_append_of_not_splitPair (avoid : vocabulary.OperatorsAvoid isBlank)
    (notEmpty : blanks ≠ "") (allBlank : ∀ char ∈ blanks.toList, isBlank char = true)
    (unsplit : ∀ char second, ¬ SplitPair vocabulary source char second) :
    (ofSource vocabulary (source ++ blanks)).ended = (ofSource vocabulary source).ended ∧
      (ofSource vocabulary (source ++ blanks)).warnings =
        (ofSource vocabulary source).warnings := by
  have uncut : ∀ earlier char second,
      ¬ EndsInPair vocabulary source.toList earlier char second :=
    fun earlier char second ends => unsplit char second (Scan.splitPair_iff.mpr ⟨earlier, ends⟩)
  have someBlank : blanks.toList ≠ [] := by rwa [Ne, String.toList_eq_nil_iff]
  simp only [ofSource, Scan.warnings, Scan.toList_journal_ofSource, String.toList_append]
  constructor
  · exact filterMap_events_append_blanks (fun _ _ => rfl) avoid uncut someBlank allBlank 0
  · exact filterMap_events_append_blanks (fun _ _ => rfl) avoid uncut someBlank allBlank 0

/-! ## With a split pair -/

/-- A source with a split pair is read up to the pair, then the first character
of it, and then the other one as if it stood alone. -/
theorem toList_journal_of_endsInPair
    (ends : EndsInPair vocabulary source.toList earlier char second) :
    let pair := byteSize (earlier.flatMap text)
    (Scan.ofSource vocabulary source).journal.toList =
      events vocabulary 0 earlier ++
        .token (.symbol (String.ofList [char])) (pair + 1) ::
          (Scan.ofSource vocabulary (String.ofList [second])).journal.toList.map
            (Event.shift (pair + 1)) := by
  intro pair
  have single : (operator [char]).size = 1 := by
    cases ends.begins with
    | single _ single => exact byteSize_of_ascii (Event.isOperator_eq_true_iff.mp single).1
  rw [Scan.toList_journal_ofSource, ends.segments_eq, events_append, Nat.zero_add, events, single,
    Scan.events_segments]
  rfl

/-- Before blanks the pair is read whole, and it is the last event. -/
theorem toList_journal_append_of_endsInPair
    (ends : EndsInPair vocabulary source.toList earlier char second) (notEmpty : blanks ≠ "")
    (allBlank : ∀ char ∈ blanks.toList, isBlank char = true) :
    let pair := byteSize (earlier.flatMap text)
    (Scan.ofSource vocabulary (source ++ blanks)).journal.toList =
      events vocabulary 0 earlier ++
        [.token (.symbol (String.ofList [char, second])) (pair + 2)] := by
  intro pair
  have someBlank : blanks.toList ≠ [] := by rwa [Ne, String.toList_eq_nil_iff]
  have two : (operator [char, second]).size = 2 :=
    byteSize_of_ascii (Event.isOperator_eq_true_iff.mp ends.isOperator).1
  rw [Scan.toList_journal_ofSource, String.toList_append, ends.events_append someBlank,
    events_blanks vocabulary allBlank, List.append_nil, events_append, Nat.zero_add, events, two]
  rfl

theorem ended_of_endsInPair (ends : EndsInPair vocabulary source.toList earlier char second) :
    let pair := byteSize (earlier.flatMap text)
    (ofSource vocabulary source).ended =
      (events vocabulary 0 earlier).filterMap Event.ended? ++
        (.symbol (String.ofList [char]), pair + 1) ::
          (ofSource vocabulary (String.ofList [second])).ended.map
            (fun ended => (ended.1, ended.2 + (pair + 1))) := by
  intro pair
  simp only [ofSource, toList_journal_of_endsInPair ends, List.filterMap_append,
    List.filterMap_cons, Event.ended?, Event.filterMap_ended?_map_shift, pair]

/-- The tokens that end before the pair are those of the segments before it. -/
theorem filter_ended_of_endsInPair
    (ends : EndsInPair vocabulary source.toList earlier char second) :
    (ofSource vocabulary source).ended.filter (·.2 ≤ byteSize (earlier.flatMap text)) =
      (events vocabulary 0 earlier).filterMap Event.ended? := by
  rw [ended_of_endsInPair ends, List.filter_append, List.filter_eq_self.mpr,
    List.filter_eq_nil_iff.mpr, List.append_nil]
  · intro ended met
    rw [decide_eq_true_iff, Nat.not_le]
    rcases List.mem_cons.mp met with rfl | later
    · exact Nat.lt_succ_self _
    · rcases List.mem_map.mp later with ⟨other, -, rfl⟩
      exact Nat.lt_of_lt_of_le (Nat.lt_succ_self _) (Nat.le_add_left ..)
  · rintro ⟨token, stop⟩ met
    have inside := stop_le_of_mem_events met
    rw [Nat.zero_add] at inside
    exact decide_eq_true inside

theorem warnings_of_endsInPair (ends : EndsInPair vocabulary source.toList earlier char second) :
    let pair := byteSize (earlier.flatMap text)
    (ofSource vocabulary source).warnings =
      (events vocabulary 0 earlier).filterMap Event.warning? ++
        (ofSource vocabulary (String.ofList [second])).warnings.map (Warning.shift (pair + 1)) := by
  intro pair
  simp only [ofSource, Scan.warnings, toList_journal_of_endsInPair ends, List.filterMap_append,
    List.filterMap_cons, Event.warning?, Event.filterMap_warning?_map_shift, pair]

/-- The warnings before the pair are those of the segments before it. -/
theorem filter_warnings_of_endsInPair
    (ends : EndsInPair vocabulary source.toList earlier char second) :
    (ofSource vocabulary source).warnings.filter
        (·.position < byteSize (earlier.flatMap text)) =
      (events vocabulary 0 earlier).filterMap Event.warning? := by
  rw [warnings_of_endsInPair ends, filter_warnings_append_shift _ (Nat.le_succ _)]
  intro warning met
  have inside := position_lt_of_mem_events met
  rwa [Nat.zero_add] at inside

/-- With a split pair, blanks at the end make the pair whole.  Up to the pair
nothing changes, and without the blanks its second character is scanned as if
it stood alone. -/
theorem ofSource_append_of_splitPair (notEmpty : blanks ≠ "")
    (allBlank : ∀ char ∈ blanks.toList, isBlank char = true)
    (split : SplitPair vocabulary source char second) :
    let short := ofSource vocabulary source
    let long := ofSource vocabulary (source ++ blanks)
    let last := ofSource vocabulary (String.ofList [second])
    let pair := source.utf8ByteSize - 2
    let before := short.ended.filter (·.2 ≤ pair)
    long.ended = before ++ [(.symbol (String.ofList [char, second]), pair + 2)] ∧
      short.ended = before ++ (.symbol (String.ofList [char]), pair + 1) ::
        last.ended.map (fun ended => (ended.1, ended.2 + (pair + 1))) ∧
      long.warnings = short.warnings.filter (·.position < pair) ∧
      short.warnings = long.warnings ++ last.warnings.map (Warning.shift (pair + 1)) := by
  rcases Scan.splitPair_iff.mp split with ⟨earlier, ends⟩
  have size := Scan.utf8ByteSize_of_pair ends.isOperator ends.flatMap_text
  have longEvents := toList_journal_append_of_endsInPair ends notEmpty allBlank
  have longEnded : (ofSource vocabulary (source ++ blanks)).ended =
      (events vocabulary 0 earlier).filterMap Event.ended? ++
        [(.symbol (String.ofList [char, second]), byteSize (earlier.flatMap text) + 2)] := by
    simp only [ofSource, longEvents, List.filterMap_append, List.filterMap_cons, Event.ended?,
      List.filterMap_nil]
  have longWarnings : (ofSource vocabulary (source ++ blanks)).warnings =
      (events vocabulary 0 earlier).filterMap Event.warning? := by
    simp only [ofSource, Scan.warnings, longEvents, List.filterMap_append, List.filterMap_cons,
      Event.warning?, List.filterMap_nil, List.append_nil]
  intro short long last pair before
  have pairEq : pair = byteSize (earlier.flatMap text) := by
    simp only [pair, size, Nat.add_sub_cancel]
  have beforeEq : before = (events vocabulary 0 earlier).filterMap Event.ended? := by
    simp only [before, pairEq]
    exact filter_ended_of_endsInPair ends
  rw [beforeEq, pairEq]
  exact ⟨longEnded, ended_of_endsInPair ends,
    longWarnings.trans (filter_warnings_of_endsInPair ends).symm,
    (warnings_of_endsInPair ends).trans (congrArg (· ++ _) longWarnings.symm)⟩

/-! ## Any source -/

/-- Where no operator contains a blank, blanks at the end of a source change
neither its tokens nor its warnings, unless it has a split pair.  Then the
tokens that end before the pair stay, the pair follows them as one operator,
and nothing is behind it; without the blanks the first character of the pair
follows as an operator alone, and then what the second one is on its own.  The
warnings before the pair stay, and there are no others. -/
theorem ofSource_trailing_blanks (vocabulary : Vocabulary) (source blanks : String)
    (avoid : vocabulary.OperatorsAvoid isBlank) (notEmpty : blanks ≠ "")
    (allBlank : ∀ char ∈ blanks.toList, isBlank char = true) :
    let short := ofSource vocabulary source
    let long := ofSource vocabulary (source ++ blanks)
    ((∀ char second, ¬ SplitPair vocabulary source char second) →
      long.ended = short.ended ∧ long.warnings = short.warnings) ∧
    ∀ char second, SplitPair vocabulary source char second →
      let last := ofSource vocabulary (String.ofList [second])
      let pair := source.utf8ByteSize - 2
      let before := short.ended.filter (·.2 ≤ pair)
      long.ended = before ++ [(.symbol (String.ofList [char, second]), pair + 2)] ∧
        short.ended = before ++ (.symbol (String.ofList [char]), pair + 1) ::
          last.ended.map (fun ended => (ended.1, ended.2 + (pair + 1))) ∧
        long.warnings = short.warnings.filter (·.position < pair) ∧
        short.warnings = long.warnings ++ last.warnings.map (Warning.shift (pair + 1)) := by
  intro short long
  constructor
  · exact ofSource_append_of_not_splitPair avoid notEmpty allBlank
  · intro char second split
    exact ofSource_append_of_splitPair notEmpty allBlank split

/-- A mark that opens a comment at the end of a source is the second half of a
pair before blanks, and in a comment that is not closed there is no pair. -/
theorem ofSource_trailing_blanks_mark :
    let vocabulary := Vocabulary.arithmetic.registerAll [.operator "<", .operator "<#"]
    vocabulary.OperatorsAvoid isBlank ∧
      SplitPair vocabulary "1?<#" '<' '#' ∧
      (ofSource vocabulary "1?<#").ended = [(.number "1", 1), (.symbol "<", 3)] ∧
      (ofSource vocabulary ("1?<#" ++ "\n\t")).ended = [(.number "1", 1), (.symbol "<#", 4)] ∧
      (ofSource vocabulary ("1?<#" ++ "\n\t")).warnings = [⟨1, '?'⟩] ∧
      (∀ char second, ¬ SplitPair vocabulary "1#<" char second) ∧
      (ofSource vocabulary ("1#<" ++ " ")).ended = [(.number "1", 1)] := by
  intro vocabulary
  have avoid : vocabulary.OperatorsAvoid isBlank :=
    (Vocabulary.operatorsAvoid_arithmetic (by decide)).registerAll (by simp [isBlank])
  have split : SplitPair vocabulary "1?<#" '<' '#' := by
    have divided : segments vocabulary "1?<#".toList =
        [.number ['1'], .illegal '?'] ++ .operator ['<'] :: segments vocabulary ['#'] := by
      decide +kernel
    exact Scan.splitPair_of_endsInPair ⟨divided, by decide +kernel⟩
  have unsplit : ∀ char second, ¬ SplitPair vocabulary "1#<" char second := by
    intro char second other
    have last : [char, second] = ['#', '<'] := List.suffix_iff_eq_drop.mp other.ends
    have registered := other.isOperator
    rw [last] at registered
    exact absurd registered (by decide +kernel)
  rcases (ofSource_trailing_blanks vocabulary "1?<#" "\n\t" avoid (by decide)
    (List.all_eq_true.mp rfl)).2 '<' '#' split with ⟨long, short, warnings, -⟩
  rcases (ofSource_trailing_blanks vocabulary "1#<" " " avoid (by decide)
    (List.all_eq_true.mp rfl)).1 unsplit with ⟨same, -⟩
  refine ⟨avoid, split, short.trans ?_, long.trans ?_, warnings.trans ?_, unsplit, same.trans ?_⟩
  · decide +kernel
  · decide +kernel
  · decide +kernel
  · decide +kernel

/-- A mark that closes a comment is not read as part of a pair, so the pair is
not split. -/
example :
    let vocabulary := Vocabulary.arithmetic.registerAll [.operator "<", .operator "<#"]
    (ofSource vocabulary "1##<#").ended = [(.number "1", 1)] ∧
      (ofSource vocabulary ("1##<#" ++ "\n")).ended = [(.number "1", 1)] := by
  decide +kernel

end Summary

end Lexis
