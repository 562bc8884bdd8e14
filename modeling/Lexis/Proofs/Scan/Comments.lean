import Lexis.Proofs.Scan.Parts
import Lexis.Proofs.Segmentation.Comments

/-!
# Scans of commented text

Where marks are nothing but comment marks and operators are read one character
at a time, a scan of a source is the scans of the stretches that lie outside
comments, and nothing else (`ofSource_stretches`).  Whether the source ends
inside a comment is decided by its runs of marks as well.
-/

namespace Lexis

open Text Segment

/-! ## Comments that are not closed -/

namespace Event

/-- Whether the comment that begins at a place is not closed: no mark follows
its body, which runs to the end of the source. -/
def unclosedAt (place : Place) : Bool :=
  ((place.skipRun commentMark none).skipTo commentMark).atEnd

/-- Whether an event is a comment of a source that is not closed. -/
def isUnclosed (source : String) : Event → Bool
  | comment start _ => unclosedAt ⟨source, start⟩
  | _ => false

variable {vocabulary : Vocabulary} {place : Place} {before rest body : List Char}
  {opening closing : Nat}

/-- A comment is not closed exactly when it has no closing mark. -/
theorem unclosedAt_eq
    (splits : place.Splits before ((Segment.comment opening body closing).text ++ rest))
    (begins : Begins vocabulary (Segment.comment opening body closing) rest) :
    unclosedAt place = (closing == 0) := by
  have nothing : List.replicate closing mark ++ rest = [] ↔ closing = 0 := by
    rw [List.append_eq_nil_iff, List.replicate_eq_nil_iff]
    refine ⟨And.left, fun none => ⟨none, ?_⟩⟩
    subst none
    exact begins.eq_nil_of_isUnclosed rfl
  cases begins with
  | comment _ positive opened bodied _ all =>
      rw [text, List.append_assoc, List.append_assoc, ← List.append_assoc body] at splits
      have behind := (splits.skipRun_none mark_ascii).skipTo mark_ascii
      rw [opened.dropWhile_append, List.append_assoc body, bodied.dropWhile_append] at behind
      have markByte : commentMark = UInt8.ofNat mark.toNat := rfl
      rw [unclosedAt, markByte, Place.atEnd, behind.size_eq, Bool.eq_iff_iff, decide_eq_true_iff,
        beq_iff_eq, ← nothing, ← byteSize_eq_zero_iff]
      omega

/-- The unclosed comments of a source are those of its segments. -/
theorem any_isUnclosed_events {found : List Segment}
    (segmented : Segmentation vocabulary rest found) (source : String) (before : List Char)
    (whole : source = String.ofList (before ++ rest)) :
    (Segment.events vocabulary (byteSize before) found).any (isUnclosed source) =
      found.any Segment.isUnclosed := by
  induction segmented generalizing before with
  | nil => rfl
  | @cons segment after later begins _ inductionHypothesis =>
      have behind : byteSize before + segment.size = byteSize (before ++ segment.text) :=
        (byteSize_append _ _).symm
      have splits : Place.Splits ⟨source, byteSize before⟩ before (segment.text ++ after) :=
        ⟨whole, rfl⟩
      rw [← List.append_assoc] at whole
      rw [Segment.events, List.any_append, List.any_cons, behind, inductionHypothesis _ whole]
      congr 1
      cases segment with
      | comment opening body closing =>
          rw [event?, Option.toList_some, List.any_cons, List.any_nil, Bool.or_false]
          exact unclosedAt_eq splits begins
      | _ => rfl

end Event

namespace Scan

/-- Whether a scan has met a comment that is not closed.  Only the end of the
source is behind such a comment. -/
def endsInComment (scan : Scan) : Bool :=
  scan.journal.toList.any (Event.isUnclosed scan.source)

theorem endsInComment_ofSource (vocabulary : Vocabulary) (source : String) :
    (ofSource vocabulary source).endsInComment =
      (segments vocabulary source.toList).any Segment.isUnclosed := by
  have sameSource : (ofSource vocabulary source).source = source := by
    rw [Scan.source, place_ofSource]
  have segmented := segmentation_segments vocabulary source.toList
  rw [endsInComment, toList_journal_ofSource, sameSource]
  exact Event.any_isUnclosed_events segmented source [] (by simp)

/-! ## Sources in pieces -/

/-- Where no operator contains a mark or is two bytes long, the runs of marks
of a source alone decide what is commented out.  The tokens of the source are
those of the stretches that are entered outside comments, each scanned alone,
and so are its warnings, further on by the offset of the stretch.  The scan
ends in a comment that is not closed exactly when the last run of marks leads,
after all others, inside. -/
theorem ofSource_stretches (vocabulary : Vocabulary) (source : String)
    (spared : vocabulary.OperatorsAvoid (· == mark)) (unpaired : vocabulary.Unpaired) :
    let pieces := pieces source.toList
    let stretches := Side.outside.stretches 0 pieces
    let scan := ofSource vocabulary source
    pieces.flatten = source.toList ∧ Alternating pieces ∧
    scan.tokens = stretches.flatMap (fun (_, stretch) =>
      (ofSource vocabulary (String.ofList stretch)).tokens) ∧
    scan.warnings = stretches.flatMap (fun (offset, stretch) =>
      (ofSource vocabulary (String.ofList stretch)).warnings.map (Warning.shift offset)) ∧
    (scan.endsInComment = true ↔ ∃ width, Side.outside.pastAll pieces = .inside width) := by
  intro pieces stretches scan
  have whole : pieces.flatten = source.toList := List.flatten_splitBy _ _
  have alternating : Alternating pieces := alternating_pieces source.toList
  have notOperator : isOperator vocabulary [mark] = false :=
    spared.isOperator_eq_false List.mem_cons_self rfl
  have read {α : Type} {see : Event → Option α}
      (unseen : ∀ start stop, see (.comment start stop) = none) :
      ReadsAs vocabulary see .outside [] pieces :=
    readsAs_pieces unseen unpaired notOperator alternating .outside
  simp only [ReadsAs, List.nil_append, whole, byteSize_nil, Nat.add_zero] at read
  refine ⟨whole, alternating, ?_, ?_, ?_⟩
  · rw [tokens, toList_journal_ofSource, (read fun _ _ => rfl).1]
    exact congrArg (List.flatMap · _) (funext fun _ => filterMap_token?_events ..)
  · rw [warnings, toList_journal_ofSource, (read fun _ _ => rfl).1]
    exact congrArg (List.flatMap · _) (funext fun _ => filterMap_warning?_events ..)
  · have ends : (segments vocabulary source.toList).any Segment.isUnclosed = _ :=
      (@read Token Event.token? fun _ _ => rfl).2
    rw [endsInComment_ofSource, ends]
    cases Side.outside.pastAll pieces <;> simp [Side.isInside]

/-- Two marks close the first comment and open another one, which one mark
closes; the last comment stays open. -/
theorem ofSource_stretches_surplus :
    Vocabulary.arithmetic.OperatorsAvoid (· == mark) ∧ Vocabulary.arithmetic.Unpaired ∧
    (ofSource .arithmetic "1#b##c#2?##é").tokens = [.number "1", .number "2"] ∧
    (ofSource .arithmetic "1#b##c#2?##é").warnings = [⟨8, '?'⟩] ∧
    (ofSource .arithmetic "1#b##c#2?##é").endsInComment = true := by
  rcases ofSource_stretches .arithmetic "1#b##c#2?##é"
    Vocabulary.operatorsAvoid_mark_arithmetic Vocabulary.unpaired_arithmetic with
    ⟨-, -, tokens, warnings, ends⟩
  have outside : Side.outside.stretches 0 (pieces "1#b##c#2?##é".toList) =
      [(0, ['1']), (7, ['2', '?'])] := by decide
  have last : Side.outside.pastAll (pieces "1#b##c#2?##é".toList) = .inside 2 := by decide
  rw [outside] at tokens warnings
  refine ⟨Vocabulary.operatorsAvoid_mark_arithmetic, Vocabulary.unpaired_arithmetic,
    tokens.trans ?_, warnings.trans ?_, ends.mpr ⟨2, last⟩⟩
  · decide +kernel
  · decide +kernel

end Scan

end Lexis
