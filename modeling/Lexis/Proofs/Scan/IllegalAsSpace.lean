import Lexis.Proofs.Scan.Continuing
import Lexis.Proofs.Segmentation.Blanking

/-!
# Spaces in place of illegal characters

Where no operator contains a blank, an illegal character parts a source just as
a space does, however many bytes it has.  When each character that a scan warns
of gives way to a space, a scan finds the same tokens and nothing to warn of
(`ofSource_blankOut`).
-/

namespace Lexis

open Text Segment

/-! ## Giving way to spaces -/

/-- Characters that begin at an offset, with a space in place of each one that
is recorded at the offset at which it stands. -/
def Warning.blankOut (recorded : List Warning) (offset : Nat) : List Char → List Char
  | [] => []
  | char :: rest =>
      (if ⟨offset, char⟩ ∈ recorded then ' ' else char) ::
        blankOut recorded (offset + char.utf8Size) rest

/-- A source with a space in place of each recorded character. -/
def Scan.blankOut (recorded : List Warning) (source : String) : String :=
  String.ofList (Warning.blankOut recorded 0 source.toList)

namespace Warning

variable {recorded : List Warning} {offset : Nat} {chars : List Char}

theorem blankOut_append (recorded : List Warning) (offset : Nat) (front behind : List Char) :
    blankOut recorded offset (front ++ behind) =
      blankOut recorded offset front ++ blankOut recorded (offset + byteSize front) behind := by
  induction front generalizing offset with
  | nil => rfl
  | cons char rest inductionHypothesis =>
      rw [List.cons_append, blankOut, blankOut, inductionHypothesis, byteSize_cons, Nat.add_assoc,
        List.cons_append]

theorem blankOut_eq_self (spared : ∀ warning ∈ recorded, offset ≤ warning.position →
    offset + byteSize chars ≤ warning.position) : blankOut recorded offset chars = chars := by
  induction chars generalizing offset with
  | nil => rfl
  | cons char rest inductionHypothesis =>
      have positive := char.utf8Size_pos
      rw [byteSize_cons] at spared
      have kept : ⟨offset, char⟩ ∉ recorded := by
        intro met
        have beyond : offset + (char.utf8Size + byteSize rest) ≤ offset :=
          spared _ met (Nat.le_refl offset)
        omega
      rw [blankOut, if_neg kept, inductionHypothesis]
      intro warning met behind
      have beyond := spared warning met (by omega)
      omega

end Warning

namespace Segment

variable {vocabulary : Vocabulary} {recorded : List Warning} {start : Nat} {found : List Segment}

/-- A warning of segments is that of the first one, if this is illegal, or one
of the later ones. -/
theorem mem_warnings_cons {warning : Warning} {segment : Segment} {later : List Segment} :
    warning ∈ (events vocabulary start (segment :: later)).filterMap Event.warning? ↔
      warning.position = start ∧ segment = illegal warning.character ∨
        warning ∈ (events vocabulary (start + segment.size) later).filterMap Event.warning? := by
  rw [events, List.filterMap_append, List.mem_append]
  refine or_congr_left ?_
  cases segment with
  | illegal char =>
      rcases warning with ⟨position, character⟩
      simp [event?, Event.warning?, eq_comm]
  | _ => simp [event?, Event.warning?]

/-- The warnings of segments tell which characters of their text are illegal. -/
theorem blankOut_flatMap_text
    (agree : ∀ warning : Warning, start ≤ warning.position → (warning ∈ recorded ↔
      warning ∈ (events vocabulary start found).filterMap Event.warning?)) :
    Warning.blankOut recorded start (found.flatMap text) = (found.map blanked).flatMap text := by
  induction found generalizing start with
  | nil => rfl
  | cons segment later inductionHypothesis =>
      have agreeLater : ∀ warning : Warning, start + segment.size ≤ warning.position →
          (warning ∈ recorded ↔ warning ∈
            (events vocabulary (start + segment.size) later).filterMap Event.warning?) := by
        intro warning behind
        rw [agree warning (by omega), mem_warnings_cons, or_iff_right]
        rintro ⟨here, rfl⟩
        have positive := size_illegal_pos warning.character
        omega
      have here : Warning.blankOut recorded start segment.text = segment.blanked.text := by
        cases segment with
        | illegal char =>
            have met : ⟨start, char⟩ ∈ recorded :=
              (agree ⟨start, char⟩ (Nat.le_refl start)).mpr
                (mem_warnings_cons.mpr (.inl ⟨rfl, rfl⟩))
            rw [text, Warning.blankOut, if_pos met]
            rfl
        | _ =>
            refine Warning.blankOut_eq_self fun warning met behind => ?_
            rcases mem_warnings_cons.mp ((agree warning behind).mp met) with ⟨-, other⟩ | metLater
            · contradiction
            · exact le_position_of_mem_events metLater
      rw [List.flatMap_cons, List.map_cons, List.flatMap_cons, Warning.blankOut_append, here]
      exact congrArg _ (inductionHypothesis agreeLater)

end Segment

namespace Scan

variable {vocabulary : Vocabulary}

/-- A source with a space in place of each illegal character has the events of
its segments with blanks in place of the illegal ones. -/
theorem toList_journal_blankOut (avoid : vocabulary.OperatorsAvoid isBlank) (source : String) :
    (ofSource vocabulary (blankOut (ofSource vocabulary source).warnings source)).journal.toList =
      events vocabulary 0 ((segments vocabulary source.toList).map blanked) := by
  have segmented := segmentation_segments vocabulary source.toList
  have text : Warning.blankOut (ofSource vocabulary source).warnings 0 source.toList =
      ((segments vocabulary source.toList).map blanked).flatMap Segment.text := by
    conv => lhs; rw [← segmented.flatMap_text]
    apply blankOut_flatMap_text
    intro warning _
    rw [warnings, toList_journal_ofSource]
  rw [toList_journal_ofSource, blankOut, String.toList_ofList, text,
    events_map_blanked avoid segmented]

/-- Where no operator contains a blank, each character that a scan warns of may
give way to a space: the tokens are the same, and there is nothing left to warn
of. -/
theorem ofSource_blankOut (vocabulary : Vocabulary) (source : String)
    (avoid : vocabulary.OperatorsAvoid isBlank) :
    let scan := ofSource vocabulary source
    let blanked := ofSource vocabulary (blankOut scan.warnings source)
    blanked.tokens = scan.tokens ∧ blanked.warnings = [] := by
  intro scan blanked
  have journal : blanked.journal.toList = _ := toList_journal_blankOut avoid source
  constructor
  · rw [tokens, tokens, journal, toList_journal_ofSource]
    exact filterMap_token?_events_blanked vocabulary 0 0 _
  · rw [warnings, journal]
    exact filterMap_warning?_events_blanked vocabulary 0 _

/-- A character that is illegal alone stays where it is the second one of a pair
or inside a comment. -/
theorem ofSource_blankOut_mark :
    let vocabulary := Vocabulary.arithmetic.registerAll [.operator "<", .operator "<?"]
    vocabulary.OperatorsAvoid isBlank ∧
      blankOut (ofSource vocabulary "1é<?€2?#?é#<?").warnings "1é<?€2?#?é#<?" = "1 <? 2 #?é#< " ∧
      (ofSource vocabulary "1 <? 2 #?é#< ").tokens =
        [.number "1", .symbol "<?", .number "2", .symbol "<"] ∧
      (ofSource vocabulary "1 <? 2 #?é#< ").warnings = [] := by
  intro vocabulary
  have avoid : vocabulary.OperatorsAvoid isBlank :=
    (Vocabulary.operatorsAvoid_arithmetic (by decide)).registerAll (by simp [isBlank])
  have spaces : blankOut (ofSource vocabulary "1é<?€2?#?é#<?").warnings "1é<?€2?#?é#<?" =
      "1 <? 2 #?é#< " := by decide +kernel
  rcases ofSource_blankOut vocabulary "1é<?€2?#?é#<?" avoid with ⟨tokens, warnings⟩
  rw [spaces] at tokens warnings
  refine ⟨avoid, spaces, tokens.trans ?_, warnings⟩
  decide +kernel

end Scan

end Lexis
