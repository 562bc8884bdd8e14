import Lexis.Proofs.Scan.Comments
import Lexis.Proofs.Segmentation.Blanks

/-!
# Sources with blanks between them

Where no operator contains a blank, a source may be scanned in parts that end
with blanks, as long as no part leaves a comment open: the scan of the whole
is the scans of the parts, one behind the other (`ofSource_append_blanks`).
-/

namespace Lexis.Scan

open Text Segment

variable {vocabulary : Vocabulary}

/-- Texts that are read apart are scanned apart: the journal is that of the
first one and then that of the other, further on. -/
theorem toList_journal_ofSource_append {front behind : String}
    (apart : ReadApart vocabulary front.toList behind.toList) :
    (ofSource vocabulary (front ++ behind)).journal.toList =
      (ofSource vocabulary front).journal.toList ++
        (ofSource vocabulary behind).journal.toList.map (Event.shift front.utf8ByteSize) := by
  rw [toList_journal_ofSource, String.toList_append, apart, Nat.zero_add, byteSize_toList,
    ← toList_journal_ofSource, events_segments_toList]

/-- Where no operator contains a blank, blanks part a source: if the text
before them leaves no comment open, the tokens are those of this text with the
blanks and then those of the text behind them, and so are the warnings and the
whole journal, further on by the offset of that text. -/
theorem ofSource_append_blanks (vocabulary : Vocabulary) (front blanks behind : String)
    (avoid : vocabulary.OperatorsAvoid isBlank)
    (closed : (ofSource vocabulary front).endsInComment = false)
    (notEmpty : blanks ≠ "") (allBlank : ∀ char ∈ blanks.toList, isBlank char = true) :
    let whole := ofSource vocabulary (front ++ blanks ++ behind)
    let first := ofSource vocabulary (front ++ blanks)
    let second := ofSource vocabulary behind
    let offset := (front ++ blanks).utf8ByteSize
    whole.tokens = first.tokens ++ second.tokens ∧
      whole.warnings = first.warnings ++ second.warnings.map (Warning.shift offset) ∧
      whole.journal.toList =
        first.journal.toList ++ second.journal.toList.map (Event.shift offset) := by
  intro whole first second offset
  rw [endsInComment_ofSource] at closed
  have apart : ReadApart vocabulary (front ++ blanks).toList behind.toList := by
    rw [String.toList_append]
    apply readApart_append_blanks avoid (segmentation_segments ..) closed _ allBlank
    rwa [Ne, String.toList_eq_nil_iff]
  have journal : whole.journal.toList =
      first.journal.toList ++ second.journal.toList.map (Event.shift offset) :=
    toList_journal_ofSource_append apart
  refine ⟨?_, ?_, journal⟩
  · rw [tokens, journal, List.filterMap_append, Event.filterMap_token?_map_shift]
    rfl
  · rw [warnings, journal, List.filterMap_append, Event.filterMap_warning?_map_shift]
    rfl

/-- A comment that fewer marks close than opened ends before the blanks, and
the pair that ends the first text stays whole before them.  The pair that ends
the second text is two operators. -/
theorem ofSource_append_blanks_pair :
    let vocabulary := Vocabulary.arithmetic.registerAll [.operator "<", .operator "<="]
    vocabulary.OperatorsAvoid isBlank ∧
      (ofSource vocabulary "1##é#?<=").endsInComment = false ∧
      (ofSource vocabulary ("1##é#?<=" ++ "\t\n" ++ " ?b<=")).tokens =
        [.number "1", .symbol "<=", .identifier "b", .symbol "<", .symbol "="] ∧
      (ofSource vocabulary ("1##é#?<=" ++ "\t\n" ++ " ?b<=")).warnings = [⟨6, '?'⟩, ⟨12, '?'⟩] := by
  intro vocabulary
  have avoid : vocabulary.OperatorsAvoid isBlank := by
    have only : ∀ spelling, vocabulary.hasOperator spelling = true →
        spelling ∈ ["<", "<=", "=", "+", "-", "*", "/", "(", ")", ";"] := by
      intro spelling registered
      have entered := (Vocabulary.has_registerAll_iff _ (.operator spelling)).mp registered
      simpa [Vocabulary.Has, Vocabulary.hasOperator_arithmetic, or_assoc] using entered
    exact Vocabulary.operatorsAvoid_of_all only (by decide)
  have closed : (ofSource vocabulary "1##é#?<=").endsInComment = false := by decide +kernel
  rcases ofSource_append_blanks vocabulary "1##é#?<=" "\t\n" " ?b<=" avoid closed (by decide)
    (List.all_eq_true.mp rfl) with ⟨tokens, warnings, -⟩
  refine ⟨avoid, closed, tokens.trans ?_, warnings.trans ?_⟩
  · decide +kernel
  · decide +kernel

end Lexis.Scan
