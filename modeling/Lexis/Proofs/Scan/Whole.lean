import Lexis.Proofs.Scan.Ahead

/-!
# Whole scans

Scanning a source from its beginning until no token is handed out is the same
as cutting its characters into segments: the rules allow one segmentation, and
the tokens, the journal and the end of the scan are read off it
(`ofSource_segmentation`).
-/

namespace Lexis

open Text

/-- Whatever the kind of a word is, its lexeme is the word. -/
theorem Vocabulary.lexeme_word (vocabulary : Vocabulary) (lexeme : String) :
    (vocabulary.word lexeme).lexeme = lexeme := by
  unfold word
  split <;> rfl

/-! ## Where the events of segments lie -/

namespace Segment

/-- An event belongs to a segment, and lies behind all earlier segments. -/
theorem exists_segment_of_mem_events {vocabulary : Vocabulary} {start : Nat}
    {segments : List Segment} {event : Event} (met : event ∈ events vocabulary start segments) :
    ∃ earlier segment later, segments = earlier ++ segment :: later ∧
      segment.event? vocabulary (start + byteSize (earlier.flatMap text))
        (start + byteSize (earlier.flatMap text) + segment.size) = some event := by
  induction segments generalizing start with
  | nil => contradiction
  | cons segment later inductionHypothesis =>
      rcases List.mem_append.mp met with here | behind
      · exact ⟨[], segment, later, rfl, Option.mem_toList.mp here⟩
      · rcases inductionHypothesis behind with ⟨earlier, found, others, rfl, lies⟩
        refine ⟨segment :: earlier, found, others, rfl, ?_⟩
        rw [List.flatMap_cons, byteSize_append, ← Nat.add_assoc]
        exact lies

end Segment

namespace Event

/-- The event tells the truth about some characters: a lexeme ends at the
offset behind it, a comment lies between its two offsets, and an illegal
character begins at its offset. -/
def Reports (chars : List Char) : Event → Prop
  | token found stop => ∃ before after,
      chars = before ++ found.lexeme.toList ++ after ∧
        stop = byteSize (before ++ found.lexeme.toList)
  | comment start stop => ∃ before inside after,
      chars = before ++ inside ++ after ∧ start = byteSize before ∧
        stop = byteSize (before ++ inside)
  | illegal warning => ∃ before after,
      chars = before ++ warning.character :: after ∧ warning.position = byteSize before

/-- The event of a segment tells the truth about the text around it. -/
theorem reports_of_event? {vocabulary : Vocabulary} {segment : Segment} {event : Event}
    {before after : List Char}
    (found : segment.event? vocabulary (byteSize before) (byteSize before + segment.size) =
      some event) :
    event.Reports (before ++ segment.text ++ after) := by
  have behind : byteSize before + segment.size = byteSize (before ++ segment.text) :=
    (byteSize_append _ _).symm
  rw [behind] at found
  cases segment with
  | blanks => contradiction
  | comment =>
      obtain rfl := Option.some_inj.mp found
      exact ⟨before, _, after, rfl, rfl, rfl⟩
  | illegal char =>
      obtain rfl := Option.some_inj.mp found
      exact ⟨before, after, List.append_assoc .., rfl⟩
  | word letters =>
      rw [Segment.event?_word] at found
      obtain rfl := Option.some_inj.mp found
      refine ⟨before, after, ?_⟩
      rw [Vocabulary.lexeme_word, String.toList_ofList]
      exact ⟨rfl, rfl⟩
  | _ =>
      obtain rfl := Option.some_inj.mp found
      refine ⟨before, after, ?_⟩
      simp only [Token.number, Token.symbol, String.toList_ofList]
      exact ⟨rfl, rfl⟩

end Event

namespace Scan

/-! ## The scan of a source -/

/-- A scan of a source comes to the end of that source, and stays there. -/
theorem next_finish {scan : Scan} {events : List Event} (ahead : scan.Ahead events) :
    scan.finish.next = (none, scan.finish) := by
  have place : scan.finish.place = scan.toEnd.place := by rw [finish_of_ahead ahead]
  have nothing := pass_of_ahead_nil (ahead_of_place place)
  rw [next_of_pass_none nothing, toEnd_eq_self place]

/-- The scan of a source reads off the only segmentation of its characters:
the tokens that are handed out with the offsets behind them, the warnings, the
whole journal, and that it ends at the end of the source for good. -/
theorem ofSource_segmentation (vocabulary : Vocabulary) (source : String) :
    ∃ segments,
      (∀ found, Segment.Segmentation vocabulary source.toList found ↔ found = segments) ∧
      segments.flatMap Segment.text = source.toList ∧
      (start vocabulary source).handed =
        (Segment.events vocabulary 0 segments).filterMap Event.ended? ∧
      (ofSource vocabulary source).warnings =
        (Segment.events vocabulary 0 segments).filterMap Event.warning? ∧
      (ofSource vocabulary source).journal.toList = Segment.events vocabulary 0 segments ∧
      (∀ event ∈ (ofSource vocabulary source).journal, event.Reports source.toList) ∧
      (ofSource vocabulary source).place = ⟨source, source.utf8ByteSize⟩ ∧
      (ofSource vocabulary source).next = (none, ofSource vocabulary source) := by
  have ahead := ahead_start vocabulary source
  have journal : (ofSource vocabulary source).journal.toList =
      Segment.events vocabulary 0 (Segment.segments vocabulary source.toList) := by
    rw [ofSource, finish_of_ahead ahead, Array.toList_appendList]
    rfl
  refine ⟨Segment.segments vocabulary source.toList, fun _ => Segment.segmentation_iff,
    Segment.flatMap_text_segments vocabulary source.toList, handed_of_ahead ahead, ?_, journal,
    ?_, ?_, next_finish ahead⟩
  · rw [warnings, journal]
  · intro event met
    rw [← Array.mem_toList_iff, journal] at met
    rcases Segment.exists_segment_of_mem_events met with ⟨earlier, segment, later, split, lies⟩
    rw [Nat.zero_add] at lies
    have whole := Segment.flatMap_text_segments vocabulary source.toList
    rw [split, List.flatMap_append, List.flatMap_cons, ← List.append_assoc] at whole
    rw [← whole]
    exact Event.reports_of_event? lies
  · rw [ofSource, finish_of_ahead ahead]
    rfl

end Scan

end Lexis
