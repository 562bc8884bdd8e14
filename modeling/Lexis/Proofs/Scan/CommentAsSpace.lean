import Lexis.Proofs.Scan.Comments
import Lexis.Proofs.Scan.Continuing
import Lexis.Proofs.Segmentation.Stopping

/-!
# Comments in place of a space

Where no operator contains a mark or a blank, a comment parts a source just as
a space does: a scan finds the same tokens and the same warnings around it, and
nothing inside it (`ofSource_comment`).  An operator pair before it is decided
alike, for both of them stop the text there.
-/

namespace Lexis

open Text Segment

namespace Segment

variable {vocabulary : Vocabulary} {front body rest : List Char} {opening closing : Nat}

/-- Marks around a body without marks are one comment.  A mark may follow it
only if all the marks that opened it are closed. -/
theorem begins_comment_of_closed (notOperator : isOperator vocabulary [mark] = false)
    (notEmpty : body ≠ []) (noMark : mark ∉ body) (closes : 0 < closing)
    (atMost : closing ≤ opening) (all : mark ∈ rest.head? → closing = opening) :
    Begins vocabulary (comment opening body closing) rest := by
  apply begins_comment_of_body notOperator (Nat.lt_of_lt_of_le closes atMost) noMark atMost
  · intro char next
    obtain ⟨less, rfl⟩ := Nat.exists_eq_succ_of_ne_zero (Nat.ne_of_gt closes)
    exact ⟨(Option.some_inj.mp next).symm, notEmpty⟩
  · intro short next
    exact absurd (all next) (Nat.ne_of_lt short)

/-- A comment has one event, and what is behind it has its own events. -/
theorem Begins.events_comment
    (begins : Begins vocabulary (Segment.comment opening body closing) rest) (start : Nat) :
    events vocabulary start
        (segments vocabulary ((Segment.comment opening body closing).text ++ rest)) =
      .comment start (start + byteSize (Segment.comment opening body closing).text) ::
        events vocabulary (start + byteSize (Segment.comment opening body closing).text)
          (segments vocabulary rest) := by
  rw [begins.segments_eq, events]
  rfl

/-- A comment stops a text that leaves no comment open and does not end with a
mark. -/
theorem Begins.stops_of_comment
    (begins : Begins vocabulary (Segment.comment opening body closing) rest)
    (avoid : vocabulary.OperatorsAvoid (· == mark))
    (closed : ∀ last ∈ (segments vocabulary front).getLast?, last.isUnclosed = false)
    (noMark : mark ∉ front.getLast?) :
    Stops vocabulary front ((Segment.comment opening body closing).text ++ rest) := by
  apply stops_of_mark avoid closed noMark
  cases begins with
  | comment _ positive =>
      obtain ⟨less, rfl⟩ := Nat.exists_eq_succ_of_ne_zero (Nat.ne_of_gt positive)
      rfl

/-- The warnings of a text that is stopped lie in the text. -/
theorem Stopped.position_lt {source : String} {found : List Segment}
    (stopped : Stopped vocabulary source.toList found) :
    ∀ warning ∈ (events vocabulary 0 found).filterMap Event.warning?,
      warning.position < source.utf8ByteSize := by
  intro warning met
  have inside := position_lt_of_mem_events met
  rwa [stopped.flatMap_text, byteSize_toList, Nat.zero_add] at inside

end Segment

namespace Scan

variable {vocabulary : Vocabulary} {front behind : String} {found : List Segment}

/-! ## Journals of parted sources -/

/-- The comment with the given numbers of marks before and behind its body. -/
def commentText (opening : Nat) (body : String) (closing : Nat) : String :=
  String.ofList (Segment.comment opening body.toList closing).text

/-- Behind a text that a comment stops, the journal holds the comment and then
what the other text holds alone. -/
theorem toList_journal_comment {body : String} {opening closing : Nat}
    (stopped : Stopped vocabulary front.toList found)
    (stops : Stops vocabulary front.toList
      ((Segment.comment opening body.toList closing).text ++ behind.toList))
    (begins : Begins vocabulary (.comment opening body.toList closing) behind.toList) :
    let stop := front.utf8ByteSize + (commentText opening body closing).utf8ByteSize
    (ofSource vocabulary (front ++ commentText opening body closing ++ behind)).journal.toList =
      events vocabulary 0 found ++ .comment front.utf8ByteSize stop ::
        (ofSource vocabulary behind).journal.toList.map (Event.shift stop) := by
  intro stop
  rw [toList_journal_ofSource, String.toList_append, String.toList_append, commentText,
    String.toList_ofList, List.append_assoc, stopped.events_append stops, begins.events_comment,
    Nat.zero_add, byteSize_toList, events_segments_toList]
  rfl

/-- Behind a text that a space stops, the journal holds what the other text
holds alone. -/
theorem toList_journal_space (stopped : Stopped vocabulary front.toList found)
    (stops : Stops vocabulary front.toList ([' '] ++ behind.toList)) :
    (ofSource vocabulary (front ++ " " ++ behind)).journal.toList =
      events vocabulary 0 found ++
        (ofSource vocabulary behind).journal.toList.map (Event.shift (front.utf8ByteSize + 1)) := by
  have space : ∀ char ∈ [' '], isBlank char = true := List.all_eq_true.mp rfl
  have read := stopped.events_append stops 0
  rw [events_segments_blanks vocabulary space, Nat.zero_add, byteSize_toList,
    events_segments_toList] at read
  rw [toList_journal_ofSource, String.toList_append, String.toList_append, List.append_assoc]
  exact read

/-- Where no operator contains a mark or a blank, a closed comment behind a text
that does not end with a mark and leaves no comment open may be replaced by a
space.  The tokens are the same, and so are the warnings: those before the
comment, and those of the text behind it, further on by where this text begins.
No warning lies inside the comment. -/
theorem ofSource_comment (vocabulary : Vocabulary) (front body behind : String)
    (opening closing : Nat) (avoidMark : vocabulary.OperatorsAvoid (· == mark))
    (avoidBlank : vocabulary.OperatorsAvoid isBlank) (noMark : mark ∉ front.toList.getLast?)
    (closed : (ofSource vocabulary front).endsInComment = false) (notEmpty : body ≠ "")
    (bodyNoMark : mark ∉ body.toList) (closes : 0 < closing) (atMost : closing ≤ opening)
    (all : mark ∈ behind.toList.head? → closing = opening) :
    let comment := commentText opening body closing
    let commented := ofSource vocabulary (front ++ comment ++ behind)
    let spaced := ofSource vocabulary (front ++ " " ++ behind)
    let start := front.utf8ByteSize
    let stop := start + comment.utf8ByteSize
    let ahead := spaced.warnings.filter (·.position < start)
    let own := (ofSource vocabulary behind).warnings
    commented.tokens = spaced.tokens ∧
      spaced.warnings = ahead ++ own.map (Warning.shift (start + 1)) ∧
      commented.warnings = ahead ++ own.map (Warning.shift stop) ∧
      ∀ warning ∈ commented.warnings, warning.position < start ∨ stop ≤ warning.position := by
  intro comment commented spaced start stop ahead own
  rw [endsInComment_ofSource] at closed
  have closedLast := isUnclosed_getLast?_eq_false closed
  have notOperator : isOperator vocabulary [mark] = false :=
    avoidMark.isOperator_eq_false List.mem_cons_self rfl
  have begins : Begins vocabulary (.comment opening body.toList closing) behind.toList :=
    begins_comment_of_closed notOperator (by rwa [Ne, String.toList_eq_nil_iff]) bodyNoMark closes
      atMost all
  rcases exists_stopped vocabulary front.toList with ⟨found, stopped⟩
  have space : Stops vocabulary front.toList ([' '] ++ behind.toList) :=
    stops_of_isBlank avoidBlank closedLast (List.cons_ne_nil _ _) (by simp [isBlank])
  have commentedEvents : commented.journal.toList = _ :=
    toList_journal_comment stopped (begins.stops_of_comment avoidMark closedLast noMark) begins
  have spacedEvents : spaced.journal.toList = _ := toList_journal_space stopped space
  have spacedWarnings : spaced.warnings =
      (events vocabulary 0 found).filterMap Event.warning? ++
        own.map (Warning.shift (start + 1)) := by
    rw [warnings, spacedEvents, List.filterMap_append, Event.filterMap_warning?_map_shift]
    rfl
  have commentedWarnings : commented.warnings =
      (events vocabulary 0 found).filterMap Event.warning? ++ own.map (Warning.shift stop) := by
    rw [warnings, commentedEvents, List.filterMap_append, List.filterMap_cons_none rfl,
      Event.filterMap_warning?_map_shift]
    rfl
  have aheadEq : ahead = (events vocabulary 0 found).filterMap Event.warning? := by
    simp only [ahead]
    rw [spacedWarnings, filter_warnings_append_shift stopped.position_lt (Nat.le_succ start)]
  refine ⟨?_, ?_, ?_, ?_⟩
  · rw [tokens, tokens, commentedEvents, spacedEvents, List.filterMap_append, List.filterMap_append,
      List.filterMap_cons_none rfl, Event.filterMap_token?_map_shift,
      Event.filterMap_token?_map_shift]
  · rw [aheadEq, spacedWarnings]
  · rw [aheadEq, commentedWarnings]
  · intro warning met
    rw [commentedWarnings] at met
    rcases List.mem_append.mp met with earlier | later
    · exact .inl (stopped.position_lt warning earlier)
    · rcases List.mem_map.mp later with ⟨other, -, rfl⟩
      exact .inr (Nat.le_add_left stop other.position)

/-- A pair before the comment stays whole as it does before a space, and what
would be an illegal character is none inside the comment. -/
theorem ofSource_comment_pair :
    let vocabulary := Vocabulary.arithmetic.registerAll [.operator "<", .operator "<="]
    vocabulary.OperatorsAvoid (· == mark) ∧ vocabulary.OperatorsAvoid isBlank ∧
      mark ∉ "1?<=".toList.getLast? ∧ (ofSource vocabulary "1?<=").endsInComment = false ∧
      mark ∉ "é?\n".toList ∧ commentText 2 "é?\n" 1 = "##é?\n#" ∧
      (ofSource vocabulary ("1?<=" ++ commentText 2 "é?\n" 1 ++ "?x")).tokens =
        [.number "1", .symbol "<=", .identifier "x"] ∧
      (ofSource vocabulary ("1?<=" ++ commentText 2 "é?\n" 1 ++ "?x")).warnings =
        [⟨1, '?'⟩, ⟨11, '?'⟩] := by
  intro vocabulary
  have avoidMark : vocabulary.OperatorsAvoid (· == mark) :=
    Vocabulary.operatorsAvoid_mark_arithmetic.registerAll (by simp [mark])
  have avoidBlank : vocabulary.OperatorsAvoid isBlank :=
    (Vocabulary.operatorsAvoid_arithmetic (by decide)).registerAll (by simp [isBlank])
  have noMark : mark ∉ "1?<=".toList.getLast? := by decide
  have closed : (ofSource vocabulary "1?<=").endsInComment = false := by decide +kernel
  have bodyNoMark : mark ∉ "é?\n".toList := by decide
  rcases ofSource_comment vocabulary "1?<=" "é?\n" "?x" 2 1 avoidMark avoidBlank noMark closed
    (by decide) bodyNoMark (by decide) (by decide) (by decide) with ⟨tokens, -, warnings, -⟩
  refine ⟨avoidMark, avoidBlank, noMark, closed, bodyNoMark, by decide, tokens.trans ?_,
    warnings.trans ?_⟩
  · decide +kernel
  · decide +kernel

end Scan

end Lexis
