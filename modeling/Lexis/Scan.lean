import Lexis.Event.Reading
import Lexis.SyntaxError

/-!
# Scans

A scan hands out the tokens of a source one at a time.  It keeps the last
token as the *current* one, and a journal of every event it has met.  When
only blanks, comments and illegal characters are left, there is no token to
hand out and the current one stays.

Every event takes a scan forward, so each scan comes to an end.
-/

namespace Lexis

open Text

/-- A scan in progress. -/
structure Scan where
  vocabulary : Vocabulary
  place : Place
  /-- The last token handed out. -/
  current? : Option Token
  /-- The events met so far, in the order of the source. -/
  journal : Array Event

namespace Scan

/-- The scan at the beginning of a source. -/
def start (vocabulary : Vocabulary) (source : String) : Scan :=
  ⟨vocabulary, .start source, none, #[]⟩

/-! ## The state of a scan -/

/-- The source being scanned. -/
def source (scan : Scan) : String :=
  scan.place.source

/-- The byte offset that the scan has reached. -/
def position (scan : Scan) : Nat :=
  scan.place.offset

/-- The number of bytes that the scan has before it. -/
def remaining (scan : Scan) : Nat :=
  scan.place.remaining

/-- Whether the scan has reached the end of the source. -/
def atEnd (scan : Scan) : Bool :=
  scan.place.atEnd

/-- The tokens met so far. -/
def tokens (scan : Scan) : List Token :=
  scan.journal.toList.filterMap Event.token?

/-- The illegal characters met so far. -/
def warnings (scan : Scan) : List Warning :=
  scan.journal.toList.filterMap Event.warning?

/-- The current token, which exists once a token has been handed out. -/
def current (scan : Scan) : Except SyntaxError Token :=
  match scan.current? with
  | some token => .ok token
  | none => .error (.missing scan.position)

/-! ## One token further -/

/-- The place behind the whitespace that comes next. -/
def behindWhitespace (scan : Scan) : Place :=
  scan.place.skipWhile CharClass.whitespace.contains

/-- The scan after an event. -/
def record (scan : Scan) (event : Event) (behind : Place) : Scan :=
  { scan with
    place := behind
    current? := event.token? <|> scan.current?
    journal := scan.journal.push event }

theorem remaining_record_lt {scan : Scan} {event : Event} {behind : Place}
    (met : Event.read? scan.vocabulary scan.behindWhitespace = some (event, behind)) :
    (scan.record event behind).remaining < scan.remaining := by
  have moved := Event.lt_of_read?_eq_some met
  have same := Event.source_of_read?_eq_some met
  have skipped := Place.le_skipWhile scan.place CharClass.whitespace.contains
  simp only [behindWhitespace, Place.skipWhile_source] at moved same
  simp only [remaining, record, Place.remaining, same]
  omega

/-- The next token and the scan behind it.  Comments and illegal characters
before the token are only recorded. -/
def next (scan : Scan) : Option Token × Scan :=
  match _ : Event.read? scan.vocabulary scan.behindWhitespace with
  | none => (none, { scan with place := scan.behindWhitespace })
  | some (event, behind) =>
      match event.token? with
      | some token => (some token, scan.record event behind)
      | none => next (scan.record event behind)
termination_by scan.remaining
decreasing_by exact remaining_record_lt ‹_›

theorem remaining_lt_of_next_eq_some {scan after : Scan} {token : Token}
    (handed : scan.next = (some token, after)) : after.remaining < scan.remaining := by
  fun_induction next scan with
  | case1 => simp at handed
  | case2 scan event behind met =>
      obtain ⟨_, rfl⟩ := Prod.mk.inj handed
      exact remaining_record_lt met
  | case3 scan event behind met _ inductionHypothesis =>
      exact Nat.lt_trans (inductionHypothesis handed) (remaining_record_lt met)

/-- Require the current token to be a given one, and move on behind it.  At the
end of the source there is nothing to move to, which is no error. -/
def expect (scan : Scan) (expected : Token) : Except SyntaxError Scan :=
  match scan.current with
  | .error missing => .error missing
  | .ok found =>
      if found = expected then .ok scan.next.2
      else .error (.unexpected scan.position expected found)

/-! ## To the end -/

/-- The scan after its last token. -/
def finish (scan : Scan) : Scan :=
  match _ : scan.next with
  | (none, last) => last
  | (some _, after) => after.finish
termination_by scan.remaining
decreasing_by exact remaining_lt_of_next_eq_some ‹_›

/-- The finished scan of a source. -/
def ofSource (vocabulary : Vocabulary) (source : String) : Scan :=
  (start vocabulary source).finish

end Scan

/-- The tokens of a source, under the vocabulary of arithmetic. -/
def tokensOf (source : String) : List Token :=
  (Scan.ofSource .arithmetic source).tokens

end Lexis
