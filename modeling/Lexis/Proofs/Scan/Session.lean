import Lexis.Proofs.Scan.Ahead
import Lexis.Proofs.Session

/-!
# Sessions

A session is any sequence of calls on a scan: asking for the next token,
requiring a token, looking at the state, or drawing from the tokens that are
left (`Call`).  No call leaves the boundaries of characters, and no call goes
past the end of the source (`Sound.run`).
-/

namespace Lexis.Scan

/-! ## Calls and replies -/

/-- What can be asked of a scan. -/
inductive Call where
  | next
  | expect (expected : Token)
  | current
  | position
  | atEnd
  | source
  | warnings
  /-- Draw the next one of the tokens that are left. -/
  | draw
  deriving DecidableEq

/-- What a scan replies. -/
inductive Reply where
  /-- Whether there was a next token. -/
  | advanced (found : Bool)
  | expected (outcome : Except SyntaxError Unit)
  | current (outcome : Except SyntaxError Token)
  | position (offset : Nat)
  | atEnd (ended : Bool)
  | source (text : String)
  | warnings (warnings : List Warning)
  | drawn (token? : Option Token)

/-- Whether the scan was moved on before it replied. -/
def Reply.moves : Reply → Bool
  | advanced _ => true
  | expected (.ok _) => true
  | drawn _ => true
  | _ => false

/-- The reply to a call and the scan after it. -/
def answer (scan : Scan) : Call → Reply × Scan
  | .next => (.advanced scan.next.1.isSome, scan.next.2)
  | .expect expected =>
      match scan.expect expected with
      | .ok after => (.expected (.ok ()), after)
      | .error error => (.expected (.error error), scan)
  | .current => (.current scan.current, scan)
  | .position => (.position scan.position, scan)
  | .atEnd => (.atEnd scan.atEnd, scan)
  | .source => (.source scan.source, scan)
  | .warnings => (.warnings scan.warnings, scan)
  | .draw => (.drawn scan.next.1, scan.next.2)

variable {scan : Scan} {call : Call}

theorem expect_eq_ok {expected : Token} {after : Scan}
    (matched : scan.expect expected = .ok after) : after = scan.next.2 := by
  unfold expect at matched
  split at matched
  · contradiction
  split at matched
  · exact (Except.ok.inj matched).symm
  · contradiction

/-- A call moves the scan on by one token, or leaves it as it is. -/
theorem answer_snd (scan : Scan) (call : Call) :
    (scan.answer call).2 = if (scan.answer call).1.moves then scan.next.2 else scan := by
  cases call with
  | expect expected =>
      cases outcome : scan.expect expected with
      | ok after =>
          simp only [answer, outcome, Reply.moves, if_true]
          exact expect_eq_ok outcome
      | error error => simp [answer, outcome, Reply.moves]
  | next => rfl
  | draw => rfl
  | _ => rfl

/-! ## Sound scans -/

/-- A scan of a source that splits no character, and whose warnings all lie
behind it. -/
structure Sound (vocabulary : Vocabulary) (source : String) (scan : Scan) : Prop where
  vocabulary_eq : scan.vocabulary = vocabulary
  source_eq : scan.source = source
  exists_ahead : ∃ events, scan.Ahead events
  warnings_lt : ∀ warning ∈ scan.warnings, warning.position < scan.position

variable {vocabulary : Vocabulary} {source : String} {event : Event} {later : List Event}

theorem sound_start (vocabulary : Vocabulary) (source : String) :
    (start vocabulary source).Sound vocabulary source where
  vocabulary_eq := rfl
  source_eq := rfl
  exists_ahead := ⟨_, ahead_start vocabulary source⟩
  warnings_lt := by simp [warnings, start]

theorem warnings_record (scan : Scan) (event : Event) (behind : Text.Place) :
    (scan.record event behind).warnings = scan.warnings ++ event.warning?.toList := by
  cases kind : event.warning? <;> simp [warnings, record, kind]

theorem Sound.toEnd (sound : scan.Sound vocabulary source) :
    scan.toEnd.Sound vocabulary source where
  vocabulary_eq := sound.vocabulary_eq
  source_eq := sound.source_eq
  exists_ahead := ⟨[], ahead_of_place rfl⟩
  warnings_lt := by
    rcases sound.exists_ahead with ⟨events, ahead⟩
    intro warning found
    exact Nat.lt_of_lt_of_le (sound.warnings_lt warning found) ahead.isValid.le_rawEndPos

theorem Sound.record {behind : Text.Place} (sound : scan.Sound vocabulary source)
    (passed : scan.pass = (some event, scan.record event behind))
    (ahead : (scan.record event behind).Ahead later) (sameSource : behind.source = scan.source)
    (within : event.Within scan.position behind.offset) :
    (scan.record event behind).Sound vocabulary source where
  vocabulary_eq := sound.vocabulary_eq
  source_eq := sameSource.trans sound.source_eq
  exists_ahead := ⟨later, ahead⟩
  warnings_lt := by
    intro warning found
    rw [warnings_record, List.mem_append] at found
    rcases found with earlier | here
    · exact Nat.lt_trans (sound.warnings_lt warning earlier) (position_lt_of_pass passed)
    · cases event with
      | illegal met =>
          obtain rfl : warning = met := by simpa [Event.warning?] using here
          exact within.2
      | _ => simp [Event.warning?] at here

theorem Sound.pass (sound : scan.Sound vocabulary source) :
    scan.pass.2.Sound vocabulary source := by
  rcases sound.exists_ahead with ⟨events, ahead⟩
  cases events with
  | nil =>
      rw [pass_of_ahead_nil ahead]
      exact sound.toEnd
  | cons event later =>
      rcases pass_of_ahead_cons ahead with ⟨behind, passed, aheadLater, sameSource, within⟩
      rw [passed]
      exact sound.record passed aheadLater sameSource within

theorem Sound.next (sound : scan.Sound vocabulary source) :
    scan.next.2.Sound vocabulary source :=
  next_invariant (fun _ => Sound.pass) sound

theorem Sound.answer (sound : scan.Sound vocabulary source) (call : Call) :
    (scan.answer call).2.Sound vocabulary source := by
  rw [answer_snd]
  split
  · exact sound.next
  · exact sound

/-- Every session leaves a sound scan sound. -/
theorem Sound.run (sound : scan.Sound vocabulary source) (calls : List Call) :
    (Session.run Scan.answer scan calls).2.Sound vocabulary source :=
  Session.run_invariant (fun _ call sound => sound.answer call) sound calls

end Lexis.Scan
