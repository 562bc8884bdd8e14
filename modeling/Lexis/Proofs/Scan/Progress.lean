import Lexis.Proofs.Scan.Session

/-!
# Scans make progress

Asking for the next token takes one pass after the other (`Turns`).  A pass
that has a byte before it meets an event and moves forward, so there is exactly
one way to take the passes, and it is short.  A whole run meets no more events
than its source has characters (`session_progress`).
-/

namespace Lexis.Scan

/-! ## Taking passes -/

/-- The passes of asking for the next token, with the offset behind each of
them that meets an event, and the answer they lead to.  Where there is a byte
but a pass meets nothing, there is no way on. -/
inductive Turns : Scan → List Nat → Option Token × Scan → Prop
  | ended {scan last : Scan} :
      scan.behindWhitespace.byte? = none → scan.pass = (none, last) → Turns scan [] (none, last)
  | found {scan after : Scan} {event : Event} {token : Token} :
      scan.pass = (some event, after) → event.token? = some token →
      Turns scan [after.position] (some token, after)
  | again {scan after : Scan} {event : Event} {offsets : List Nat}
      {result : Option Token × Scan} :
      scan.pass = (some event, after) → event.token? = none → Turns after offsets result →
      Turns scan (after.position :: offsets) result

/-- The number of passes.  Only the one that finds the end meets no event. -/
def passCount (offsets : List Nat) (result : Option Token × Scan) : Nat :=
  offsets.length + if result.1.isNone then 1 else 0

/-- The passes of asking for tokens until there is none. -/
inductive WholeRun : Scan → List Nat → Scan → Prop
  | ended {scan last : Scan} {offsets : List Nat} :
      Turns scan offsets (none, last) → WholeRun scan offsets last
  | more {scan after last : Scan} {token : Token} {offsets later : List Nat} :
      Turns scan offsets (some token, after) → WholeRun after later last →
      WholeRun scan (offsets ++ later) last

variable {scan : Scan} {events : List Event} {offsets others : List Nat}
  {result other : Option Token × Scan}

/-- There is at most one way to take the passes. -/
theorem Turns.unique (first : Turns scan offsets result) (second : Turns scan others other) :
    others = offsets ∧ other = result := by
  induction first generalizing others other with
  | ended _ passed =>
      cases second with
      | ended _ same =>
          rcases Prod.mk.inj (passed.symm.trans same) with ⟨-, rfl⟩
          exact ⟨rfl, rfl⟩
      | found same => simp [passed] at same
      | again same => simp [passed] at same
  | found passed isToken =>
      cases second with
      | ended _ same => simp [passed] at same
      | found same alsoToken =>
          rcases Prod.mk.inj (passed.symm.trans same) with ⟨met, rfl⟩
          obtain rfl := Option.some_inj.mp met
          obtain rfl := Option.some_inj.mp (isToken.symm.trans alsoToken)
          exact ⟨rfl, rfl⟩
      | again same notToken =>
          rcases Prod.mk.inj (passed.symm.trans same) with ⟨met, rfl⟩
          obtain rfl := Option.some_inj.mp met
          simp [isToken] at notToken
  | again passed notToken _ inductionHypothesis =>
      cases second with
      | ended _ same => simp [passed] at same
      | found same isToken =>
          rcases Prod.mk.inj (passed.symm.trans same) with ⟨met, rfl⟩
          obtain rfl := Option.some_inj.mp met
          simp [isToken] at notToken
      | again same _ later =>
          rcases Prod.mk.inj (passed.symm.trans same) with ⟨-, rfl⟩
          rcases inductionHypothesis later with ⟨rfl, rfl⟩
          exact ⟨rfl, rfl⟩

/-! ## Progress -/

/-- The passes towards the next token each take one event off what is ahead,
and each moves forward. -/
theorem exists_turns (ahead : scan.Ahead events) :
    ∃ offsets, Turns scan offsets scan.next ∧ (scan.position :: offsets).IsChain (· < ·) ∧
      ∃ later, scan.next.2.Ahead later ∧ events.length = offsets.length + later.length ∧
        (scan.next.1 = none →
          later = [] ∧ scan.next.2.position = scan.source.utf8ByteSize) := by
  induction events generalizing scan with
  | nil =>
      have passed := pass_of_ahead_nil ahead
      rw [next_of_pass_none passed]
      exact ⟨[], .ended (behindWhitespace_of_ahead_nil ahead).2 passed, .singleton _, [],
        ahead_of_place rfl, rfl, fun _ => ⟨rfl, rfl⟩⟩
  | cons event later inductionHypothesis =>
      rcases pass_of_ahead_cons ahead with ⟨behind, passed, aheadLater, sameSource, -⟩
      have forward := position_lt_of_pass passed
      cases kind : event.token? with
      | some token =>
          rw [next_of_pass_token passed kind]
          refine ⟨_, .found passed kind, List.isChain_cons_cons.mpr ⟨forward, .singleton _⟩,
            later, aheadLater, ?_, ?_⟩
          · rw [List.length_cons, List.length_singleton, Nat.add_comm]
          · intro none
            contradiction
      | none =>
          rw [next_of_pass_skipped passed kind]
          obtain ⟨offsets, turns, chain, left, aheadLeft, length, ended⟩ :=
            inductionHypothesis aheadLater
          refine ⟨_, .again passed kind turns, List.isChain_cons_cons.mpr ⟨forward, chain⟩, left,
            aheadLeft, ?_, ?_⟩
          · rw [List.length_cons, List.length_cons, length]
            omega
          · intro none
            rcases ended none with ⟨nothing, atEnd⟩
            exact ⟨nothing, atEnd.trans (congrArg String.utf8ByteSize sameSource)⟩

/-- A whole run takes one pass for each event that is ahead, and a last one. -/
theorem exists_wholeRun (ahead : scan.Ahead events) :
    ∃ offsets, WholeRun scan offsets scan.finish ∧ offsets.length = events.length := by
  fun_induction finish scan generalizing events with
  | case1 scan last nothing =>
      rcases exists_turns ahead with ⟨offsets, turns, -, later, -, length, ended⟩
      rw [nothing] at turns ended
      rcases ended rfl with ⟨rfl, -⟩
      exact ⟨offsets, .ended turns, length.symm⟩
  | case2 scan token after found inductionHypothesis =>
      rcases exists_turns ahead with ⟨offsets, turns, -, later, aheadLater, length, -⟩
      rw [found] at turns aheadLater
      rcases inductionHypothesis aheadLater with ⟨further, run, total⟩
      refine ⟨offsets ++ further, .more turns run, ?_⟩
      rw [List.length_append, total, length]

/-- In every state of a session, there is exactly one way to take the passes
towards the next token.  Each that meets an event moves forward, they are at
most one more than there are bytes left, and without a token they end at the
end of the source.  A whole run meets no more events than the source has
characters. -/
theorem session_progress (vocabulary : Vocabulary) (source : String) (calls : List Call) :
    let scan := (Session.run answer (start vocabulary source) calls).2
    (∃ offsets,
      (∀ others result, Turns scan others result ↔ others = offsets ∧ result = scan.next) ∧
      (scan.position :: offsets).IsChain (· < ·) ∧
      passCount offsets scan.next ≤ source.utf8ByteSize - scan.position + 1) ∧
    (scan.next.1 = none → scan.next.2.position = source.utf8ByteSize) ∧
    ∃ offsets, WholeRun (start vocabulary source) offsets (ofSource vocabulary source) ∧
      offsets.length ≤ source.length := by
  intro scan
  have sound := (sound_start vocabulary source).run calls
  rcases sound.exists_ahead with ⟨events, ahead⟩
  rcases exists_turns ahead with ⟨offsets, turns, chain, later, -, length, ended⟩
  refine ⟨⟨offsets, fun others result => ⟨turns.unique, ?_⟩, chain, ?_⟩, ?_, ?_⟩
  · rintro ⟨rfl, rfl⟩
    exact turns
  · have bound : events.length ≤ scan.remaining := ahead.length_le_remaining
    have left : scan.remaining = source.utf8ByteSize - scan.position :=
      congrArg (fun text => text.utf8ByteSize - _) sound.source_eq
    have most : passCount offsets scan.next ≤ offsets.length + 1 := by
      rw [passCount]
      split <;> omega
    omega
  · intro none
    exact (ended none).2.trans (congrArg String.utf8ByteSize sound.source_eq)
  · rcases exists_wholeRun (ahead_start vocabulary source) with ⟨whole, run, total⟩
    have most := length_events_le vocabulary 0 source.toList
    rw [← total, String.length_toList] at most
    exact ⟨whole, run, most⟩

end Lexis.Scan
