import Lexis.Proofs.Segmentation
import Lexis.Scan

/-!
# The passes of a scan

Asking for the next token takes passes: each skips the blanks and reads one
event, and goes on unless the event is a token or nothing is left.  What is
handed out next, the tokens of a whole run (`handed`) and the finished scan are
said in terms of one pass (`pass`).
-/

namespace Lexis.Scan

open Text

/-! ## One pass -/

/-- One pass: the event read, if there is one, and the scan behind it. -/
def pass (scan : Scan) : Option Event × Scan :=
  match Event.read? scan.vocabulary scan.behindWhitespace with
  | none => (none, { scan with place := scan.behindWhitespace })
  | some (event, behind) => (some event, scan.record event behind)

variable {scan after : Scan} {event : Event} {token : Token}

theorem pass_of_read?_eq_none
    (nothing : Event.read? scan.vocabulary scan.behindWhitespace = none) :
    scan.pass = (none, { scan with place := scan.behindWhitespace }) := by
  rw [pass, nothing]

theorem pass_of_read?_eq_some {behind : Place}
    (met : Event.read? scan.vocabulary scan.behindWhitespace = some (event, behind)) :
    scan.pass = (some event, scan.record event behind) := by
  rw [pass, met]

/-- A pass that reads an event moves forward. -/
theorem position_lt_of_pass (passed : scan.pass = (some event, after)) :
    scan.position < after.position := by
  cases met : Event.read? scan.vocabulary scan.behindWhitespace with
  | none =>
      rw [pass_of_read?_eq_none met] at passed
      simp at passed
  | some found =>
      rw [pass_of_read?_eq_some met] at passed
      rcases Prod.mk.inj passed with ⟨-, rfl⟩
      exact Nat.lt_of_le_of_lt (Place.le_skipWhile _ _) (Event.lt_of_read?_eq_some met).1

/-! ## The next token in passes -/

/-- A token is handed out by the first pass that reads one. -/
theorem next_eq_pass (scan : Scan) :
    scan.next =
      match scan.pass with
      | (none, after) => (none, after)
      | (some event, after) =>
          match event.token? with
          | some token => (some token, after)
          | none => after.next := by
  rw [next]
  split
  next nothing => rw [pass_of_read?_eq_none nothing]
  next event behind met =>
      have passed := pass_of_read?_eq_some met
      cases kind : event.token? with
      | some token => simp only [passed, kind]
      | none => simp only [passed, kind]

theorem next_of_pass_none (passed : scan.pass = (none, after)) : scan.next = (none, after) := by
  rw [next_eq_pass, passed]

theorem next_of_pass_token (passed : scan.pass = (some event, after))
    (isToken : event.token? = some token) : scan.next = (some token, after) := by
  rw [next_eq_pass, passed]
  dsimp only
  rw [isToken]

theorem next_of_pass_skipped (passed : scan.pass = (some event, after))
    (notToken : event.token? = none) : scan.next = after.next := by
  rw [next_eq_pass, passed]
  dsimp only
  rw [notToken]

/-- What every pass preserves is preserved by asking for the next token. -/
theorem next_invariant {Holds : Scan → Prop} (pass : ∀ scan, Holds scan → Holds scan.pass.2)
    (holds : Holds scan) : Holds scan.next.2 := by
  fun_induction next scan with
  | case1 scan nothing =>
      have passed := pass scan holds
      rwa [pass_of_read?_eq_none nothing] at passed
  | case2 scan event behind met =>
      have passed := pass scan holds
      rwa [pass_of_read?_eq_some met] at passed
  | case3 scan event behind met _ inductionHypothesis =>
      have passed := pass scan holds
      rw [pass_of_read?_eq_some met] at passed
      exact inductionHypothesis passed

/-- A token that is handed out becomes the current one; otherwise the current
one stays. -/
theorem current?_next (scan : Scan) :
    scan.next.2.current? = (scan.next.1 <|> scan.current?) := by
  fun_induction next scan with
  | case1 => rfl
  | case2 scan event behind _ token isToken => rw [record, isToken]
  | case3 scan event behind _ notToken inductionHypothesis =>
      rw [inductionHypothesis, record, notToken]
      rfl

/-! ## The whole run -/

/-- The tokens that are handed out until there is none, each with the offset
that the scan has reached by then. -/
def handed (scan : Scan) : List (Token × Nat) :=
  match _ : scan.next with
  | (none, _) => []
  | (some token, after) => (token, after.position) :: after.handed
termination_by scan.remaining
decreasing_by exact remaining_lt_of_next_eq_some ‹_›

theorem finish_of_next_none (ended : scan.next = (none, after)) : scan.finish = after := by
  rw [finish]
  split
  next same => exact (Prod.mk.inj (same.symm.trans ended)).2
  next same => simp [ended] at same

theorem finish_of_next_some (found : scan.next = (some token, after)) :
    scan.finish = after.finish := by
  rw [finish]
  split
  next same => simp [found] at same
  next same =>
      rcases Prod.mk.inj (same.symm.trans found) with ⟨-, rfl⟩
      rfl

theorem handed_of_next_none (ended : scan.next = (none, after)) : scan.handed = [] := by
  rw [handed]
  split
  next => rfl
  next same => simp [ended] at same

theorem handed_of_next_some (found : scan.next = (some token, after)) :
    scan.handed = (token, after.position) :: after.handed := by
  rw [handed]
  split
  next same => simp [found] at same
  next same =>
      rcases Prod.mk.inj (same.symm.trans found) with ⟨tokens, rfl⟩
      obtain rfl := Option.some_inj.mp tokens
      rfl

/-! ## The whole run in passes -/

theorem finish_of_pass_none (passed : scan.pass = (none, after)) : scan.finish = after :=
  finish_of_next_none (next_of_pass_none passed)

theorem finish_of_pass_some (passed : scan.pass = (some event, after)) :
    scan.finish = after.finish := by
  cases kind : event.token? with
  | some token => exact finish_of_next_some (next_of_pass_token passed kind)
  | none => rw [finish.eq_def, finish.eq_def, next_of_pass_skipped passed kind]

theorem handed_of_pass_none (passed : scan.pass = (none, after)) : scan.handed = [] :=
  handed_of_next_none (next_of_pass_none passed)

theorem handed_of_pass_some (passed : scan.pass = (some event, after)) :
    scan.handed = (event.token?.map (·, after.position)).toList ++ after.handed := by
  cases kind : event.token? with
  | some token => exact handed_of_next_some (next_of_pass_token passed kind)
  | none =>
      rw [handed.eq_def, handed.eq_def, next_of_pass_skipped passed kind, Option.map_none,
        Option.toList_none, List.nil_append]

end Lexis.Scan
