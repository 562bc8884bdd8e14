/-!
# Sessions

A session is any sequence of calls on a state, each of which is replied to and
may change the state (`Session.run`).
-/

namespace Lexis.Session

variable {State Call Reply : Type}

/-- The replies to several calls, one after the other, and the state after them. -/
def run (answer : State → Call → Reply × State) (state : State) :
    List Call → List Reply × State
  | [] => ([], state)
  | call :: later =>
      let (replies, last) := run answer (answer state call).2 later
      ((answer state call).1 :: replies, last)

variable {answer : State → Call → Reply × State}

/-- What every call preserves is preserved by a session. -/
theorem run_invariant {Holds : State → Prop}
    (preserves : ∀ state call, Holds state → Holds (answer state call).2) {state : State}
    (holds : Holds state) (calls : List Call) : Holds (run answer state calls).2 := by
  induction calls generalizing state with
  | nil => exact holds
  | cons call later inductionHypothesis =>
      exact inductionHypothesis (preserves state call holds)

/-- A call is replied to in the state that the calls before it have left. -/
theorem getElem?_run (state : State) (calls : List Call) (index : Nat) :
    (run answer state calls).1[index]? =
      calls[index]?.map fun call => (answer (run answer state (calls.take index)).2 call).1 := by
  induction calls generalizing state index with
  | nil => rfl
  | cons call later inductionHypothesis =>
      cases index with
      | zero => rfl
      | succ index => exact inductionHypothesis (answer state call).2 index

/-- Where a view of the states is answered alike, call by call, a session on the
view is the view of a session. -/
theorem run_of_view {View : Type} {answerView : View → Call → Reply × View}
    {view : State → View}
    (alike : ∀ state call, answerView (view state) call =
      ((answer state call).1, view (answer state call).2)) (state : State) (calls : List Call) :
    run answerView (view state) calls =
      ((run answer state calls).1, view (run answer state calls).2) := by
  induction calls generalizing state with
  | nil => rfl
  | cons call later inductionHypothesis =>
      rw [run, alike, inductionHypothesis]
      rfl

end Lexis.Session
