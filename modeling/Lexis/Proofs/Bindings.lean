import Lexis.Bindings
import Lexis.Proofs.Session
import Mathlib.Data.Finset.Card

/-!
# The lineage of bindings

Bindings are kept beside a saved copy: a copy of the current ones can be saved,
and the two can change places (`Copies`).  What either of them holds is told by
its lineage: the assignments that were made to it and, before it was copied, to
the bindings that it is a copy of (`Side.lineage`).  Nothing else shows in it
(`session_lineage`).
-/

namespace Lexis.Bindings

/-! ## Assignments in a row -/

/-- A value that is given to a name. -/
structure Assignment where
  name : String
  value : Int64
  deriving DecidableEq

/-- Carry out assignments, one after the other. -/
def bindAll (bindings : Bindings) (history : List Assignment) : Bindings :=
  history.foldl (fun bindings given => bindings.bind given.name given.value) bindings

/-- The value that is assigned to a name last. -/
def last? (history : List Assignment) (name : String) : Option Int64 :=
  (history.filter (·.name == name)).getLast?.map Assignment.value

/-- The names that are assigned to. -/
def names (history : List Assignment) : Finset String :=
  (history.map Assignment.name).toFinset

theorem bindAll_append (bindings : Bindings) (earlier later : List Assignment) :
    bindings.bindAll (earlier ++ later) = (bindings.bindAll earlier).bindAll later :=
  List.foldl_append

theorem last?_append_singleton (history : List Assignment) (given : Assignment) (name : String) :
    last? (history ++ [given]) name =
      if given.name = name then some given.value else last? history name := by
  rw [last?, List.filter_append]
  split
  next same => simp [same]
  next differ => simp [differ, last?]

theorem names_append_singleton (history : List Assignment) (given : Assignment) :
    names (history ++ [given]) = insert given.name (names history) := by
  ext name
  simp [names]

/-- A name has the value that is assigned to it last. -/
theorem find_bindAll (history : List Assignment) (name : String) :
    (empty.bindAll history).find name =
      (last? history name).elim (.error ⟨name⟩) .ok := by
  induction history using List.reverseRecOn with
  | nil => exact find_empty name
  | append_singleton earlier given inductionHypothesis =>
      rw [bindAll_append, last?_append_singleton]
      split
      next same =>
          subst same
          exact find_bind_self _ _ _
      next differ => exact (find_bind_of_ne _ differ _).trans inductionHypothesis

theorem contains_bindAll (history : List Assignment) (name : String) :
    (empty.bindAll history).contains name = true ↔ name ∈ names history := by
  induction history using List.reverseRecOn with
  | nil => simp [bindAll, names]
  | append_singleton earlier given inductionHypothesis =>
      have added : ((empty.bindAll earlier).bind given.name given.value).contains name = true ↔
          name = given.name ∨ name ∈ names earlier := by
        rw [contains_bind, Bool.or_eq_true, beq_iff_eq, inductionHypothesis, eq_comm]
      rw [bindAll_append, names_append_singleton, Finset.mem_insert]
      exact added

/-- A name counts once, however often it is assigned to. -/
theorem size_bindAll (history : List Assignment) :
    (empty.bindAll history).size = (names history).card := by
  induction history using List.reverseRecOn with
  | nil => exact size_empty
  | append_singleton earlier given inductionHypothesis =>
      have counted := size_bind (empty.bindAll earlier) given.name given.value
      rw [bindAll_append, names_append_singleton]
      apply counted.trans
      by_cases known : given.name ∈ names earlier
      · rw [if_pos ((contains_bindAll earlier _).mpr known), Finset.insert_eq_of_mem known,
          inductionHypothesis]
      · rw [if_neg (mt (contains_bindAll earlier _).mp known), Finset.card_insert_of_notMem known,
          inductionHypothesis]

/-! ## Current and saved bindings -/

/-- The current bindings and the saved ones. -/
structure Copies where
  current : Bindings
  saved : Bindings

/-- One of two bindings. -/
inductive Side where
  | current
  | saved
  deriving DecidableEq

/-- The other one of the two. -/
def Side.other : Side → Side
  | current => saved
  | saved => current

namespace Copies

/-- No variable has a value on either side. -/
def start : Copies :=
  ⟨.empty, .empty⟩

/-- The bindings on a side. -/
def on (copies : Copies) : Side → Bindings
  | .current => copies.current
  | .saved => copies.saved

end Copies

/-- What can be asked of the current bindings, and done with the copies. -/
inductive Call where
  | assign (name : String) (value : Int64)
  | find (name : String)
  | contains (name : String)
  | size
  | isEmpty
  /-- Save a copy of the current bindings. -/
  | save
  /-- Let the current and the saved bindings change places. -/
  | swap
  deriving DecidableEq

/-- What is replied. -/
inductive Reply where
  | assigned (value : Int64) (record : Log.Record)
  | found (outcome : Except UndefinedVariable Int64)
  | contained (known : Bool)
  | counted (count : Nat)
  | isEmpty (empty : Bool)
  | done

namespace Copies

/-- The reply to a call and the copies after it. -/
def answer (copies : Copies) : Call → Reply × Copies
  | .assign name value =>
      let (result, record, bindings) := copies.current.assign name value
      (.assigned result record, { copies with current := bindings })
  | .find name => (.found (copies.current.find name), copies)
  | .contains name => (.contained (copies.current.contains name), copies)
  | .size => (.counted copies.current.size, copies)
  | .isEmpty => (.isEmpty copies.current.isEmpty, copies)
  | .save => (.done, { copies with saved := copies.current })
  | .swap => (.done, ⟨copies.saved, copies.current⟩)

end Copies

/-! ## Lineage -/

/-- The side from which a call takes the bindings that it leaves on a side. -/
def Call.origin : Call → Side → Side
  | save, _ => .current
  | swap, side => side.other
  | _, side => side

/-- What a call assigns to the bindings that it leaves on a side. -/
def Call.assigned : Call → Side → List Assignment
  | assign name value, .current => [⟨name, value⟩]
  | _, _ => []

namespace Side

/-- The side on which the bindings began that several calls leave on a side.  A
copy began where it was copied from. -/
def origin (side : Side) : List Call → Side
  | [] => side
  | call :: later => call.origin (side.origin later)

/-- The assignments in several calls to the bindings that they leave on a side
or, before those were copied, to the ones that they were copied from. -/
def lineage (side : Side) : List Call → List Assignment
  | [] => []
  | call :: later => call.assigned (side.origin later) ++ side.lineage later

theorem origin_append (side : Side) (earlier later : List Call) :
    side.origin (earlier ++ later) = (side.origin later).origin earlier := by
  induction earlier with
  | nil => rfl
  | cons call others inductionHypothesis => exact congrArg call.origin inductionHypothesis

theorem lineage_append (side : Side) (earlier later : List Call) :
    side.lineage (earlier ++ later) =
      (side.origin later).lineage earlier ++ side.lineage later := by
  induction earlier with
  | nil => rfl
  | cons call others inductionHypothesis =>
      rw [List.cons_append, lineage, lineage, origin_append, inductionHypothesis,
        List.append_assoc]

/-- While no copy is saved, the two sides come from different sides. -/
theorem origin_other {calls : List Call} (unsaved : .save ∉ calls) (side : Side) :
    side.other.origin calls = (side.origin calls).other := by
  induction calls with
  | nil => rfl
  | cons call later inductionHypothesis =>
      rcases not_or.mp (mt List.mem_cons.mpr unsaved) with ⟨here, behind⟩
      rw [origin, origin, inductionHypothesis behind]
      cases call with
      | save => contradiction
      | _ => rfl

end Side

namespace Copies

/-- A call leaves on a side what it took there, with what it assigned to it. -/
theorem on_answer (copies : Copies) (call : Call) (side : Side) :
    (copies.answer call).2.on side =
      (copies.on (call.origin side)).bindAll (call.assigned side) := by
  cases call with
  | save => cases side <;> rfl
  | swap => cases side <;> rfl
  | assign => cases side <;> rfl
  | _ => rfl

theorem on_run (copies : Copies) (calls : List Call) (side : Side) :
    (Session.run answer copies calls).2.on side =
      (copies.on (side.origin calls)).bindAll (side.lineage calls) := by
  induction calls generalizing copies with
  | nil => rfl
  | cons call later inductionHypothesis =>
      calc (Session.run answer (copies.answer call).2 later).2.on side
          = ((copies.answer call).2.on (side.origin later)).bindAll (side.lineage later) :=
            inductionHypothesis _
        _ = _ := by rw [on_answer, ← bindAll_append, Side.lineage, Side.origin]

theorem on_run_start (calls : List Call) (side : Side) :
    (Session.run answer start calls).2.on side = empty.bindAll (side.lineage calls) := by
  rw [on_run]
  cases side.origin calls <;> rfl

theorem on_run_append (earlier later : List Call) (side : Side) :
    (Session.run answer start (earlier ++ later)).2.on side =
      ((Session.run answer start earlier).2.on (side.origin later)).bindAll
        (side.lineage later) := by
  rw [on_run_start, on_run_start, Side.lineage_append, bindAll_append]

/-- An assignment does not show on a side that comes from the saved one. -/
theorem on_run_assign (name : String) (value : Int64) {later : List Call} {side : Side}
    (apart : side.origin later = .saved) (earlier : List Call) :
    (Session.run answer start (earlier ++ .assign name value :: later)).2.on side =
      (Session.run answer start (earlier ++ later)).2.on side := by
  have unseen : side.lineage (.assign name value :: later) = side.lineage later := by
    rw [Side.lineage, apart]
    rfl
  have same : side.origin (.assign name value :: later) = side.origin later := rfl
  rw [on_run_append, on_run_append, unseen, same]

end Copies

/-- The reply to a call that the lineage of the current bindings tells. -/
def Call.reply (history : List Assignment) : Call → Reply
  | assign name value => .assigned value (bindRecord name value)
  | find name => .found ((last? history name).elim (.error ⟨name⟩) .ok)
  | contains name => .contained (decide (name ∈ names history))
  | size => .counted (names history).card
  | isEmpty => .isEmpty (decide ((names history).card = 0))
  | save => .done
  | swap => .done

namespace Copies

theorem answer_fst {copies : Copies} {history : List Assignment}
    (told : copies.current = empty.bindAll history) (call : Call) :
    (copies.answer call).1 = call.reply history := by
  cases call with
  | find name => exact congrArg Reply.found (told ▸ find_bindAll history name)
  | contains name =>
      apply congrArg Reply.contained
      rw [told, Bool.eq_iff_iff, decide_eq_true_iff, contains_bindAll]
  | size => exact congrArg Reply.counted (told ▸ size_bindAll history)
  | isEmpty =>
      apply congrArg Reply.isEmpty
      rw [told, Bool.eq_iff_iff, decide_eq_true_iff, isEmpty_iff, size_bindAll]
  | _ => rfl

/-- Every reply, and what either side holds, is told by lineages: a name has the
value that is assigned to it last, and counts once.  An assignment is worth its
value and one log record, and changes one name on one side.  Behind a saved copy both sides go on
from what was copied, each with assignments of its own: an assignment never
shows on a side that comes from the saved one, and until another copy is saved
exactly one of the two sides does. -/
theorem session_lineage (calls : List Call) :
    let after (calls : List Call) := (Session.run answer start calls).2
    let copies := after calls
    (∀ index : Nat, (Session.run answer start calls).1[index]? =
      calls[index]?.map (Call.reply (Side.current.lineage (calls.take index)))) ∧
    (∀ side : Side,
      let bindings := copies.on side
      let history := side.lineage calls
      bindings = empty.bindAll history ∧
        (∀ name, bindings.find name = (last? history name).elim (.error ⟨name⟩) .ok) ∧
        (∀ name, bindings.contains name = true ↔ ∃ value, bindings.find name = .ok value) ∧
        bindings.size = (names history).card ∧
        (bindings.isEmpty = true ↔ (names history).card = 0)) ∧
    (∀ name value,
      let assigned := copies.answer (.assign name value)
      assigned.1 = .assigned value (bindRecord name value) ∧
        assigned.2.saved = copies.saved ∧
        ∀ other ≠ name, assigned.2.current.find other = copies.current.find other) ∧
    ∀ (later : List Call) (side : Side),
      (after (calls ++ .save :: later)).on side =
          copies.current.bindAll (side.lineage later) ∧
        (∀ name value, side.origin later = .saved →
          (after (calls ++ .assign name value :: later)).on side =
            (after (calls ++ later)).on side) ∧
        (.save ∉ later → side.other.origin later = (side.origin later).other) := by
  intro after copies
  refine ⟨?_, ?_, ?_, ?_⟩
  · intro index
    rw [Session.getElem?_run]
    congr 1
    ext call
    exact answer_fst (on_run_start (calls.take index) .current) call
  · intro side bindings history
    have told : bindings = empty.bindAll history := on_run_start calls side
    refine ⟨told, ?_, fun _ => contains_iff, ?_, ?_⟩
    · exact fun name => told ▸ find_bindAll history name
    · exact told ▸ size_bindAll history
    · rw [isEmpty_iff, told, size_bindAll]
  · intro name value assigned
    refine ⟨rfl, rfl, ?_⟩
    intro other differ
    exact find_bind_of_ne _ differ.symm value
  · intro later side
    refine ⟨on_run_append calls (.save :: later) side, ?_, ?_⟩
    · intro name value apart
      exact on_run_assign name value apart calls
    · exact fun unsaved => Side.origin_other unsaved side

end Copies

/-- The copy that was saved goes on where it is swapped in. -/
example :
    let calls : List Call :=
      [.assign "x" 1, .save, .assign "x" 2, .swap, .assign "" 3, .assign "" 4]
    Side.saved.lineage calls = [⟨"x", 1⟩, ⟨"x", 2⟩] ∧
      Side.current.lineage calls = [⟨"x", 1⟩, ⟨"", 3⟩, ⟨"", 4⟩] := by
  decide

end Lexis.Bindings
