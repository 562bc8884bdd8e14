/-!
# Nesting

Repetitions, groups and classes are each one level deeper than what they hold.
So is a sequence of items, a choice between branches or a class with members,
but only when there are at least two of them: a single one is not wrapped.  A
pattern may have 250 levels.
-/

namespace Lexis.Text.Pattern

/-- How many levels a pattern may have. -/
def levelLimit : Nat := 250

/-- The levels of parts that stand beside each other. -/
def levels : List Nat → Nat
  | [] => 0
  | [level] => level
  | level :: others => others.foldl max level + 1

/-- A group, or the whole of a pattern, as far as it has been read.  Of its
parts only the levels are kept. -/
structure Group where
  /-- The items of the branch that is being read, the last one first. -/
  items : List Nat
  /-- The branches before it. -/
  branches : List Nat

namespace Group

/-- Nothing has been read. -/
def empty : Group :=
  ⟨[], []⟩

/-- The levels of all branches. -/
def level (group : Group) : Nat :=
  levels (levels group.items :: group.branches)

/-- Add an item to the branch. -/
def addItem (group : Group) (level : Nat) : Group :=
  { group with items := level :: group.items }

/-- Repeat the last item of the branch. -/
def repeatLast (group : Group) : Group :=
  match group.items with
  | [] => group
  | last :: earlier => { group with items := (last + 1) :: earlier }

/-- Begin another branch. -/
def nextBranch (group : Group) : Group :=
  ⟨[], levels group.items :: group.branches⟩

end Group

/-- A class as far as it has been read.  Of its parts only the levels are
kept. -/
structure ClassPart where
  /-- What is to the left of the last operator. -/
  left : Option Nat
  /-- The members behind it. -/
  members : List Nat

namespace ClassPart

/-- Nothing has been read. -/
def empty : ClassPart :=
  ⟨none, []⟩

/-- The levels of all that has been read. -/
def level (part : ClassPart) : Nat :=
  match part.left with
  | none => levels part.members
  | some left => max left (levels part.members) + 1

/-- Add a member. -/
def addMember (part : ClassPart) (level : Nat) : ClassPart :=
  { part with members := level :: part.members }

/-- Go on behind an operator. -/
def nextOperand (part : ClassPart) : ClassPart :=
  ⟨some part.level, []⟩

end ClassPart

end Lexis.Text.Pattern
