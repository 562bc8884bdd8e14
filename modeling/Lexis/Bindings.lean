import Std.Data.TreeMap
import Lexis.Log.Record

/-!
# Bindings

Bindings give values to variables.  Any text is a name, names are told apart
by every character, and the last value given to a name is its value.  Bindings
are a value themselves: giving a variable a value makes new ones and leaves
all others as they were.
-/

namespace Lexis

/-- A look-up of a name that has no value. -/
structure UndefinedVariable where
  name : String
  deriving DecidableEq

/-- The words of a failed look-up. -/
def UndefinedVariable.message (missing : UndefinedVariable) : String :=
  "undefined variable '" ++ missing.name ++ "'"

/-- The values of variables, which are 64-bit integers. -/
structure Bindings where
  values : Std.TreeMap String Int64

namespace Bindings

/-- No variable has a value. -/
def empty : Bindings :=
  ⟨∅⟩

/-- Give a variable a value, in place of any that it had. -/
def bind (bindings : Bindings) (name : String) (value : Int64) : Bindings :=
  ⟨bindings.values.insert name value⟩

/-- The log record of a variable that is given a value. -/
def bindRecord (name : String) (value : Int64) : Log.Record :=
  ⟨.trace, "mini_env::environment", "bind", [("name", name), ("value", toString value)]⟩

/-- Give a variable a value, as an expression whose own value it is, and with
the log record that this is worth. -/
def assign (bindings : Bindings) (name : String) (value : Int64) :
    Int64 × Log.Record × Bindings :=
  (value, bindRecord name value, bindings.bind name value)

/-- The value of a variable. -/
def find (bindings : Bindings) (name : String) : Except UndefinedVariable Int64 :=
  match bindings.values[name]? with
  | some value => .ok value
  | none => .error ⟨name⟩

/-- Whether a variable has a value. -/
def contains (bindings : Bindings) (name : String) : Bool :=
  bindings.values.contains name

/-- The number of variables that have a value. -/
def size (bindings : Bindings) : Nat :=
  bindings.values.size

/-- Whether no variable has a value. -/
def isEmpty (bindings : Bindings) : Bool :=
  bindings.values.isEmpty

/-! ## Looking up after binding -/

@[simp]
theorem find_empty (name : String) : empty.find name = .error ⟨name⟩ := by
  simp [find, empty]

@[simp]
theorem find_bind_self (bindings : Bindings) (name : String) (value : Int64) :
    (bindings.bind name value).find name = .ok value := by
  simp [find, bind]

theorem find_bind_of_ne (bindings : Bindings) {name other : String} (differ : name ≠ other)
    (value : Int64) : (bindings.bind name value).find other = bindings.find other := by
  simp [find, bind, Std.TreeMap.getElem?_insert, differ]

/-! ## Counting after binding -/

@[simp]
theorem contains_empty (name : String) : empty.contains name = false := by
  simp [contains, empty]

@[simp]
theorem contains_bind (bindings : Bindings) (name other : String) (value : Int64) :
    (bindings.bind name value).contains other = (name == other || bindings.contains other) := by
  simp [contains, bind, Std.TreeMap.contains_insert, Std.compare_beq_eq_beq]

@[simp]
theorem size_empty : empty.size = 0 := by
  simp [size, empty]

/-- Only a name without a value adds to the number of variables. -/
theorem size_bind (bindings : Bindings) (name : String) (value : Int64) :
    (bindings.bind name value).size =
      if bindings.contains name then bindings.size else bindings.size + 1 := by
  simp [size, bind, contains, Std.TreeMap.size_insert]

theorem contains_iff {bindings : Bindings} {name : String} :
    bindings.contains name = true ↔ ∃ value, bindings.find name = .ok value := by
  rw [contains, Std.TreeMap.contains_eq_isSome_getElem?, Option.isSome_iff_exists, find]
  cases bindings.values[name]? with
  | none => simp
  | some value => simp

theorem isEmpty_iff {bindings : Bindings} : bindings.isEmpty = true ↔ bindings.size = 0 := by
  rw [isEmpty, Std.TreeMap.isEmpty_eq_size_eq_zero, beq_iff_eq, size]

end Bindings

end Lexis
