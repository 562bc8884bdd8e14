import Lexis.Text.Pattern.Escape

/-!
# Switches

Three switches decide what a pattern may hold:

* `i` ignores case;
* `u`, which is on at first, makes the pattern speak of any character and not
  of ASCII alone;
* `x` lets white space and comments stand between the parts.

Patterns have no knowledge of scripts.  While `u` is on there is therefore no
case to ignore, no class that a letter names and no edge of a word.  While it
is off, nothing may match a part of a character, and so there are no
complements.
-/

namespace Lexis.Text.Pattern

/-- The switches at some place of a pattern. -/
structure Switches where
  ignoreCase : Bool
  unicode : Bool
  spaced : Bool

namespace Switches

/-- The switches at the beginning of a pattern. -/
def initial : Switches :=
  ⟨false, true, false⟩

/-! ## Setting -/

/-- What a list of switches may hold: the three, others that decide only what
is matched, and the sign before those that are turned off. -/
def listed : List Char :=
  ['i', 'm', 's', 'u', 'x', 'R', 'U', '-']

/-- Set the switches of a list. -/
def set (switches : Switches) (value : Bool) : List Char → Switches
  | [] => switches
  | '-' :: rest => switches.set false rest
  | 'i' :: rest => { switches with ignoreCase := value }.set value rest
  | 'u' :: rest => { switches with unicode := value }.set value rest
  | 'x' :: rest => { switches with spaced := value }.set value rest
  | _ :: rest => switches.set value rest

/-! ## What is allowed -/

/-- Whether a named class or its complement is allowed that speaks of ASCII
alone. -/
def allowsNamed (switches : Switches) (complement : Bool) : Bool :=
  if switches.unicode then ! switches.ignoreCase else ! complement

/-- Whether something is allowed outside a class. -/
def allowsItem (switches : Switches) : Escape → Bool
  | .literal _ => ! (switches.unicode && switches.ignoreCase)
  | .byte code => if switches.unicode then ! switches.ignoreCase else code < 0x80
  | .named complement => ! (switches.unicode || complement)
  | .anchor => true
  | .wordEdge => ! switches.unicode

/-- Whether something is allowed as a member of a class. -/
def allowsMember (switches : Switches) : Escape → Bool
  | .literal code | .byte code =>
      if switches.unicode then ! switches.ignoreCase else code < 0x80
  | .named complement => ! (switches.unicode || complement)
  | .anchor | .wordEdge => false

end Switches

end Lexis.Text.Pattern
