import Lexis.Text.CharProperty
import Lexis.Text.Pattern.Nesting
import Lexis.Text.Pattern.Switches

/-!
# Patterns

A pattern is a regular expression.  It is made of literals, classes in
brackets, groups in parentheses, branches, anchors and the repetition marks
`*`, `+` and `?`, one of which may be followed by `?`.  A group may have a name
or switches.  No brace closes a repetition count: an opening brace belongs into
a class or behind a backslash.

Here it is only decided whether a text is a pattern (`isPattern`); nothing is
matched.  The text is read a character at a time.  A reader knows what it has to
expect next, in which groups and classes it is, and how deep they are nested.
Some characters are decided by those that follow, and so a step may look ahead.
-/

namespace Lexis.Text.Pattern

/-! ## Readers -/

/-- Where an escape stands. -/
inductive Slot where
  | item
  | member
  /-- Behind the dash of a range that begins with a code. -/
  | rangeEnd (low : Nat)

/-- What a reader expects. -/
inductive Mode where
  /-- An item or a repetition mark, which needs an item to repeat. -/
  | item (repeatable : Bool)
  /-- The mark that makes a repetition as short as possible. -/
  | shortMark
  /-- What follows an opening parenthesis. -/
  | group
  /-- What follows `(?`. -/
  | extension
  /-- What follows `(?P`. -/
  | beforeName
  /-- The rest of a group's name; what has been read has its last character
  first. -/
  | name (read : List Char)
  /-- The rest of a list of switches, likewise. -/
  | switches (read : List Char)
  /-- What follows an opening bracket. -/
  | opened
  /-- A member of a class that has none yet, or only dashes. -/
  | firstMember
  | member
  /-- The second character of an operator. -/
  | operator
  /-- So many more characters of a class within a class that has a name. -/
  | named (count : Nat)
  /-- What follows a member, which has a code if it may begin a range. -/
  | behindMember (code : Option Nat)
  | rangeEnd (low : Nat)
  /-- What follows a backslash. -/
  | escape (slot : Slot)
  /-- The digits of a character's number that are missing. -/
  | number (slot : Slot) (digits missing value : Nat)

/-- A pattern in the middle of being read. -/
structure Reader where
  mode : Mode
  switches : Switches
  group : Group
  /-- The groups around, with the switches to go back to. -/
  outerGroups : List (Switches × Group)
  names : List (List Char)
  /-- The class that is being read and those around it. -/
  classes : List ClassPart
  inComment : Bool

namespace Reader

/-- Nothing has been read. -/
def start : Reader :=
  ⟨.item false, .initial, .empty, [], [], [], false⟩

/-- Whether a pattern may end. -/
def complete (reader : Reader) : Bool :=
  match reader.mode with
  | .item _ => reader.outerGroups.isEmpty && reader.group.level ≤ levelLimit
  | _ => false

/-- Go on in another mode. -/
def goOn (reader : Reader) (mode : Mode) : Reader :=
  { reader with mode }

/-- Go on if something is allowed. -/
def goOnIf (reader : Reader) (allowed : Bool) (mode : Mode) : Option Reader :=
  if allowed then some (reader.goOn mode) else none

/-! ### Parts -/

/-- Add an item. -/
def addItem (reader : Reader) (level : Nat) : Reader :=
  { reader with mode := .item true, group := reader.group.addItem level }

/-- Add a member to the class that is being read. -/
def addMember (reader : Reader) (level : Nat) (mode : Mode) : Reader :=
  match reader.classes with
  | [] => reader.goOn mode
  | part :: outer => { reader with mode, classes := part.addMember level :: outer }

/-- Begin another branch. -/
def nextBranch (reader : Reader) : Reader :=
  { reader with mode := .item false, group := reader.group.nextBranch }

/-- Repeat the last item, as briefly as possible if there is a mark for it. -/
def repeatLast (reader : Reader) (isShort : Bool) : Reader :=
  { reader with
    mode := if isShort then .shortMark else .item true
    group := reader.group.repeatLast }

/-- Enter a group with switches of its own. -/
def enterGroup (reader : Reader) (inner : Switches) : Reader :=
  { reader with
    mode := .item false
    switches := inner
    group := .empty
    outerGroups := (reader.switches, reader.group) :: reader.outerGroups }

/-- Leave a group, which is an item of the one around it. -/
def leaveGroup? (reader : Reader) : Option Reader :=
  match reader.outerGroups with
  | [] => none
  | (switches, outer) :: outerGroups =>
      some ({ reader with switches, group := outer, outerGroups }.addItem
        (reader.group.level + 1))

/-- Set switches for the rest of the group. -/
def setSwitches (reader : Reader) (switches : Switches) : Reader :=
  { reader.addItem 0 with mode := .item false, switches }

/-- Enter a class. -/
def enterClass (reader : Reader) : Reader :=
  { reader with mode := .opened, classes := .empty :: reader.classes }

/-- Leave a class, which is a member of the one around it or else an item. -/
def leaveClass (reader : Reader) : Reader :=
  match reader.classes with
  | [] => reader
  | [part] => { reader with classes := [] }.addItem (part.level + 1)
  | part :: outer => { reader with classes := outer }.addMember (part.level + 1) .member

/-- Go on behind an operator between members of a class. -/
def nextOperand (reader : Reader) : Reader :=
  match reader.classes with
  | [] => reader
  | part :: outer => { reader with mode := .operator, classes := part.nextOperand :: outer }

/-- Put a literal or another escape where it stands. -/
def put (reader : Reader) (escape : Escape) : Slot → Option Reader
  | .item => if reader.switches.allowsItem escape then some (reader.addItem 0) else none
  | .member =>
      if reader.switches.allowsMember escape then
        some (reader.addMember 0 (.behindMember escape.code?))
      else
        none
  | .rangeEnd low => do
      let high ← escape.code?
      reader.goOnIf (low ≤ high && reader.switches.allowsMember escape) .member

/-- Put a character that stands for itself. -/
def putChar (reader : Reader) (char : Char) (slot : Slot) : Option Reader :=
  reader.put (.literal char.toNat) slot

/-! ### Items -/

/-- Read an item or a repetition mark. -/
def readItem (reader : Reader) (repeatable : Bool) (char : Char) (rest : List Char) :
    Option Reader :=
  match char with
  | '(' => some (reader.goOn .group)
  | ')' => reader.leaveGroup?
  | '[' => some reader.enterClass
  | '|' => some reader.nextBranch
  | '*' | '+' | '?' =>
      if repeatable then some (reader.repeatLast (rest.head? = some '?')) else none
  | '\x7b' => none
  | '\\' => some (reader.goOn (.escape .item))
  | '^' | '$' => some (reader.addItem 0)
  | '.' => if reader.switches.unicode then some (reader.addItem 0) else none
  | _ => reader.putChar char .item

/-! ### Groups -/

/-- Whether a group's name may go on with a character. -/
def nameGoesOn (read : List Char) (char : Char) : Bool :=
  if read.isEmpty then char == '_' || isAlphabetic char
  else ['_', '.', '[', ']'].contains char || isAlphanumeric char

/-- Read a part of a group's name.  No two groups have the same name. -/
def readName (reader : Reader) (read : List Char) (char : Char) : Option Reader :=
  if char = '>' then
    if read.isEmpty || reader.names.contains read then none
    else some { reader.enterGroup reader.switches with names := read :: reader.names }
  else
    reader.goOnIf (nameGoesOn read char) (.name (char :: read))

/-- Read a part of a list of switches.  None is there twice, and none is
missing behind the sign that turns switches off.  The list belongs to a group
of its own, or else to the rest of the group in which it stands. -/
def readSwitches (reader : Reader) (read : List Char) (char : Char) : Option Reader :=
  let switches := reader.switches.set true read.reverse
  match char with
  | ':' => if read.head? = some '-' then none else some (reader.enterGroup switches)
  | ')' =>
      if read.isEmpty || read.head? = some '-' then none
      else some (reader.setSwitches switches)
  | _ =>
      reader.goOnIf (Switches.listed.contains char && ! read.contains char)
        (.switches (char :: read))

/-- Read what follows `(?`. -/
def readExtension (reader : Reader) (char : Char) : Option Reader :=
  match char with
  | 'P' => some (reader.goOn .beforeName)
  | '<' => some (reader.goOn (.name []))
  | _ => reader.readSwitches [] char

/-! ### Classes -/

/-- The names that a class within a class may have. -/
def classNames : List String :=
  ["alnum", "alpha", "ascii", "blank", "cntrl", "digit", "graph", "lower", "print", "punct",
    "space", "upper", "word", "xdigit"]

/-- Whether characters behind an opening bracket name a class, as in
`[:alpha:]`, whether it is a complement, and how many characters that takes. -/
def namedClass? : List Char → Option (Bool × Nat)
  | ':' :: rest =>
      let complement := rest.head? = some '^'
      let rest := if complement then rest.drop 1 else rest
      let name := rest.takeWhile (· ≠ ':')
      if [':', ']'].isPrefixOf (rest.drop name.length) &&
          classNames.contains (String.ofList name) then
        some (complement, name.length + if complement then 4 else 3)
      else
        none
  | _ => none

/-- Enter a class within a class, or pass over one that has a name. -/
def enterInnerClass? (reader : Reader) (rest : List Char) : Option Reader :=
  match namedClass? rest with
  | none => some reader.enterClass
  | some (complement, count) =>
      if reader.switches.allowsNamed complement then
        some (reader.addMember 0 (.named count))
      else
        none

/-- Read a member of a class, an operator or the end of the class. -/
def readMember (reader : Reader) (char : Char) (rest : List Char) : Option Reader :=
  match char with
  | '[' => reader.enterInnerClass? rest
  | ']' => some reader.leaveClass
  | '\\' => some (reader.goOn (.escape .member))
  | _ =>
      if ['&', '-', '~'].contains char && rest.head? = some char then some reader.nextOperand
      else reader.putChar char .member

/-- Whether a class has no members yet. -/
def inEmptyClass (reader : Reader) : Bool :=
  reader.classes.head?.any (·.members.isEmpty)

/-- Read a member at the beginning of a class, where dashes are members and a
closing bracket is one, too, if it is the first. -/
def readFirstMember (reader : Reader) (char : Char) (rest : List Char) : Option Reader :=
  if char = '-' then (reader.putChar char .member).map (·.goOn .firstMember)
  else if char = ']' && reader.inEmptyClass then
    (reader.putChar char .member).map (·.goOn .member)
  else reader.readMember char rest

/-- The character that seems to follow: white space and a comment's mark are
passed over where they may stand, but the words of a comment are not. -/
def ahead (reader : Reader) (rest : List Char) : Option Char :=
  if reader.switches.spaced then
    match rest.dropWhile isWhiteSpace with
    | '#' :: comment => (comment.dropWhile isWhiteSpace).head?
    | visible => visible.head?
  else
    rest.head?

/-- Read what follows a member of a class.  A dash makes a range of it, unless
the class ends there or another dash makes it an operator. -/
def readBehindMember (reader : Reader) (code : Option Nat) (char : Char) (rest : List Char) :
    Option Reader :=
  let following := reader.ahead rest
  if char = '-' && following ≠ some ']' && following ≠ some '-' then
    code.map fun low => reader.goOn (.rangeEnd low)
  else
    reader.readMember char rest

/-! ### Escapes -/

/-- Read what follows a backslash. -/
def readEscape (reader : Reader) (slot : Slot) (char : Char) : Option Reader :=
  match Escape.digitCount? char with
  | some digits => some (reader.goOn (.number slot digits digits 0))
  | none => do reader.put (← Escape.ofChar? char) slot

/-- Read a digit of a character's number. -/
def readDigit (reader : Reader) (slot : Slot) (digits missing value : Nat) (char : Char) :
    Option Reader := do
  let digit ← Escape.hexadecimal? char
  let value := 16 * value + digit
  if missing ≤ 1 then reader.put (← Escape.ofNumber? digits value) slot
  else return reader.goOn (.number slot digits (missing - 1) value)

/-! ### All of it -/

/-- Read a character that counts, with the rest of the text to look at. -/
def read (reader : Reader) (char : Char) (rest : List Char) : Option Reader :=
  match reader.mode with
  | .item repeatable => reader.readItem repeatable char rest
  | .shortMark => some (reader.goOn (.item true))
  | .group =>
      if char = '?' then some (reader.goOn .extension)
      else (reader.enterGroup reader.switches).readItem false char rest
  | .extension => reader.readExtension char
  | .beforeName => reader.goOnIf (char = '<') (.name [])
  | .name read => reader.readName read char
  | .switches read => reader.readSwitches read char
  | .opened =>
      if char = '^' then reader.goOnIf reader.switches.unicode .firstMember
      else reader.readFirstMember char rest
  | .firstMember => reader.readFirstMember char rest
  | .member => reader.readMember char rest
  | .operator => some (reader.goOn .member)
  | .named count => some (reader.goOn (if count ≤ 1 then .member else .named (count - 1)))
  | .behindMember code => reader.readBehindMember code char rest
  | .rangeEnd low =>
      if char = '\\' then some (reader.goOn (.escape (.rangeEnd low)))
      else reader.putChar char (.rangeEnd low)
  | .escape slot => reader.readEscape slot char
  | .number slot digits missing value => reader.readDigit slot digits missing value char

/-- Whether white space and comments may stand before the next character. -/
def allowsSpace (reader : Reader) : Bool :=
  reader.switches.spaced &&
    match reader.mode with
    | .item _ | .group | .opened | .firstMember | .member | .behindMember _ | .rangeEnd _
    | .number .. => true
    | _ => false

/-- Read a character, if a pattern can go on with it. -/
def step (reader : Reader) (char : Char) (rest : List Char) : Option Reader :=
  if reader.inComment then some { reader with inComment := char ≠ '\n' }
  else if reader.allowsSpace && char = '#' then some { reader with inComment := true }
  else if reader.allowsSpace && isWhiteSpace char then some reader
  else reader.read char rest

/-- Read characters to their end. -/
def readAll (reader : Reader) : List Char → Option Reader
  | [] => some reader
  | char :: rest => (reader.step char rest).bind (·.readAll rest)

end Reader

end Lexis.Text.Pattern

namespace Lexis.Text

/-- Whether a text is a pattern. -/
def isPattern (text : String) : Bool :=
  (Pattern.Reader.start.readAll text.toList).any Pattern.Reader.complete

end Lexis.Text
