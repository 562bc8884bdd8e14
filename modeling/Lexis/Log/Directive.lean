import Lexis.Log.Threshold
import Lexis.Text.CharProperty
import Lexis.Text.Numeral
import Lexis.Text.Offset
import Lexis.Text.Pattern

/-!
# Log directives

A directive sets a threshold for some records: those of the targets that begin
with its own target text and that meet its condition.  It is written as a
level, or as a target with or without a level:

* `warn` is for every target;
* `lexer` lets everything through that begins so;
* `lexer=off` stops it.

A condition stands in brackets behind the target.  It asks for a field of the
record, or for a span around it: a stretch of work with a name and with values,
which a record may be part of.

* `lexer[{count}]=debug` is for the records that have a field `count`;
* `lexer[start]=debug` is for the records of a span `start`;
* `lexer[{count=3}]=debug` is for the records of a span with that value.
-/

namespace Lexis.Log

/-! ## Conditions -/

/-- What a directive asks of a record besides its target. -/
inductive Condition where
  | nothing
  | field (name : String)
  /-- The record is part of some span. -/
  | span
  deriving DecidableEq

namespace Condition

/-- Whether a record meets a condition.  Nothing that happens here is part of a
span. -/
def holds (record : Record) : Condition → Bool
  | nothing => true
  | field name => record.fieldNames.contains name
  | span => false

/-- The name of the field that is asked for; no name comes before all names. -/
def fieldName : Condition → String
  | field name => name
  | _ => ""

/-- Whether a text may be the value of a field. -/
def isValue (text : String) : Bool :=
  Text.isNumeral text || Text.isPattern text

/-- The condition in braces: a field, or the value that a field of a span has
to have. -/
def ofFieldText? (text : String) : Option Condition :=
  match Text.pieces '=' text with
  | _ :: value :: _ => if isValue value then some span else none
  | _ => some (field text)

end Condition

/-! ## Directives -/

/-- A threshold and the records for which it is. -/
structure Directive where
  /-- The text with which the targets begin. -/
  target : String
  condition : Condition
  threshold : Threshold

namespace Directive

/-- Whether a directive is for a record. -/
def covers (directive : Directive) (record : Record) : Bool :=
  directive.target.toList.isPrefixOf record.target.toList && directive.condition.holds record

/-- Whether a directive gives way to another one for the same record: to one
with a longer target, and among equally long ones to one with a later field
name.  Of two that ask the same, either gives way. -/
def givesWayTo (first second : Directive) : Bool :=
  let firstSize := first.target.utf8ByteSize
  let secondSize := second.target.utf8ByteSize
  if firstSize = secondSize then
    ! (decide (second.condition.fieldName < first.condition.fieldName))
  else
    firstSize < secondSize

/-- Which directive prevails when another one follows the one that is held. -/
def prevailing (held : Option Directive) (next : Directive) : Option Directive :=
  if held.all (·.givesWayTo next) then some next else held

/-! ## Reading -/

/-- Whether a directive may begin with a character. -/
def mayBegin (char : Char) : Bool :=
  Text.isAlphanumeric char || ['_', ':', '-', '['].contains char

/-- The threshold that a text gives from an offset on.  No level lets everything
through. -/
def thresholdFrom? (text : String) (offset : Nat) : Option Threshold := do
  let level ← Text.between? text offset text.utf8ByteSize
  if level.isEmpty then return some .trace else Threshold.ofText? level

/-- The threshold that stands behind a condition: at an offset and in these
characters. -/
def thresholdBehind? (text : String) (offset : Nat) : List Char → Option Threshold
  | [] => some (some .trace)
  | '=' :: _ => thresholdFrom? text (offset + 1)
  | _ => none

/-- The condition and the threshold that follow an opening bracket. -/
def conditionFrom? (text : String) (offset : Nat) (chars : List Char) :
    Option (Condition × Threshold) := do
  let (name, rest) := chars.span fun char => char ≠ ']' && char ≠ '\x7b'
  let stop := offset + Text.byteSize name
  let _ ← Text.between? text offset stop
  match rest with
  | ']' :: behind => return (.span, ← thresholdBehind? text (stop + 1) behind)
  | _ :: fieldAndRest =>
      let (field, rest) := fieldAndRest.span (· ≠ '\x7d')
      match field, rest with
      | _ :: _, '\x7d' :: ']' :: behind =>
          let fieldStop := stop + 1 + Text.byteSize field
          let condition ← Condition.ofFieldText? (← Text.between? text (stop + 1) fieldStop)
          let threshold ← thresholdBehind? text (fieldStop + 2) behind
          return (if name.isEmpty then condition else .span, threshold)
      | _, _ => none
  | [] => none

/-- Read one directive.  White space around it belongs to it, and so a level
with white space around it is a target of that spelling.  But the marks that
divide a directive are counted from its first character that is not white
space. -/
def ofText? (text : String) : Option Directive := do
  let chars := Text.trimmed text.toList
  if ! chars.head?.any mayBegin then none
  else
    let (head, rest) := chars.span fun char => char ≠ '=' && char ≠ '['
    let stop := Text.byteSize head
    match rest with
    | [] =>
        match Threshold.ofText? text with
        | some threshold => return ⟨"", .nothing, threshold⟩
        | none => return ⟨text, .nothing, some .trace⟩
    | mark :: behind =>
        let target ← Text.between? text 0 stop
        if mark = '=' then
          return ⟨target, .nothing, ← thresholdFrom? text (stop + 1)⟩
        else
          let (condition, threshold) ← conditionFrom? text (stop + 1) behind
          return ⟨target, condition, threshold⟩

end Directive

end Lexis.Log
