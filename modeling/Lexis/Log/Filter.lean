import Lexis.Log.Directive
import Lexis.Text.Offset

/-!
# Log filters

A filter is a list of directives, written with commas between them.  Of those
that are for a record, the one to which the others give way decides: a record
that does not reach its threshold is not written, and neither is one that no
directive is for.
-/

namespace Lexis.Log

/-- The directives of a filter; a later one replaces an earlier one that asks
the same. -/
structure Filter where
  directives : List Directive

namespace Filter

/-- The filter that admits every target from one severity on. -/
def atLeast (severity : Severity) : Filter :=
  ⟨[⟨"", .nothing, some severity⟩]⟩

/-- The directive that decides about a record. -/
def directiveFor? (filter : Filter) (record : Record) : Option Directive :=
  (filter.directives.filter (·.covers record)).foldl Directive.prevailing none

/-- Whether a record is written. -/
def admits (filter : Filter) (record : Record) : Bool :=
  (filter.directiveFor? record).any (·.threshold.admits record.severity)

theorem admits_atLeast (severity : Severity) (record : Record) :
    (atLeast severity).admits record = record.severity.reaches severity := by
  simp [atLeast, admits, directiveFor?, Directive.prevailing, Directive.covers, Condition.holds,
    Threshold.admits]

/-- The records that are written, in their order, one line each. -/
def lines (filter : Filter) (records : List Record) : List String :=
  (records.filter filter.admits).map Record.line

/-- Read a filter.  Empty directives are skipped. -/
def ofText? (text : String) : Option Filter :=
  ((Text.pieces ',' text).filter (! ·.isEmpty)).mapM Directive.ofText? |>.map Filter.mk

/-- The filter of an optional setting: warnings and worse, unless the setting
is there and can be read. -/
def ofSetting (setting : Option String) : Filter :=
  (setting.bind ofText?).getD (atLeast .warn)

end Filter

end Lexis.Log
