/-!
# Log records

A log record says that something happened: how severe it is, which part of the
library speaks, a message, and named fields.  It is written on one line.
-/

namespace Lexis.Log

/-- How severe a record is, from the most severe on. -/
inductive Severity where
  | error
  | warn
  | info
  | debug
  | trace
  deriving DecidableEq

namespace Severity

/-- The place of a severity; the more severe of two has the lower rank. -/
def rank : Severity → Nat
  | error => 1
  | warn => 2
  | info => 3
  | debug => 4
  | trace => 5

/-- The severity as it begins a line, five columns wide. -/
def label : Severity → String
  | error => "ERROR"
  | warn => " WARN"
  | info => " INFO"
  | debug => "DEBUG"
  | trace => "TRACE"

/-- The severities in the order of their ranks. -/
def all : List Severity :=
  [error, warn, info, debug, trace]

/-- Whether a record of this severity passes a threshold. -/
def reaches (severity threshold : Severity) : Bool :=
  severity.rank ≤ threshold.rank

end Severity

/-- One thing that happened. -/
structure Record where
  severity : Severity
  target : String
  message : String
  fields : List (String × String)
  deriving DecidableEq

/-- The names of the fields of a record.  Its message is a field, too. -/
def Record.fieldNames (record : Record) : List String :=
  "message" :: record.fields.map Prod.fst

/-- A field as it ends a line. -/
def fieldText (name value : String) : String :=
  " " ++ name ++ "=" ++ value

/-- The line of a record, without the time stamp that is written before it.
Nothing in it is escaped. -/
def Record.line (record : Record) : String :=
  record.severity.label ++ " " ++ record.target ++ ": " ++ record.message ++
    String.join (record.fields.map fun (name, value) => fieldText name value)

end Lexis.Log
