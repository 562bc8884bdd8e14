import Lexis.Log.Record

/-!
# Thresholds

A threshold is the least severity that passes, and there is one that stops
everything.  It is written by name in any case, or as the rank of the severity,
with `0` for nothing.
-/

namespace Lexis.Log

/-- The least severity that passes, or `none` where nothing does. -/
abbrev Threshold := Option Severity

namespace Threshold

/-- Whether a severity passes. -/
def admits (threshold : Threshold) (severity : Severity) : Bool :=
  threshold.any severity.reaches

/-- The threshold that a rank stands for; rank zero stops everything. -/
def ofRank? (rank : Nat) : Option Threshold :=
  if rank = 0 then some none else (Severity.all.find? (·.rank = rank)).map some

/-- The threshold of a decimal rank, which may have a plus sign. -/
def ofDigits? (text : List Char) : Option Threshold :=
  let digits := match text with
    | '+' :: rest => rest
    | other => other
  if digits ≠ [] ∧ digits.all Char.isDigit then
    ofRank? (Nat.ofDigitChars 10 digits 0)
  else
    none

/-- The threshold that a level text stands for. -/
def ofText? (text : String) : Option Threshold :=
  match text.toLower with
  | "off" => some none
  | "error" => some (some .error)
  | "warn" => some (some .warn)
  | "info" => some (some .info)
  | "debug" => some (some .debug)
  | "trace" => some (some .trace)
  | _ => ofDigits? text.toList

end Threshold

end Lexis.Log
