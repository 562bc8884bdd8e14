import Lexis.Dump
import Lexis.FileTree
import Lexis.Log.Filter

/-!
# The command line

The first argument decides what is asked for: help, the dump of a file, or the
dump of the argument itself.  Any further argument that the request does not
need is ignored.

Tokens go to the standard output.  Everything else goes to the standard error:
the usage, why a file cannot be read, and the log lines that a filter admits.
-/

namespace Lexis.CommandLine

/-! ## Requests -/

/-- What the arguments ask for. -/
inductive Request where
  /-- There is no argument. -/
  | nothing
  | help
  /-- A file is asked for, but not named. -/
  | unnamedFile
  | file (path : String)
  | text (source : String)
  deriving DecidableEq

/-- The request that the arguments make. -/
def Request.ofArguments : List String → Request
  | [] => .nothing
  | first :: rest =>
      if first = "--help" ∨ first = "-h" then .help
      else if first = "--file" ∨ first = "-f" then
        match rest with
        | [] => .unnamedFile
        | path :: _ => .file path
      else .text first

/-! ## Outcomes -/

/-- What a run leaves behind. -/
structure Outcome where
  exitCode : Nat
  standardOutput : ByteArray
  /-- The lines of the standard error. -/
  standardError : List String

/-- How the command is used. -/
def usage : List String :=
  ["mini token dumper",
    "",
    "Usage: mini <source>",
    "       mini --file <path>",
    "",
    "Prints each token as <kind, lexeme>. Illegal characters are",
    "reported on stderr and skipped. Set RUST_LOG to adjust logging."]

/-- How a file is asked for. -/
def fileUsage : List String :=
  ["Usage: mini --file <path>"]

/-- A run that only says something on the standard error. -/
def Outcome.notice (exitCode : Nat) (lines : List String) : Outcome :=
  ⟨exitCode, ByteArray.empty, lines⟩

/-- A run that dumps a source. -/
def Outcome.ofDump (filter : Log.Filter) (source : String) : Outcome :=
  let dump := Dump.ofSource source none
  let logged := filter.lines dump.records
  match dump.failure? with
  | none => ⟨0, dump.output, logged⟩
  | some failure => ⟨1, dump.output, logged ++ [failure.message outOfRoom]⟩

/-- The outcome of a request.  Files are read by `read`. -/
def respond (read : String → Except ReadFault String) (filter : Log.Filter) :
    Request → Outcome
  | .nothing => .notice 1 usage
  | .help => .notice 0 usage
  | .unnamedFile => .notice 1 fileUsage
  | .text source => .ofDump filter source
  | .file path =>
      match read path with
      | .ok source => .ofDump filter source
      | .error fault => .notice 1 [fault.message path]

/-- The outcome of a run with these arguments, under a log filter. -/
def runUnder (read : String → Except ReadFault String) (filter : Log.Filter)
    (arguments : List String) : Outcome :=
  respond read filter (.ofArguments arguments)

/-- The outcome of a run with these arguments.  The log setting is the text of
the log filter, if there is one. -/
def run (read : String → Except ReadFault String) (logSetting : Option String)
    (arguments : List String) : Outcome :=
  runUnder read (.ofSetting logSetting) arguments

end Lexis.CommandLine
