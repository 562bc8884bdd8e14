import Lexis.CommandLine

/-!
# The program

The outermost layer: it takes the arguments and the log setting, reads the one
file that is asked for, and writes the outcome.
-/

namespace Lexis

/-- The fault that a system error number stands for.  Some parts of the system
give the number negated. -/
def systemFault (code : UInt32) (details : String) : ReadFault :=
  let number := min code (0 - code)
  match number.toNat with
  | 20 => .notADirectory
  | 21 => .isADirectory
  | 36 => .nameTooLong
  | number => .other (details ++ " (os error " ++ toString number ++ ")")

/-- Why the system could not read a file. -/
def faultOfError : IO.Error → ReadFault
  | .noFileOrDirectory .. => .notFound
  | .permissionDenied .. => .permissionDenied
  | .inappropriateType _ code details => systemFault code details
  | .invalidArgument _ code details => systemFault code details
  | .resourceExhausted _ code details => systemFault code details
  | .otherError code details => systemFault code details
  | error => .other (toString error)

/-- Read a source file. -/
def readSource (path : String) : IO (Except ReadFault String) := do
  try
    return FileTree.decode (← IO.FS.readBinFile path)
  catch error =>
    return .error (faultOfError error)

/-- The file that the arguments ask for, if they ask for one. -/
def requestedFile (request : CommandLine.Request) : IO (Except ReadFault String) :=
  match request with
  | .file path => readSource path
  | _ => return .error .notFound

end Lexis

open Lexis in
/-- Run the command. -/
def main (arguments : List String) : IO UInt32 := do
  let file ← requestedFile (.ofArguments arguments)
  let outcome := CommandLine.run (fun _ => file) (← IO.getEnv "RUST_LOG") arguments
  let output ← IO.getStdout
  output.write outcome.standardOutput
  output.flush
  for line in outcome.standardError do
    IO.eprintln line
  return UInt32.ofNat outcome.exitCode
