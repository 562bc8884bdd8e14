import Lexis.Text.Quoted
import Lexis.Token

/-!
# Scan events

A scan meets tokens, comments and illegal characters, one after another.  The
blanks between them are no events.  An illegal character does not stop a scan:
it belongs to no token and no comment, and is skipped with a warning.
-/

namespace Lexis

/-! ## Warnings -/

/-- An illegal character and the byte offset at which it stands. -/
structure Warning where
  position : Nat
  character : Char
  deriving DecidableEq

/-- The words of a warning. -/
def Warning.message (warning : Warning) : String :=
  "illegal character " ++ Text.quoted warning.character ++
    " at position " ++ toString warning.position

/-! ## Events -/

/-- Something that a scan has met, with the byte offsets that are reported. -/
inductive Event where
  /-- A token and the offset behind it. -/
  | token (token : Token) (stop : Nat)
  /-- A comment, from its first opening mark to behind its last closing one. -/
  | comment (start stop : Nat)
  | illegal (warning : Warning)
  deriving DecidableEq

namespace Event

/-- The token of an event that is one. -/
def token? : Event → Option Token
  | token found _ => some found
  | _ => none

/-- The warning of an event that is an illegal character. -/
def warning? : Event → Option Warning
  | illegal warning => some warning
  | _ => none

end Event

end Lexis
