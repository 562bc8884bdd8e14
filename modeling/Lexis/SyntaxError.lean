import Lexis.Token

/-!
# Syntax errors

Asking for the current token, or requiring it to be a given one, can fail in
two ways: there is no token yet, or there is another one.
-/

namespace Lexis

/-- Why a required token is not there, with the byte offset that the scan had
reached. -/
inductive SyntaxError where
  | missing (position : Nat)
  | unexpected (position : Nat) (expected found : Token)
  deriving DecidableEq

namespace SyntaxError

/-- The offset that the scan had reached. -/
def position : SyntaxError → Nat
  | missing position => position
  | unexpected position _ _ => position

/-- The token that was required, or `none` where any token would do. -/
def expected? : SyntaxError → Option Token
  | missing _ => none
  | unexpected _ expected _ => some expected

/-- The token that was there, or `none` where there was none. -/
def found? : SyntaxError → Option Token
  | missing _ => none
  | unexpected _ _ found => some found

/-- The text of what was required. -/
def expectedText (error : SyntaxError) : String :=
  (error.expected?.map Token.text).getD "<ANY>"

/-- The text of what was there. -/
def foundText (error : SyntaxError) : String :=
  (error.found?.map Token.text).getD "<EMPTY>"

/-- The words of a syntax error. -/
def message (error : SyntaxError) : String :=
  "syntax error at position " ++ toString error.position ++
    ": expected " ++ error.expectedText ++ ", found " ++ error.foundText

end SyntaxError

end Lexis
