/-!
# Tokens

A token is a lexeme with its kind.  The kind of a number or an identifier is a
fixed word; a keyword or an operator is its own kind.
-/

namespace Lexis

/-- A kind and the piece of source text that has it. -/
structure Token where
  kind : String
  lexeme : String
  deriving DecidableEq

namespace Token

/-- The kind of every number. -/
def numberKind : String := "num"

/-- The kind of every identifier. -/
def identifierKind : String := "id"

/-- The token of a number. -/
def number (lexeme : String) : Token :=
  ⟨numberKind, lexeme⟩

/-- The token of an identifier. -/
def identifier (lexeme : String) : Token :=
  ⟨identifierKind, lexeme⟩

/-- The token of a keyword or an operator, whose kind is its spelling. -/
def symbol (spelling : String) : Token :=
  ⟨spelling, spelling⟩

/-- A token in angle brackets, kind before lexeme, with nothing escaped. -/
def text (token : Token) : String :=
  "<" ++ token.kind ++ ", " ++ token.lexeme ++ ">"

end Token

end Lexis
