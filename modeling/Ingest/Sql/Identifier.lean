import Ingest.Error

/-!
# Sql/Identifier — names that may be spliced into a statement

Names of schemas and columns cannot be bound as parameters. Only plain ASCII identifiers are let
through.
-/

namespace Ingest.Sql

/-- Whether an identifier may start with this character. -/
def isNameStart (c : Char) : Bool := c.isAlpha || c == '_'

/-- Whether an identifier may go on with this character. -/
def isNameChar (c : Char) : Bool := c.isAlphanum || c == '_'

/-- Whether a text is a plain identifier. -/
def isIdentifier (name : String) : Bool :=
  match name.toList with
  | [] => false
  | c :: rest => isNameStart c && rest.all isNameChar

/-- The error for a name that is no plain identifier. -/
def identifierError (name : String) : Error :=
  .config ("'" ++ name ++ "' is not a valid schema name (letters, digits and '_' only)")

/-- Refuses a name that is no plain identifier. -/
def checkIdentifier (name : String) : Except Error Unit :=
  if isIdentifier name then .ok () else .error (identifierError name)

end Ingest.Sql
