import Ingest.Value.Text

/-!
# Value/Indented — records on several lines

The text of results on the command line: one member or item a line, two blanks of indentation a
level. Members stand in the order of the record, which need not be alphabetical.
-/

namespace Ingest.Value

/-- A line break followed by `depth` levels of indentation. -/
def lineBreak (depth : Nat) : List Char := '\n' :: List.replicate (2 * depth) ' '

mutual

/-- The indented text of a value at a given depth. -/
def indentedChars (depth : Nat) : Value → List Char
  | .array [] => ['[', ']']
  | .array items => '[' :: (indentedItems (depth + 1) items ++ lineBreak depth ++ [']'])
  | .object [] => ['{', '}']
  | .object members => '{' :: (indentedMembers (depth + 1) members ++ lineBreak depth ++ ['}'])
  | v => v.chars

/-- The items of an array, each on a line of its own. -/
def indentedItems (depth : Nat) : List Value → List Char
  | [] => []
  | [v] => lineBreak depth ++ indentedChars depth v
  | v :: w :: rest =>
    lineBreak depth ++ indentedChars depth v ++ ',' :: indentedItems depth (w :: rest)

/-- The members of an object, each on a line of its own. -/
def indentedMembers (depth : Nat) : List (String × Value) → List Char
  | [] => []
  | [(k, v)] => lineBreak depth ++ quoteChars k ++ ':' :: ' ' :: indentedChars depth v
  | (k, v) :: m :: rest =>
    lineBreak depth ++ quoteChars k ++ ':' :: ' ' :: indentedChars depth v ++
      ',' :: indentedMembers depth (m :: rest)

end

/-- The indented text of a value. -/
def indented (v : Value) : String := String.ofList (indentedChars 0 v)

end Ingest.Value
