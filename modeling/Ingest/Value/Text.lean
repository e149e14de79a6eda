import Ingest.Decimal.Layout
import Ingest.Value.Basic

/-!
# Value/Text — the compact text of a value

No blanks, members in their order, and only those characters escaped that JSON requires. The text is
built as a list of characters by recursion on the value.
-/

namespace Ingest

/-- A hexadecimal digit, in lower case. -/
def hexDigit (n : Nat) : Char :=
  if n < 10 then Char.ofNat ('0'.toNat + n) else Char.ofNat ('a'.toNat + (n - 10))

/-- One character inside a string. -/
def escapeChar (c : Char) : List Char :=
  if c = '"' then ['\\', '"']
  else if c = '\\' then ['\\', '\\']
  else if c = '\x08' then ['\\', 'b']
  else if c = '\x0c' then ['\\', 'f']
  else if c = '\n' then ['\\', 'n']
  else if c = '\r' then ['\\', 'r']
  else if c = '\t' then ['\\', 't']
  else if c.toNat < 0x20 then
    ['\\', 'u', '0', '0', hexDigit (c.toNat / 16), hexDigit (c.toNat % 16)]
  else [c]

/-- A string in quotes. -/
def quoteChars (s : String) : List Char := '"' :: (s.toList.flatMap escapeChar ++ ['"'])

/-- The decimal text of an integer. -/
def intChars (n : Int) : List Char :=
  if n < 0 then '-' :: (toString n.natAbs).toList else (toString n.natAbs).toList

/-- The text of a number. -/
def Number.chars : Number → List Char
  | .int n => intChars n
  | .float x => if x.isFinite then Decimal.rowLayout.chars x else ['n', 'u', 'l', 'l']

namespace Value

mutual

/-- The compact text of a value, as characters. -/
def chars : Value → List Char
  | .null => ['n', 'u', 'l', 'l']
  | .bool true => ['t', 'r', 'u', 'e']
  | .bool false => ['f', 'a', 'l', 's', 'e']
  | .number n => n.chars
  | .string s => quoteChars s
  | .array items => '[' :: (itemsChars items ++ [']'])
  | .object members => '{' :: (membersChars members ++ ['}'])

/-- The texts of the items of an array, with commas between them. -/
def itemsChars : List Value → List Char
  | [] => []
  | [v] => v.chars
  | v :: w :: rest => v.chars ++ ',' :: itemsChars (w :: rest)

/-- The texts of the members of an object, with commas between them. -/
def membersChars : List (String × Value) → List Char
  | [] => []
  | [(k, v)] => quoteChars k ++ ':' :: v.chars
  | (k, v) :: m :: rest => quoteChars k ++ ':' :: v.chars ++ ',' :: membersChars (m :: rest)

end

/-- The compact text of a value. -/
def text (v : Value) : String := String.ofList v.chars

end Value

end Ingest
