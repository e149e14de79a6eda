import Ingest.Text.Graphic
import Ingest.Text.Marks

/-!
# Text/Quoted — texts in quotes

A text is written between double quotes. What would end it, what cannot be seen, and what would change
the character before it is escaped.
-/

namespace Ingest.Text

/-- The hexadecimal digits of a number. -/
def hexText (n : Nat) : String := String.ofList (Nat.toDigits 16 n)

/-- A character as it is written between quotes. -/
def escaped (c : Char) : String :=
  if c = '\x00' then "\\0"
  else if c = '\t' then "\\t"
  else if c = '\n' then "\\n"
  else if c = '\r' then "\\r"
  else if c = '"' ∨ c = '\\' then String.ofList ['\\', c]
  else if c = ' ' ∨ (isGraphic c ∧ !extendsGrapheme c) then c.toString
  else "\\u\x7b" ++ hexText c.toNat ++ "\x7d"

/-- A text in quotes. -/
def quoted (s : String) : String := "\"" ++ String.join (s.toList.map escaped) ++ "\""

end Ingest.Text
