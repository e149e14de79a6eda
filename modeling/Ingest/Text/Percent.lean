import Ingest.Text.Numeral
import Ingest.Text.Utf8

/-!
# Text/Percent — bytes written with percent signs

A percent sign and two hexadecimal digits stand for a byte; any other percent sign stands for itself.
A form is a list of names and values between `&`, where `+` stands for a space.
-/

namespace Ingest.Text

/-- The byte that two hexadecimal digits stand for. -/
def hexPair? (x y : UInt8) : Option UInt8 := do
  let high ← hexDigit? (Char.ofNat x.toNat)
  let low ← hexDigit? (Char.ofNat y.toNat)
  return UInt8.ofNat (16 * high + low)

/-- The bytes that a text with percent signs stands for. -/
def decodePercent : List UInt8 → List UInt8
  | [] => []
  | p :: x :: y :: rest =>
    match if p = 0x25 then hexPair? x y else none with
    | some b => b :: decodePercent rest
    | none => p :: decodePercent (x :: y :: rest)
  | b :: rest => b :: decodePercent rest

/-- The text of a name or a value in a form. -/
def formText (cs : List Char) : String :=
  let spaced := cs.map fun c => if c = '+' then ' ' else c
  ofUtf8Loosely (decodePercent (utf8Bytes spaced))

/-- The names and the values of a form. A value is what follows the first `=`. -/
def formPairs (form : List Char) : List (String × String) :=
  let parts := (form.splitOn '&').filter fun part => !part.isEmpty
  parts.map fun part =>
    (formText (part.takeWhile (· != '=')), formText ((part.dropWhile (· != '=')).drop 1))

end Ingest.Text
