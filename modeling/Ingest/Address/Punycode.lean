import Ingest.Text.Numeral

/-!
# Address/Punycode — labels written with ASCII characters only

A label is written as its ASCII characters, a `-`, and a number for each other character. The numbers
have base 36 and as many digits as they need; each tells how far to go on through all pairs of a
character and a place for it.
-/

namespace Ingest.Punycode

open Text

/-- The base of the numbers. -/
def base : Nat := 36

/-- The value of a digit: letters first, then decimal digits. -/
def digit? (c : Char) : Option Nat :=
  if c.isLower then some (c.toNat - 'a'.toNat)
  else if c.isUpper then some (c.toNat - 'A'.toNat)
  else if c.isDigit then some (c.toNat - '0'.toNat + 26)
  else none

/-- The digit of a value. -/
def digitOf (d : Nat) : Char :=
  Char.ofNat (if d < 26 then 'a'.toNat + d else '0'.toNat + (d - 26))

/-- The least value of a digit that is not the last one of its number. -/
def threshold (place bias : Nat) : Nat := max 1 (min 26 (place - bias))

theorem threshold_pos (place bias : Nat) : 0 < threshold place bias := by
  unfold threshold
  omega

/-- Divides a step until it is small, and tells how often with the rest. -/
def shrink (step : Nat) (times : Nat) : Nat × Nat :=
  if 455 < step then shrink (step / 35) (times + 1) else (step, times)
termination_by step
decreasing_by exact Nat.div_lt_self (by omega) (by decide)

/-- The bias after a step, with so many characters. -/
def adapt (step characters : Nat) (isFirst : Bool) : Nat :=
  let step := if isFirst then step / 700 else step / 2
  let (step, times) := shrink (step + step / characters) 0
  base * times + 36 * step / (step + 38)

/-! ## Reading -/

/-- Reads a number onto `value`; what it returns must stay below the bound of 32 bits. -/
def number? (bias : Nat) : List Char → (place weight value : Nat) → Option (Nat × List Char)
  | [], _, _, _ => none
  | c :: rest, place, weight, value => do
    let d ← digit? c
    let value := value + d * weight
    if maxUnsigned32 < value then failure
    let t := threshold place bias
    if d < t then return (value, rest)
    let weight := weight * (base - t)
    if maxUnsigned32 < weight then failure
    number? bias rest (place + base) weight value

/-- Reads a number for each character, and puts the characters in their places. -/
def insertAll : Nat → List Char → (bias code place : Nat) → List Char → Option (List Char)
  | 0, _, _, _, _, _ => none
  | _, [], _, _, _, label => some label
  | fuel + 1, cs, bias, code, place, label => do
    let (next, rest) ← number? bias cs base 1 place
    let room := label.length + 1
    let code := code + next / room
    if !code.isValidChar then failure
    insertAll fuel rest (adapt (next - place) room (place = 0)) code (next % room + 1)
      (label.take (next % room) ++ Char.ofNat code :: label.drop (next % room))

/-- The label that some characters stand for. -/
def decode? (cs : List Char) : Option (List Char) :=
  let tail := (cs.reverse.takeWhile (· != '-')).reverse
  let front := cs.take (cs.length - tail.length)
  if front = ['-'] then none
  else insertAll (tail.length + 1) tail 72 128 0 front.dropLast

/-! ## Writing -/

/-- The digits of a number. -/
def digitsOf (bias value place : Nat) : List Char :=
  let t := threshold place bias
  if value < t then [digitOf value]
  else
    digitOf (t + (value - t) % (base - t)) ::
      digitsOf bias ((value - t) / (base - t)) (place + base)
termination_by value
decreasing_by
  have : 0 < threshold place bias := threshold_pos place bias
  have := Nat.div_le_self (value - threshold place bias) (base - threshold place bias)
  omega

/-- How far a label has been written. -/
structure Progress where
  /-- How many pairs of a character and a place have been passed since the last number. -/
  step : Nat := 0
  /-- The bias of the next number. -/
  bias : Nat := 72
  /-- How many characters have been written. -/
  written : Nat
  /-- The numbers. -/
  numbers : List Char := []
deriving DecidableEq, Repr

/-- Passes the place of a character, on the way through all places for the character `code`. -/
def Progress.pass (code : Nat) (p : Progress) (c : Char) : Progress :=
  if c.toNat < code then { p with step := p.step + 1 }
  else if c.toNat = code then
    { step := 0
      bias := adapt p.step (p.written + 1) p.numbers.isEmpty
      written := p.written + 1
      numbers := p.numbers ++ digitsOf p.bias p.step base }
  else p

/-- Writes the characters with the numbers `codes`, which increase and start at `next` at least. -/
def Progress.write (label : List Char) (next : Nat) (p : Progress) : List Nat → Progress
  | [] => p
  | code :: codes =>
    let p := { p with step := p.step + (code - next) * (p.written + 1) }
    let p := label.foldl (Progress.pass code) p
    Progress.write label (code + 1) { p with step := p.step + 1 } codes

/-- Writes a label. -/
def encode (label : List Char) : List Char :=
  let front := label.filter (·.toNat < 128)
  let codes := ((label.map Char.toNat).filter (128 ≤ ·)).mergeSort.eraseDups
  let p := Progress.write label 128 { written := front.length } codes
  if front.isEmpty then p.numbers else front ++ '-' :: p.numbers

end Ingest.Punycode
