import Ingest.Text.Numeral

/-!
# Decimal/Reading — binary64 numbers from decimal digits

A decimal is `± digits · 10^exponent`. There are two ways to read one. `nearest?` rounds once, so it
finds the nearest binary64 number. `scaled?` rounds the leading digits, as many as fit 64 bits, then
multiplies or divides by a power of ten and rounds again, so it may miss the nearest number by a unit
in the last place; the two agree whenever the digits fit 53 bits and the exponent is at most 22 in
size.
-/

namespace Ingest.Decimal

open Text

/-- The number that digits stand for. -/
def digitsValue (ds : List Char) : Nat :=
  ds.foldl (fun n c => n * 10 + (c.toNat - '0'.toNat)) 0

/-- A number or its opposite. -/
def signed (negative : Bool) (x : Float) : Float := if negative then -x else x

/-- The binary64 number nearest to a decimal; `none` if it is not finite. -/
def nearest? (negative : Bool) (digits : Nat) (exponent : Int) : Option Float :=
  let size : Int := (toString digits).length + exponent
  if digits = 0 ∨ size < -400 then some (signed negative 0.0)
  else if 400 < size then none
  else
    let x := Float.ofScientific digits (decide (exponent < 0)) exponent.natAbs
    if x.isFinite then some (signed negative x) else none

/-- The longest run of digits, appended to the digits of `n`, that still fits 64 bits: its value,
and the digits after it. -/
def fit (n : Nat) : List Char → Nat × List Char
  | [] => (n, [])
  | c :: rest =>
    let m := n * 10 + (c.toNat - '0'.toNat)
    if m ≤ maxUnsigned64 then fit m rest else (n, c :: rest)

/-- The greatest exponent of a finite power of ten. -/
def greatestPower : Nat := 308

/-- A power of ten. -/
def powerOfTen (n : Nat) : Float := Float.ofScientific 1 false n

/-- A number divided by a power of ten, in steps if the power is not finite. -/
def scaleDown (x : Float) (n : Nat) : Float :=
  if n ≤ greatestPower then x / powerOfTen n
  else if x == 0.0 then x
  else scaleDown (x / powerOfTen greatestPower) (n - greatestPower)
termination_by n
decreasing_by simp only [greatestPower] at *; omega

/-- A number times a power of ten; `none` if it is not finite. -/
def scaleUp? (x : Float) (n : Nat) : Option Float :=
  if n ≤ greatestPower then
    let y := x * powerOfTen n
    if y.isFinite then some y else none
  else if x == 0.0 then some x
  else none

/-- Reads a decimal from digits that fit 64 bits, rounding twice. -/
def scaled? (negative : Bool) (digits : Nat) (exponent : Int) : Option Float :=
  let x := Float.ofNat digits
  let y := if 0 ≤ exponent then scaleUp? x exponent.toNat else some (scaleDown x exponent.natAbs)
  y.map (signed negative)

end Ingest.Decimal
