/-!
# Decimal/Shortest — the fewest digits that read back

A finite binary64 value is `m · 2^q`. The decimals that round to it fill the interval between the
midpoints to its two neighbours, ends included exactly when `m` is even. `shortest` finds the
coarsest decimal grid with a point in that interval and takes the point of it nearest to the value.
-/

namespace Ingest.Decimal

/-- A positive decimal `digits · 10^exponent`. -/
structure Digits where
  /-- The digits as one number. -/
  digits : Nat
  /-- The power of ten that scales them. -/
  exponent : Int
deriving DecidableEq, Repr

/-- A positive value with the ends of the interval that rounds to it, over one denominator. -/
structure Target where
  /-- Numerator of the value. -/
  value : Nat
  /-- Numerator of the lower end. -/
  low : Nat
  /-- Numerator of the upper end. -/
  high : Nat
  /-- The common denominator. -/
  den : Nat
  /-- Whether the ends belong to the interval. -/
  closed : Bool

/-- Whether the decimal point `num / den` lies in the interval of `t`. -/
def Target.holds (t : Target) (num den : Nat) : Bool :=
  if t.closed then t.low * den ≤ num * t.den && num * t.den ≤ t.high * den
  else t.low * den < num * t.den && num * t.den < t.high * den

/-- The interval of `m · 2^q`; `narrow` says that the neighbour below is at half the distance. -/
def Target.ofBinary (m : Nat) (q : Int) (narrow : Bool) : Target :=
  let up := if 0 ≤ q then 1 <<< q.toNat else 1
  let den := 4 * (if 0 ≤ q then 1 else 1 <<< (-q).toNat)
  { value := 4 * m * up
    low := (if narrow then 4 * m - 1 else 4 * m - 2) * up
    high := (4 * m + 2) * up
    den := den
    closed := m % 2 == 0 }

/-- The least `j ≥ start` with `den ≤ num · 10^j`, searched for `fuel` steps. -/
def scaleUp (num den : Nat) : Nat → Nat → Nat
  | 0, start => start
  | fuel + 1, start => if den ≤ num * Nat.pow 10 start then start else scaleUp num den fuel (start + 1)

/-- The number of digits before the decimal point of `num / den`; for a value below one, minus the
number of zeros after the point. -/
def pointOf (num den : Nat) : Int :=
  if den ≤ num then (toString (num / den)).length else 1 - (scaleUp num den 400 1 : Int)

/-- The point nearest to the value on the grid of `10^exponent`, if one lies in the interval. -/
def onGrid? (t : Target) (exponent : Int) : Option Digits :=
  let up := if 0 ≤ exponent then Nat.pow 10 exponent.toNat else 1
  let down := if 0 ≤ exponent then 1 else Nat.pow 10 (-exponent).toNat
  let below := t.value * down / (t.den * up)
  let above := below + 1
  let okBelow := 0 < below && t.holds (below * up) down
  let okAbove := t.holds (above * up) down
  -- distances to the value, over the common denominator `t.den * down`
  let toBelow := t.value * down - below * up * t.den
  let toAbove := above * up * t.den - t.value * down
  if okBelow && (!okAbove || toBelow < toAbove || (toBelow == toAbove && below % 2 == 0)) then
    some ⟨below, exponent⟩
  else if okAbove then some ⟨above, exponent⟩
  else none

/-- The same decimal with a last digit of zero moved into the exponent. A grid's first hit ends in a
zero only if it is a power of ten. -/
def Digits.trim (d : Digits) : Digits :=
  if d.digits % 10 = 0 then ⟨d.digits / 10, d.exponent + 1⟩ else d

/-- Tries grids of `count`, `count + 1`, … digits. -/
def searchGrids (t : Target) (point : Int) : Nat → Nat → Digits
  | 0, count => ⟨t.value / t.den, point - count⟩
  | fuel + 1, count =>
    match onGrid? t (point - count) with
    | some d => d.trim
    | none => searchGrids t point fuel (count + 1)

/-- The shortest decimal that rounds to `m · 2^q`, nearest to it among those. -/
def shortest (m : Nat) (q : Int) (narrow : Bool) : Digits :=
  let t := Target.ofBinary m q narrow
  searchGrids t (pointOf t.value t.den) 17 1

/-- The shortest digits of a finite value, its sign left aside; `none` for zero. -/
def ofFloat? (x : Float) : Option Digits :=
  let bits : Nat := x.toBits.toNat
  let fraction : Nat := bits % 1 <<< 52
  let biased : Nat := bits >>> 52 % 1 <<< 11
  if biased = 0 ∧ fraction = 0 then none
  else if biased = 0 then some (shortest fraction (-1074) false)
  else
    some (shortest (1 <<< 52 + fraction) (Int.ofNat biased - 1075) (fraction == 0 && decide (1 < biased)))

/-- Whether the sign bit is set. -/
def isNegative (x : Float) : Bool := 1 <<< 63 ≤ x.toBits.toNat

end Ingest.Decimal
