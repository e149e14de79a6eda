import Ingest.Decimal.Shortest

/-!
# Decimal/Layout — the text of a floating-point number

A value of magnitude at least `1e-5` and below `1e16` is written positionally and always with a
point; any other in scientific notation with a signed, unpadded exponent.
-/

namespace Ingest.Decimal

/-- Where positional notation ends. -/
structure Layout where
  /-- The least scientific exponent that is written positionally. -/
  leastPositional : Int
  /-- The first scientific exponent that is no longer written positionally. -/
  firstScientific : Int

/-- The layout of numbers inside rows: positional from `1e-5` up to, not including, `1e16`. -/
def rowLayout : Layout := ⟨-5, 16⟩

/-- `ds` with its decimal point after `point` digits. -/
def positional (ds : List Char) (point : Int) : List Char :=
  if point ≤ 0 then '0' :: '.' :: (List.replicate (-point).toNat '0' ++ ds)
  else
    let k := point.toNat
    if ds.length ≤ k then ds ++ List.replicate (k - ds.length) '0' ++ ['.', '0']
    else ds.take k ++ '.' :: ds.drop k

/-- `ds` as one digit, a fraction and an exponent. -/
def scientific (ds : List Char) (exponent : Int) : List Char :=
  let mantissa :=
    match ds with
    | d :: rest => if rest.isEmpty then [d] else d :: '.' :: rest
    | [] => []
  let sign := if exponent < 0 then '-' else '+'
  mantissa ++ 'e' :: sign :: (toString exponent.natAbs).toList

/-- The text of a finite value, with the shortest digits that read back. -/
def Layout.chars (layout : Layout) (x : Float) : List Char :=
  let sign := if isNegative x then ['-'] else []
  match ofFloat? x with
  | none => sign ++ ['0', '.', '0']
  | some d =>
    let ds := (toString d.digits).toList
    let point := d.exponent + ds.length
    if layout.leastPositional ≤ point - 1 ∧ point - 1 < layout.firstScientific then
      sign ++ positional ds point
    else sign ++ scientific ds (point - 1)

end Ingest.Decimal
