import Ingest.Text.Numeral

/-!
# Address/Ip — addresses of the Internet Protocol

An address of version 4 is four numbers up to 255. Names of servers may also write it as one to four
numbers with base 10, 8 or 16, of which the last one fills the bytes that are left. An address of
version 6 is eight groups of up to four hexadecimal digits, where `::` stands for at least one group of
zeros and an address of version 4 for the last two.
-/

namespace Ingest.Ip

open Text

/-! ## Version 4 -/

/-- A decimal number up to 255 without a needless zero in front. -/
def octet? (cs : List Char) : Option Nat :=
  if cs.isEmpty ∨ 3 < cs.length ∨ (1 < cs.length ∧ cs.head? = some '0') then none
  else (readDigits 255 0 cs).toOption

/-- The bytes of an address of version 4 in its usual form. -/
def version4? (cs : List Char) : Option (List Nat) := do
  let bytes ← (cs.splitOn '.').mapM octet?
  if bytes.length ≠ 4 then failure
  return bytes

/-- The number that digits of a base stand for; `none` if there are other characters. -/
def hostDigits? (base : Nat) (cs : List Char) : Option Nat := do
  let ds ← cs.mapM hexDigit?
  if ds.any (base ≤ ·) then failure
  return ds.foldl (fun n d => n * base + d) 0

/-- Reads a number with base 16 after `0x`, 8 after a zero, and 10 otherwise. Nothing after `0x` is
zero. -/
def hostNumber? : List Char → Option Nat
  | [] => none
  | '0' :: 'x' :: rest | '0' :: 'X' :: rest => hostDigits? 16 rest
  | '0' :: c :: rest => hostDigits? 8 (c :: rest)
  | cs => hostDigits? 10 cs

/-- The parts of the name of a server, without an empty one at its end. -/
def hostParts (cs : List Char) : List (List Char) :=
  let parts := cs.splitOn '.'
  if 1 < parts.length ∧ parts.getLast? = some [] then parts.dropLast else parts

/-- Whether the name of a server ends in a number, so that it must be an address of version 4. -/
def endsInNumber (cs : List Char) : Bool :=
  match (hostParts cs).getLast? with
  | none => false
  | some last => (!last.isEmpty && last.all Char.isDigit) || (hostNumber? last).isSome

/-- The bytes of an address of version 4 in the name of a server: at most four numbers, of which the
last one fills the bytes that are left. -/
def hostVersion4? (cs : List Char) : Option (List Nat) := do
  let numbers ← (hostParts cs).mapM hostNumber?
  let last ← numbers.getLast?
  let front := numbers.dropLast
  let left := 4 - front.length
  if 3 < front.length ∨ front.any (255 < ·) ∨ 1 <<< (8 * left) ≤ last then failure
  return front ++ (List.range left).reverse.map fun i => last >>> (8 * i) % 256

/-- The usual form of an address of version 4. -/
def version4Text (bytes : List Nat) : List Char :=
  ['.'].intercalate (bytes.map fun b => (toString b).toList)

/-! ## Version 6 -/

/-- The number that a group of an address of version 6 stands for. -/
def group? (cs : List Char) : Option Nat :=
  if cs.isEmpty ∨ 4 < cs.length then none else hostDigits? 16 cs

/-- The groups that texts stand for. The last one may be an address of version 4 that stands for two
(`mayEnd`). -/
def groups? (mayEnd : Bool) : List (List Char) → Option (List Nat)
  | [] => some []
  | [last] =>
    match group? last, version4? last with
    | some g, _ => some [g]
    | none, some [a, b, c, d] => if mayEnd then some [a * 256 + b, c * 256 + d] else none
    | _, _ => none
  | cs :: rest => do return (← group? cs) :: (← groups? mayEnd rest)

/-- The texts between the colons of a text; an empty text has none. -/
def betweenColons (cs : List Char) : List (List Char) := if cs.isEmpty then [] else cs.splitOn ':'

/-- What stands before and after the first `::` of a text. -/
def splitZeros? : List Char → Option (List Char × List Char)
  | [] => none
  | ':' :: ':' :: rest => some ([], rest)
  | c :: rest => (splitZeros? rest).map fun (before, after) => (c :: before, after)

/-- The eight groups of an address of version 6. -/
def version6? (cs : List Char) : Option (List Nat) := do
  let gs ← match splitZeros? cs with
    | none => groups? true (betweenColons cs)
    | some (before, after) => do
      let before ← groups? false (betweenColons before)
      let after ← groups? true (betweenColons after)
      let missing := 8 - before.length - after.length
      if missing = 0 then failure
      return before ++ List.replicate missing 0 ++ after
  if gs.length ≠ 8 then failure
  return gs

/-- Whether a text is an address of either version. -/
def isAddress (cs : List Char) : Bool := (version4? cs).isSome || (version6? cs).isSome

end Ingest.Ip
