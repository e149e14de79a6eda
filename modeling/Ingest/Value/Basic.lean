import Ingest.OrderedMap

/-!
# Value/Basic — dynamic values of row fields

A row is schema-less: its fields hold JSON values. Integers of 64 bits and floating-point numbers
are told apart, since `1` and `1.0` are different values with different texts.
-/

namespace Ingest

/-- A JSON number. -/
inductive Number where
  /-- An integer in the signed or the unsigned 64-bit range. -/
  | int (n : Int)
  /-- A finite binary64 number. -/
  | float (x : Float)
deriving DecidableEq

/-- A JSON value. An object lists its members in ascending key order. -/
inductive Value where
  | null
  | bool (b : Bool)
  | number (n : Number)
  | string (s : String)
  | array (items : List Value)
  | object (members : List (String × Value))

instance : Inhabited Value := ⟨.null⟩

namespace Number

/-- The least 64-bit integer. -/
def minInt64 : Int := -0x8000000000000000

/-- The greatest signed 64-bit integer. -/
def maxInt64 : Int := 0x7fffffffffffffff

/-- The greatest unsigned 64-bit integer. -/
def maxUInt64 : Int := 0xffffffffffffffff

/-- Whether an integer fits 64 signed bits. -/
def fitsInt64 (n : Int) : Bool := minInt64 ≤ n && n ≤ maxInt64

/-- The number as a signed 64-bit integer. -/
def toInt64? : Number → Option Int
  | .int n => if fitsInt64 n then some n else none
  | .float _ => none

/-- The nearest binary64 number. -/
def toFloat : Number → Float
  | .int n => Float.ofInt n
  | .float x => x

end Number

namespace Value

/-- The value of a floating-point result; a result that is no finite number becomes null. -/
def ofFloat (x : Float) : Value :=
  if x.isFinite then .number (.float x) else .null

/-- The value of an integer. -/
def ofInt (n : Int) : Value := .number (.int n)

/-- The value of a natural number. -/
def ofNat (n : Nat) : Value := .number (.int n)

/-- The value of an optional text. -/
def ofString? : Option String → Value
  | some s => .string s
  | none => .null

/-- An object from its members in any order; the last member of a name wins. -/
def ofMembers (members : List (String × Value)) : Value :=
  .object (OrderedMap.ofList members).entries

/-- The member of an object with a given name. -/
def get? (v : Value) (name : String) : Option Value :=
  match v with
  | .object members => OrderedMap.findEntry name members
  | _ => none

end Value

end Ingest
