import Ingest.Text.Blank
import Ingest.Text.Numeral
import Ingest.Time.Calendar
import Ingest.Time.Instant

/-!
# Time/Reading — reading instants

Two readers for RFC 3339 stamps. `ofStamp` is strict and says what is wrong. `ofRelaxedStamp?`
also takes blanks before each part, parts with fewer digits, signed years of any length, and the
word `UTC`; it is the form accepted inside data.
-/

namespace Ingest.Instant

open Text Time

/-- Why a text is not a stamp. -/
inductive ReadError where
  | tooShort
  | invalid
  | outOfRange
  | trailing
deriving DecidableEq, Repr

/-- The wording of a fault. -/
def ReadError.message : ReadError → String
  | .tooShort => "premature end of input"
  | .invalid => "input contains invalid characters"
  | .outOfRange => "input is out of range"
  | .trailing => "trailing input"

/-! ## Parts

Each reader answers with what it read and the characters after it. -/

/-- Reads a run of at least one and at most `most` digits, onto the value `acc`. -/
def readRun (acc : Nat) : Nat → List Char → Nat × List Char
  | 0, cs => (acc, cs)
  | _ + 1, [] => (acc, [])
  | most + 1, c :: cs =>
    match digit? c with
    | some d => readRun (acc * 10 + d) most cs
    | none => (acc, c :: cs)

/-- Reads at least one and at most `most` digits. -/
def readNumber (most : Nat) (cs : List Char) : Except ReadError (Nat × List Char) :=
  match cs with
  | [] => .error .tooShort
  | c :: _ => if (digit? c).isNone then .error .invalid else .ok (readRun 0 most cs)

/-- Reads exactly `count` digits; a text of fewer bytes is too short for them. -/
def readExactly (count : Nat) (cs : List Char) : Except ReadError (Nat × List Char) :=
  if (cs.take count).foldr (fun c n => c.utf8Size + n) 0 < count then .error .tooShort
  else if (cs.take count).all fun c => (digit? c).isSome then .ok (readRun 0 count cs)
  else .error .invalid

/-- Reads one given character. -/
def readSymbol (symbol : Char) : List Char → Except ReadError (Unit × List Char)
  | [] => .error .tooShort
  | c :: cs => if c = symbol then .ok ((), cs) else .error .invalid

/-- Reads the character between date and time. -/
def readSeparator : List Char → Except ReadError (Unit × List Char)
  | [] => .error .tooShort
  | c :: cs => if c = 'T' ∨ c = 't' ∨ c = ' ' then .ok ((), cs) else .error .invalid

/-- Reads an optional fraction as nanoseconds; digits after the ninth are ignored. -/
def readFraction (cs : List Char) : Except ReadError (Nat × List Char) :=
  match cs with
  | '.' :: rest => do
    let (value, after) ← readNumber 9 rest
    let count := rest.length - after.length
    return (value * Nat.pow 10 (9 - count), after.dropWhile fun c => (digit? c).isSome)
  | _ => .ok (0, cs)

/-- Reads an offset from UTC in seconds. `skip` reads what stands between hours and minutes. -/
def readOffset (skip : List Char → Except ReadError (Unit × List Char)) (cs : List Char) :
    Except ReadError (Int × List Char) := do
  match cs with
  | [] => .error .tooShort
  | c :: rest =>
    if c = 'Z' ∨ c = 'z' then return (0, rest)
    let sign : Int ←
      if c = '+' then pure 1
      else if c = '-' ∨ c = '\u2212' then pure (-1)
      else .error .invalid
    let (hours, rest) ← readExactly 2 rest
    let (_, rest) ← skip rest
    let (minutes, rest) ← readExactly 2 rest
    if 60 ≤ minutes then .error .outOfRange
    return (sign * (hours * 3600 + minutes * 60), rest)

/-- The instant of a date and a time of day at an offset; second 60 is the leap second. -/
def ofParts? (date : Date) (hour minute second nano : Nat) (offset : Int) : Option Instant :=
  if date.isValid && hour < 24 && minute < 60 && second ≤ 60 && offset.natAbs < 86400 then
    let (second, nano) := if second = 60 then (59, nano + 1000000000) else (second, nano)
    let local_ : Int := date.dayNumber * 86400 + hour * 3600 + minute * 60 + second
    if firstSecond ≤ local_ ∧ local_ ≤ lastSecond then ofUnix? (local_ - offset) nano else none
  else none

/-! ## Strict stamps -/

/-- Reads a stamp with fixed-width parts. The date is checked before the time is read, and the time
before the offset. -/
def ofStamp (s : String) : Except ReadError Instant := do
  if s.utf8ByteSize < 19 then .error .tooShort
  let (year, cs) ← readExactly 4 s.toList
  let (_, cs) ← readSymbol '-' cs
  let (month, cs) ← readExactly 2 cs
  let (_, cs) ← readSymbol '-' cs
  let (day, cs) ← readExactly 2 cs
  let date : Date := ⟨year, month, day⟩
  if !date.isValid then .error .outOfRange
  let (_, cs) ← readSeparator cs
  let (hour, cs) ← readExactly 2 cs
  let (_, cs) ← readSymbol ':' cs
  let (minute, cs) ← readExactly 2 cs
  let (_, cs) ← readSymbol ':' cs
  let (second, cs) ← readExactly 2 cs
  let (nano, cs) ← readFraction cs
  if 24 ≤ hour ∨ 60 ≤ minute ∨ 61 ≤ second then .error .outOfRange
  let (offset, cs) ← readOffset (readSymbol ':') cs
  if 86400 ≤ offset.natAbs then .error .outOfRange
  if !cs.isEmpty then .error .trailing
  match ofParts? date hour minute second nano offset with
  | some t => return t
  | none => .error .outOfRange

/-! ## Relaxed stamps -/

/-- Reads a number of at most `most` digits after blanks. -/
def readLoose (most : Nat) (cs : List Char) : Except ReadError (Nat × List Char) :=
  readNumber most (dropBlanks cs)

/-- Reads one given character after blanks. -/
def readLooseSymbol (symbol : Char) (cs : List Char) : Except ReadError (Unit × List Char) :=
  readSymbol symbol (dropBlanks cs)

/-- Reads a year: four digits, or a sign and any number of them. -/
def readYear (cs : List Char) : Except ReadError (Int × List Char) :=
  match dropBlanks cs with
  | '-' :: rest => (readNumber rest.length rest).map fun (n, r) => (-(n : Int), r)
  | '+' :: rest => (readNumber rest.length rest).map fun (n, r) => ((n : Int), r)
  | rest => (readNumber 4 rest).map fun (n, r) => ((n : Int), r)

/-- Reads an offset, or the word `UTC` in any case. -/
def readZone (cs : List Char) : Except ReadError (Int × List Char) :=
  if (cs.take 3).map Char.toUpper = ['U', 'T', 'C'] then .ok (0, cs.drop 3)
  else readOffset (fun r => .ok ((), r.dropWhile fun c => c == ':' || isBlank c)) cs

/-- Reads a relaxed stamp. -/
def ofRelaxedStamp (s : String) : Except ReadError Instant := do
  let (year, cs) ← readYear s.toList
  let (_, cs) ← readLooseSymbol '-' cs
  let (month, cs) ← readLoose 2 cs
  let (_, cs) ← readLooseSymbol '-' cs
  let (day, cs) ← readLoose 2 cs
  let (_, cs) ← readSeparator cs
  let (hour, cs) ← readLoose 2 cs
  let (_, cs) ← readLooseSymbol ':' cs
  let (minute, cs) ← readLoose 2 cs
  let (_, cs) ← readLooseSymbol ':' cs
  let (second, cs) ← readLoose 2 cs
  let (nano, cs) ← readFraction cs
  let (offset, cs) ← readZone (dropBlanks cs)
  if !(dropBlanks cs).isEmpty then .error .trailing
  match ofParts? ⟨year, month, day⟩ hour minute second nano offset with
  | some t => return t
  | none => .error .outOfRange

/-- The instant of a relaxed stamp, if the text is one. -/
def ofRelaxedStamp? (s : String) : Option Instant := (ofRelaxedStamp s).toOption

end Ingest.Instant
