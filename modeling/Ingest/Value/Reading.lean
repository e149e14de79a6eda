import Ingest.Decimal.Reading
import Ingest.Value.Basic

/-!
# Value/Reading — reading a JSON text

`Value.ofText` reads one value and nothing after it. A fault is reported with its line and its column,
counted in bytes. Integers outside 64 bits and `-0` are read as floating-point numbers, and a
container may stand inside at most 126 others.
-/

namespace Ingest.Value

open Text Decimal

/-- Why a text is not a JSON value. -/
inductive ReadFault where
  | endInList
  | endInObject
  | endInString
  | endInValue
  | expectedColon
  | expectedCommaOrBracket
  | expectedCommaOrBrace
  | expectedIdent
  | expectedValue
  | invalidEscape
  | invalidNumber
  | numberOutOfRange
  | controlCharacter
  | keyNotString
  | loneSurrogate
  | trailingComma
  | trailingCharacters
  | endOfEscape
  | tooDeep
deriving DecidableEq, Repr

/-- The wording of a fault. -/
def ReadFault.message : ReadFault → String
  | .endInList => "EOF while parsing a list"
  | .endInObject => "EOF while parsing an object"
  | .endInString => "EOF while parsing a string"
  | .endInValue => "EOF while parsing a value"
  | .expectedColon => "expected `:`"
  | .expectedCommaOrBracket => "expected `,` or `]`"
  | .expectedCommaOrBrace => "expected `,` or `\x7d`"
  | .expectedIdent => "expected ident"
  | .expectedValue => "expected value"
  | .invalidEscape => "invalid escape"
  | .invalidNumber => "invalid number"
  | .numberOutOfRange => "number out of range"
  | .controlCharacter => "control character (\\u0000-\\u001F) found while parsing a string"
  | .keyNotString => "key must be a string"
  | .loneSurrogate => "lone leading surrogate in hex escape"
  | .trailingComma => "trailing comma"
  | .trailingCharacters => "trailing characters"
  | .endOfEscape => "unexpected end of hex escape"
  | .tooDeep => "recursion limit exceeded"

/-- A fault and where it was met. -/
structure ReadError where
  /-- What is wrong. -/
  fault : ReadFault
  /-- The line, from 1. -/
  line : Nat
  /-- The column: bytes of the line read so far. -/
  column : Nat
deriving DecidableEq, Repr

/-- The wording of a fault with its place. -/
def ReadError.message (e : ReadError) : String :=
  e.fault.message ++ " at line " ++ toString e.line ++ " column " ++ toString e.column

/-- What is left of a text, and the place reached. -/
structure Cursor where
  /-- The characters still to be read. -/
  rest : List Char
  /-- The current line, from 1. -/
  line : Nat
  /-- Bytes of the current line read so far. -/
  column : Nat

namespace Cursor

/-- The place after one more character `c`, with `rest` left. -/
def past (k : Cursor) (c : Char) (rest : List Char) : Cursor :=
  if c = '\n' then ⟨rest, k.line + 1, 0⟩ else ⟨rest, k.line, k.column + c.utf8Size⟩

/-- The cursor after its next character. -/
def step (k : Cursor) : Cursor :=
  match k.rest with
  | [] => k
  | c :: rest => k.past c rest

/-- The cursor after `n` more characters. -/
def steps (k : Cursor) : Nat → Cursor
  | 0 => k
  | n + 1 => k.step.steps n

/-- The cursor after JSON's blanks. -/
def skipBlanks (k : Cursor) : Cursor :=
  k.steps (k.rest.takeWhile fun c => c == ' ' || c == '\n' || c == '\t' || c == '\r').length

/-- A fault at the place reached. -/
def fail {α : Type} (k : Cursor) (fault : ReadFault) : Except ReadError α :=
  .error ⟨fault, k.line, k.column⟩

/-- The line and the column after at most `n` more bytes; the place may lie inside a character. -/
def placeAfter (k : Cursor) : Nat → Nat × Nat
  | 0 => (k.line, k.column)
  | n + 1 =>
    match k.rest with
    | [] => (k.line, k.column)
    | c :: rest =>
      if n + 1 < c.utf8Size then (k.line, k.column + (n + 1))
      else (k.past c rest).placeAfter (n + 1 - c.utf8Size)
termination_by n => n
decreasing_by
  have := c.utf8Size_pos
  omega

/-- A fault after at most `n` more bytes. -/
def failAfter {α : Type} (k : Cursor) (n : Nat) (fault : ReadFault) : Except ReadError α :=
  .error ⟨fault, (k.placeAfter n).1, (k.placeAfter n).2⟩

/-- A fault at the next byte. -/
def failAhead {α : Type} (k : Cursor) (fault : ReadFault) : Except ReadError α :=
  k.failAfter 1 fault

end Cursor

/-! ## Words and numbers -/

/-- Reads the rest of a word such as `null`. -/
def readWord (v : Value) : List Char → Cursor → Except ReadError (Value × Cursor)
  | [], k => .ok (v, k)
  | w :: ws, k =>
    match k.rest with
    | [] => k.fail .endInValue
    | c :: _ => if c = w then readWord v ws k.step else k.failAhead .expectedIdent

/-- The digits in front of a cursor, and the cursor after them. -/
def readDigitRun (k : Cursor) : List Char × Cursor :=
  let ds := k.rest.takeWhile fun c => (digit? c).isSome
  (ds, k.steps ds.length)

/-- The greatest exponent that is read to its end. -/
def maxExponent : Nat := 0x7fffffff

/-- The least number of digits whose value is beyond the greatest exponent, if there is one. -/
def tooManyDigits? (ds : List Char) : Option Nat :=
  (List.range (ds.length + 1)).find? fun n => maxExponent < digitsValue (ds.take n)

/-- Reads an exponent after its `e`. A number other than zero is out of range as soon as its exponent
is beyond the greatest one. -/
def readExponent (zero : Bool) (k : Cursor) : Except ReadError (Int × Cursor) :=
  let (negative, k) :=
    match k.rest with
    | '+' :: _ => (false, k.step)
    | '-' :: _ => (true, k.step)
    | _ => (false, k)
  match k.rest with
  | [] => k.fail .endInValue
  | c :: _ =>
    if (digit? c).isNone then k.failAhead .invalidNumber
    else
      let (ds, after) := readDigitRun k
      match tooManyDigits? ds, zero || negative with
      | some n, false => (k.steps n).fail .numberOutOfRange
      | _, _ =>
        let n := min (digitsValue ds) 1000000
        .ok (if negative then -(n : Int) else n, after)

/-- Reads a number after its sign. -/
def readNumber (negative : Bool) (k : Cursor) : Except ReadError (Value × Cursor) := do
  match k.rest with
  | [] => k.fail .endInValue
  | c :: rest =>
    if (digit? c).isNone then k.failAhead .invalidNumber
    else if c = '0' ∧ (rest.head?.bind digit?).isSome then k.step.failAhead .invalidNumber
    else
      let (whole, k) := readDigitRun k
      let (fraction, k) ←
        match k.rest with
        | '.' :: _ =>
          let (ds, after) := readDigitRun k.step
          if ds.isEmpty then
            after.failAhead (if after.rest.isEmpty then .endInValue else .invalidNumber)
          else pure (ds, after)
        | _ => pure ([], k)
      let (n, wholeLeft) := fit 0 whole
      let (digits, fractionLeft) := fit n fraction
      let (exponent, k) ←
        match k.rest with
        | 'e' :: _ | 'E' :: _ =>
          let (e, after) ← readExponent (digits = 0) k.step
          pure (some e, after)
        | _ => pure (none, k)
      let isInt := fraction.isEmpty && exponent.isNone && wholeLeft.isEmpty &&
        (!negative || (0 < n && n ≤ 0x8000000000000000))
      if isInt then return (ofInt (if negative then -(n : Int) else n), k)
      let places := fraction.length - fractionLeft.length
      match scaled? negative digits (exponent.getD 0 + wholeLeft.length - places) with
      | some x => return (.number (.float x), k)
      | none => k.fail .numberOutOfRange

/-! ## Strings -/

/-- Reads four hexadecimal digits. -/
def readHex (k : Cursor) : Except ReadError (Nat × Cursor) :=
  let cs := k.rest.take 4
  if cs.foldr (fun c n => c.utf8Size + n) 0 < 4 then (k.steps 4).fail .endInString
  else
    match cs.mapM hexDigit? with
    | some ds => .ok (ds.foldl (fun n d => n * 16 + d) 0, k.steps 4)
    | none => k.failAfter 4 .invalidEscape

/-- Reads an escape after its `\u`; two escapes of surrogates make one character. -/
def readUnicode (k : Cursor) : Except ReadError (Char × Cursor) := do
  let (n, k) ← readHex k
  if 0xDC00 ≤ n ∧ n ≤ 0xDFFF then k.fail .loneSurrogate
  else if n < 0xD800 ∨ 0xDBFF < n then return (Char.ofNat n, k)
  else
    match k.rest with
    | [] => k.fail .endInString
    | '\\' :: [] => k.step.fail .endInString
    | '\\' :: 'u' :: _ =>
      let (m, k) ← readHex (k.steps 2)
      if m < 0xDC00 ∨ 0xDFFF < m then k.fail .loneSurrogate
      else return (Char.ofNat ((n - 0xD800) * 0x400 + (m - 0xDC00) + 0x10000), k)
    | '\\' :: _ => k.failAfter 2 .endOfEscape
    | _ => k.failAhead .endOfEscape

/-- Reads an escape after its backslash. -/
def readEscape (k : Cursor) : Except ReadError (Char × Cursor) :=
  match k.rest with
  | [] => k.fail .endInString
  | '"' :: _ => .ok ('"', k.step)
  | '\\' :: _ => .ok ('\\', k.step)
  | '/' :: _ => .ok ('/', k.step)
  | 'b' :: _ => .ok ('\x08', k.step)
  | 'f' :: _ => .ok ('\x0c', k.step)
  | 'n' :: _ => .ok ('\n', k.step)
  | 'r' :: _ => .ok ('\r', k.step)
  | 't' :: _ => .ok ('\t', k.step)
  | 'u' :: _ => readUnicode k.step
  | _ => k.failAhead .invalidEscape

/-- Reads a string after its opening quote; `read` holds the characters so far, last first. -/
def readStringTail : Nat → List Char → Cursor → Except ReadError (String × Cursor)
  | 0, _, k => k.fail .endInString
  | fuel + 1, read, k =>
    match k.rest with
    | [] => k.fail .endInString
    | c :: _ =>
      if c = '"' then .ok (String.ofList read.reverse, k.step)
      else if c = '\\' then do
        let (d, k) ← readEscape k.step
        readStringTail fuel (d :: read) k
      else if c.toNat < 0x20 then
        k.failAhead .controlCharacter
      else readStringTail fuel (c :: read) k.step

/-- Reads a string after its opening quote. -/
def readString (k : Cursor) : Except ReadError (String × Cursor) :=
  readStringTail (k.rest.length + 1) [] k

/-! ## Containers -/

/-- Reads the items of an array after its bracket, each with `read`. -/
def readItems (read : Cursor → Except ReadError (Value × Cursor)) :
    Nat → List Value → Cursor → Except ReadError (Value × Cursor)
  | 0, _, k => k.fail .endInList
  | fuel + 1, items, k =>
    let k := k.skipBlanks
    match k.rest with
    | [] => k.fail .endInList
    | ']' :: _ => .ok (.array items.reverse, k.step)
    | c :: _ =>
      if items.isEmpty then do
        let (v, k) ← read k
        readItems read fuel [v] k
      else if c = ',' then
        let k := k.step.skipBlanks
        match k.rest with
        | [] => k.fail .endInValue
        | ']' :: _ => k.failAhead .trailingComma
        | _ => do
          let (v, k) ← read k
          readItems read fuel (v :: items) k
      else k.failAhead .expectedCommaOrBracket

/-- Reads a member of an object, from the quote of its name, its value with `read`. -/
def readMember (read : Cursor → Except ReadError (Value × Cursor)) (k : Cursor) :
    Except ReadError ((String × Value) × Cursor) := do
  let (name, k) ← readString k.step
  let k := k.skipBlanks
  match k.rest with
  | [] => k.fail .endInObject
  | ':' :: _ =>
    let (v, k) ← read k.step
    return ((name, v), k)
  | _ => k.failAhead .expectedColon

/-- Reads the members of an object after its brace, the value of each with `read`. -/
def readMembers (read : Cursor → Except ReadError (Value × Cursor)) :
    Nat → List (String × Value) → Cursor → Except ReadError (Value × Cursor)
  | 0, _, k => k.fail .endInObject
  | fuel + 1, members, k =>
    let k := k.skipBlanks
    match k.rest with
    | [] => k.fail .endInObject
    | '\x7d' :: _ => .ok (ofMembers members.reverse, k.step)
    | c :: _ =>
      if members.isEmpty then
        if c = '"' then do
          let (m, k) ← readMember read k
          readMembers read fuel [m] k
        else k.failAhead .keyNotString
      else if c = ',' then
        let k := k.step.skipBlanks
        match k.rest with
        | [] => k.fail .endInValue
        | '"' :: _ => do
          let (m, k) ← readMember read k
          readMembers read fuel (m :: members) k
        | '\x7d' :: _ => k.failAhead .trailingComma
        | _ => k.failAhead .keyNotString
      else k.failAhead .expectedCommaOrBrace

/-- Reads a value that may nest containers to a given depth. -/
def readValue : Nat → Cursor → Except ReadError (Value × Cursor)
  | 0, k => k.failAhead .tooDeep
  | depth + 1, k =>
    let k := k.skipBlanks
    match k.rest with
    | [] => k.fail .endInValue
    | c :: _ =>
      if c = 'n' then readWord .null ['u', 'l', 'l'] k.step
      else if c = 't' then readWord (.bool true) ['r', 'u', 'e'] k.step
      else if c = 'f' then readWord (.bool false) ['a', 'l', 's', 'e'] k.step
      else if c = '-' then readNumber true k.step
      else if (digit? c).isSome then readNumber false k
      else if c = '"' then do
        let (s, k) ← readString k.step
        return (.string s, k)
      else if c = '[' then
        if depth = 0 then k.failAhead .tooDeep
        else readItems (readValue depth) (k.rest.length + 1) [] k.step
      else if c = '\x7b' then
        if depth = 0 then k.failAhead .tooDeep
        else readMembers (readValue depth) (k.rest.length + 1) [] k.step
      else k.failAhead .expectedValue

/-- Reads a whole text as one value. -/
def ofText (s : String) : Except ReadError Value := do
  let (v, k) ← readValue 128 ⟨s.toList, 1, 0⟩
  let k := k.skipBlanks
  if k.rest.isEmpty then return v else k.failAhead .trailingCharacters

end Ingest.Value
