import Ingest.Time.Reading
import Ingest.Value.Reading

/-!
# Toml/Scalar — strings, numbers, truth values and dates

Integers have 64 bits and may be written with base 16, 8 or 2; underscores may stand between digits.
A date, and a number that is not finite, has no counterpart among values: it becomes an object that
says what it is.
-/

namespace Ingest.Toml

/-- A reader takes what it recognises off the front of a text. -/
abbrev Reader := StateT (List Char) Option

/-! ## Characters -/

/-- Reads one character. -/
def next : Reader Char := do
  match ← get with
  | [] => failure
  | c :: rest => set rest; return c

/-- Reads one given character. -/
def symbol (c : Char) : Reader Unit := do
  if (← next) ≠ c then failure

/-- Reads characters as long as they are of a kind. -/
def takeWhile (kind : Char → Bool) : Reader (List Char) := do
  let cs ← get
  set (cs.dropWhile kind)
  return cs.takeWhile kind

/-- Whether a character is a space or a tab. -/
def isSpace (c : Char) : Bool := c == ' ' || c == '\t'

/-- Whether a character may stand in a comment or a quoted text. -/
def isPrintable (c : Char) : Bool := c == '\t' || (' ' ≤ c && c != '\x7f')

/-- Whether a character may stand in a key without quotes. -/
def isBare (c : Char) : Bool := c.isAlphanum || c == '_' || c == '-'

/-! ## Strings -/

/-- Reads the code of a character in so many hexadecimal digits. -/
def codePoint (width : Nat) : Reader Char := do
  let digits := (← get).take width
  set ((← get).drop width)
  match digits.mapM (m := Option) Text.hexDigit? with
  | none => failure
  | some values =>
    let code := values.foldl (fun n d => n * 16 + d) 0
    if values.length = width ∧ code.isValidChar then return Char.ofNat code else failure

/-- Reads what follows a backslash. -/
def escape : Reader Char := do
  match ← next with
  | 'b' => return '\x08'
  | 't' => return '\t'
  | 'n' => return '\n'
  | 'f' => return '\x0c'
  | 'r' => return '\r'
  | '"' => return '"'
  | '\\' => return '\\'
  | 'u' => codePoint 4
  | 'U' => codePoint 8
  | _ => failure

/-- Reads a string on one line, after its opening quote. -/
def lineString (quote : Char) : Nat → Reader (List Char)
  | 0 => failure
  | fuel + 1 => do
    let c ← next
    if c = quote then return []
    else if c = '\\' ∧ quote = '"' then return (← escape) :: (← lineString quote fuel)
    else if isPrintable c then return c :: (← lineString quote fuel)
    else failure

/-- The characters after a line break at the front of a text. -/
def afterBreak? : List Char → Option (List Char)
  | '\n' :: rest => some rest
  | '\r' :: '\n' :: rest => some rest
  | _ => none

/-- Reads spaces and line breaks. -/
def skipLines : Nat → Reader Unit
  | 0 => return ()
  | fuel + 1 => do
    let cs := (← get).dropWhile isSpace
    match afterBreak? cs with
    | some rest => set rest; skipLines fuel
    | none => set cs

/-- Reads a string of several lines, after its opening quotes. Up to two quotes may stand right before
the closing ones. -/
def blockString (quote : Char) : Nat → Reader (List Char)
  | 0 => failure
  | fuel + 1 => do
    let cs ← get
    let quotes := (cs.takeWhile (· == quote)).length
    if 3 ≤ quotes then
      set (cs.drop (min quotes 5))
      return List.replicate (min quotes 5 - 3) quote
    match afterBreak? cs with
    | some rest => set rest; return '\n' :: (← blockString quote fuel)
    | none =>
      let c ← next
      if c = '\\' ∧ quote = '"' then
        match afterBreak? ((← get).dropWhile isSpace) with
        | some rest => set rest; skipLines rest.length; blockString quote fuel
        | none => return (← escape) :: (← blockString quote fuel)
      else if isPrintable c then return c :: (← blockString quote fuel)
      else failure

/-- Reads a string on one line. -/
def quoted : Reader String := do
  let quote ← next
  if quote = '"' ∨ quote = '\'' then return String.ofList (← lineString quote (← get).length)
  else failure

/-- Reads a string of one or several lines. -/
def string : Reader String := do
  match ← get with
  | '"' :: '"' :: '"' :: rest | '\'' :: '\'' :: '\'' :: rest =>
    let quote ← next
    set ((afterBreak? rest).getD rest)
    return String.ofList (← blockString quote (rest.length + 1))
  | _ => quoted

/-! ## Numbers -/

/-- The digits of a run with underscores between digits. -/
def ungroup (isDigit : Char → Bool) : List Char → Option (List Char)
  | [] => none
  | [c] => if isDigit c then some [c] else none
  | c :: '_' :: rest => if isDigit c then (ungroup isDigit rest).map (c :: ·) else none
  | c :: rest => if isDigit c then (ungroup isDigit rest).map (c :: ·) else none

/-- The value of digits of a base. -/
def valueOf (base : Nat) (digits : List Char) : Nat :=
  digits.foldl (fun n c => n * base + (Text.hexDigit? c).getD 0) 0

/-- The value of a run of digits of a base. -/
def digits? (base : Nat) (cs : List Char) : Option Nat :=
  (ungroup (fun c => (Text.hexDigit? c).any (· < base)) cs).map (valueOf base)

/-- The value of a run of decimal digits without a needless zero in front. -/
def whole? (cs : List Char) : Option Nat :=
  if cs.head? = some '0' ∧ cs.length ≠ 1 then none else digits? 10 cs

/-- A sign and what follows it. -/
def sign : List Char → Bool × List Char
  | '-' :: rest => (true, rest)
  | '+' :: rest => (false, rest)
  | rest => (false, rest)

/-- Reads an integer. -/
def integer? (cs : List Char) : Option Value := do
  let n : Int ← match cs with
    | '0' :: 'x' :: rest => (digits? 16 rest).map Int.ofNat
    | '0' :: 'o' :: rest => (digits? 8 rest).map Int.ofNat
    | '0' :: 'b' :: rest => (digits? 2 rest).map Int.ofNat
    | _ =>
      let (negative, rest) := sign cs
      (whole? rest).map fun n => if negative then -(n : Int) else n
  if Number.fitsInt64 n then return .ofInt n else failure

/-- An object that says what a scalar without counterpart is. -/
def marked (kind : String) (cs : List Char) : Value :=
  .object [(kind, .string (String.ofList cs))]

/-- Reads the exponent of a number. -/
def exponent? : List Char → Option Int
  | [] => some 0
  | e :: rest =>
    if e = 'e' ∨ e = 'E' then
      let (negative, ds) := sign rest
      (digits? 10 ds).map fun n => if negative then -(n : Int) else n
    else none

/-- Reads a number with a point or an exponent, or one that is not finite. A number above the greatest
finite one is refused; one below the least counts as negative infinity. -/
def float? (cs : List Char) : Option Value := do
  let (negative, rest) := sign cs
  if rest = ['i', 'n', 'f'] ∨ rest = ['n', 'a', 'n'] then return marked "float" cs
  let inGroup (c : Char) : Bool := c.isDigit || c == '_'
  let front ← whole? (rest.takeWhile inGroup)
  let (fraction, tail) := match rest.dropWhile inGroup with
    | '.' :: after => (some (after.takeWhile inGroup), after.dropWhile inGroup)
    | tail => (none, tail)
  let places ← match fraction with
    | none => pure []
    | some run => ungroup Char.isDigit run
  if fraction.isNone ∧ tail.isEmpty then failure
  let exponent ← exponent? tail
  let mantissa := front * Nat.pow 10 places.length + valueOf 10 places
  match Decimal.nearest? negative mantissa (exponent - places.length) with
  | some x => return .number (.float x)
  | none => if negative then return marked "float" cs else failure

/-! ## Dates -/

/-- Reads a time of day. -/
def timeOfDay (cs : List Char) : Except Instant.ReadError (List Char) := do
  let (hour, cs) ← Instant.readExactly 2 cs
  let (_, cs) ← Instant.readSymbol ':' cs
  let (minute, cs) ← Instant.readExactly 2 cs
  let (_, cs) ← Instant.readSymbol ':' cs
  let (second, cs) ← Instant.readExactly 2 cs
  let (_, cs) ← Instant.readFraction cs
  if hour < 24 ∧ minute < 60 ∧ second ≤ 60 then return cs else .error .outOfRange

/-- Reads an offset from UTC, if there is one. -/
def offset (cs : List Char) : Except Instant.ReadError (List Char) := do
  if cs.isEmpty then return []
  let (seconds, cs) ← Instant.readOffset (Instant.readSymbol ':') cs
  if seconds.natAbs < 86400 then return cs else .error .outOfRange

/-- Reads a date, and the time of day that may follow it. -/
def dateTime (cs : List Char) : Except Instant.ReadError (List Char) := do
  let (year, cs) ← Instant.readExactly 4 cs
  let (_, cs) ← Instant.readSymbol '-' cs
  let (month, cs) ← Instant.readExactly 2 cs
  let (_, cs) ← Instant.readSymbol '-' cs
  let (day, cs) ← Instant.readExactly 2 cs
  let date : Time.Date := ⟨year, month, day⟩
  if !date.isValid then .error .outOfRange
  if cs.isEmpty then return []
  let (_, cs) ← Instant.readSeparator cs
  offset (← timeOfDay cs)

/-- Reads a date, a time of day, or both. -/
def date? (cs : List Char) : Option Value :=
  if (dateTime cs).toOption = some [] ∨ (timeOfDay cs).toOption = some [] then
    some (marked "datetime" cs)
  else none

/-! ## Words -/

/-- Whether a character may stand in a number, a date or a truth value. -/
def inWord (c : Char) : Bool := isBare c || c == '+' || c == '.' || c == ':'

/-- Reads the characters of a number, a date or a truth value; a date and a time of day may stand with
a space between them. -/
def word : Reader (List Char) := do
  let front ← takeWhile inWord
  match ← get with
  | ' ' :: c :: _ =>
    if c.isDigit ∧ (dateTime front).toOption = some [] then
      let _ ← next
      return front ++ ' ' :: (← takeWhile inWord)
    else return front
  | _ => return front

/-- Reads a number, a date or a truth value. -/
def plainScalar : Reader Value := do
  let cs ← word
  if cs = ['t', 'r', 'u', 'e'] then return .bool true
  if cs = ['f', 'a', 'l', 's', 'e'] then return .bool false
  match ((date? cs).or (integer? cs)).or (float? cs) with
  | some v => return v
  | none => failure

end Ingest.Toml
