import Ingest.Pattern.Reading
import Ingest.Pattern.Support
import Ingest.Text.Numeral

/-!
# Settings/Directive — rules about what is logged

A directive is a level, a target, or `target[span{field,field}]=level` with any part left out. A field
may be compared with a value, which is a number or a pattern. Only the form is checked here.
-/

namespace Ingest

open Text

/-- The words for levels, `off` included. -/
def levelWords : List String := ["off", "error", "warn", "info", "debug", "trace"]

/-- Whether a text names a level: a word in any case, or a number up to 5. -/
def isLevel (s : String) : Bool :=
  s.isEmpty || levelWords.contains s.toLower || (readNumeral maxUnsigned64 s).toOption.any (· ≤ 5)

/-- Whether a target may start with this character. -/
def startsTarget (c : Char) : Bool := c == '-' || c == ':' || c == '_' || isAlphanumeric c

/-! ## Fields -/

/-- Whether some characters are at least one digit, and nothing else. -/
def areDigits (cs : List Char) : Bool := !cs.isEmpty && cs.all Char.isDigit

/-- Whether digits, with a point somewhere among them or at an end, make up a text. -/
def isMantissa (cs : List Char) : Bool :=
  match cs.dropWhile Char.isDigit with
  | [] => !cs.isEmpty
  | '.' :: rest => cs.length ≠ 1 && rest.all Char.isDigit
  | _ => false

/-- Whether a text without a sign is a number: digits with a point and an exponent, or a word for a
number that is not finite. -/
def isUnsignedNumber (cs : List Char) : Bool :=
  let isExponentMark (c : Char) : Bool := c == 'e' || c == 'E'
  let isExponent : List Char → Bool
    | [] => true
    | _ :: '+' :: rest | _ :: '-' :: rest => areDigits rest
    | _ :: rest => areDigits rest
  ["inf", "infinity", "nan"].contains (String.ofList cs).toLower ||
    (isMantissa (cs.takeWhile (!isExponentMark ·)) && isExponent (cs.dropWhile (!isExponentMark ·)))

/-- Whether a field can be compared with a value: a number with a sign in front, or a pattern. All
other numbers and truth values are patterns too. -/
def isFieldValue (s : String) : Bool :=
  (match s.toList with
    | '+' :: rest => isUnsignedNumber rest
    | _ => false) ||
  (Pattern.read? s).any (·.isSupported)

/-- Whether a field can be read: a name, which may be empty, and perhaps a value after a `=`. What
follows another `=` does not count. -/
def isField (s : String) : Bool :=
  match s.splitOn "=" with
  | _ :: value :: _ => isFieldValue value
  | _ => true

/-! ## Faults -/

/-- What is wrong with a directive. -/
inductive DirectiveFault where
  | badLevel
  | badField
  | malformed
deriving DecidableEq, Repr

/-- The wording of a fault, and of the causes below it as far as the first line of their report. -/
def DirectiveFault.chain : DirectiveFault → List String
  | badLevel =>
    ["error parsing level filter: expected one of " ++
      String.join (levelWords.map fun w => "\"" ++ w ++ "\", ") ++ "or a number 0-5"]
  | badField =>
    ["invalid field filter: error building NFA", "error building NFA", "error parsing regex",
      "regex parse error:"]
  | malformed => ["invalid filter directive"]

/-! ## Reading -/

/-- Where the reader of a directive stands. -/
inductive DirectivePosition where
  | start
  /-- In what may be a level or a target. -/
  | target
  | span
  /-- In a field, with the characters read. -/
  | field (read : List Char)
  | afterFields
  | afterSpan
  /-- In a level, with the characters read. -/
  | level (read : List Char)
deriving DecidableEq, Repr

namespace DirectivePosition

/-- The position after a field that ends here. -/
def closeField (read : List Char) (after : DirectivePosition) :
    Except DirectiveFault DirectivePosition :=
  if read.isEmpty then .error .malformed
  else if isField (String.ofList read) then .ok after
  else .error .badField

/-- The position after one more character. -/
def next : DirectivePosition → Char → Except DirectiveFault DirectivePosition
  | start, '[' => .ok span
  | start, c => if startsTarget c then .ok target else .error .malformed
  | target, '=' => .ok (level [])
  | target, '[' => .ok span
  | target, _ => .ok target
  | span, ']' => .ok afterSpan
  | span, '\x7b' => .ok (field [])
  | span, _ => .ok span
  | field read, '\x7d' => closeField read afterFields
  | field read, ',' => closeField read (field [])
  | field read, c => .ok (field (read ++ [c]))
  | afterFields, ']' => .ok afterSpan
  | afterFields, _ => .error .malformed
  | afterSpan, '=' => .ok (level [])
  | afterSpan, _ => .error .malformed
  | level read, c => .ok (level (read ++ [c]))

/-- What is wrong with a directive that ends here. -/
def endFault? : DirectivePosition → Option DirectiveFault
  | target | afterSpan => none
  | level read => if isLevel (String.ofList read) then none else some .badLevel
  | start | span | field _ | afterFields => some .malformed

end DirectivePosition

/-- What is wrong with the form of a directive. -/
def directiveFault? (s : String) : Option DirectiveFault :=
  match s.toList.foldlM DirectivePosition.next .start with
  | .ok position => position.endFault?
  | .error fault => some fault

end Ingest
