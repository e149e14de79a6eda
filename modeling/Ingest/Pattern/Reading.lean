import Ingest.Pattern.Basic
import Ingest.Text.Alphanumeric
import Ingest.Text.Blank
import Ingest.Text.Numeral

/-!
# Pattern/Reading — reading regular expressions

Alternatives stand between bars, groups in parentheses, sets in brackets. A group may have a name, or
flags of its own; with the flag for it, blanks and comments in a pattern mean nothing.

The text of a pattern ends before any `}`. So the forms that need one, such as counted repetition, are
never closed, and reading stops where they open.
-/

namespace Ingest.Pattern

open Text

/-- What is left to read, and what was met before that matters. -/
structure Rest where
  /-- The characters still to be read. -/
  chars : List Char
  /-- Whether blanks and comments mean nothing. -/
  ignoreBlanks : Bool := false
  /-- The names of groups so far. -/
  names : List String := []

/-- A reader takes what it recognises off the front of a text. -/
abbrev Reader := StateT Rest Option

/-! ## Characters -/

/-- Goes on with other characters. -/
def continueWith (cs : List Char) : Reader Unit := modify fun r => { r with chars := cs }

/-- Drops blanks, and comments from `#` to the end of their line. -/
def dropFill (inComment : Bool) : List Char → List Char
  | [] => []
  | c :: rest =>
    if inComment then dropFill (c != '\n') rest
    else if isBlank c then dropFill false rest
    else if c == '#' then dropFill true rest
    else c :: rest

/-- Skips what means nothing. -/
def skipFill : Reader Unit := do
  if (← get).ignoreBlanks then continueWith (dropFill false (← get).chars)

/-- Reads one character. -/
def next : Reader Char := do
  match (← get).chars with
  | [] => failure
  | c :: rest => continueWith rest; return c

/-- Reads one given character. -/
def symbol (c : Char) : Reader Unit := do
  if (← next) ≠ c then failure

/-- Whether a given text comes next. -/
def ahead (s : String) : Reader Bool := do return s.toList.isPrefixOf (← get).chars

/-- Reads a given text, if it comes next. -/
def accept (s : String) : Reader Bool := do
  if ← ahead s then continueWith ((← get).chars.drop s.length); return true
  else return false

/-- Fails at the end of the text. -/
def more : Reader Unit := do
  if (← get).chars.isEmpty then failure

/-! ## Escapes -/

/-- The characters with a meaning of their own somewhere in a pattern. -/
def metaCharacters : String := "\\.+*?()|[]\x7b\x7d^$#&-~"

/-- Whether a backslash before a character has it stand for itself: no letter, no digit, and neither
`<` nor `>`. -/
def isEscapable (c : Char) : Bool :=
  metaCharacters.toList.contains c || (c.toNat < 0x80 && !c.isAlphanum && c != '<' && c != '>')

/-- Reads so many hexadecimal digits onto the value of those before. -/
def hexDigits : Nat → Nat → Reader Nat
  | 0, value => return value
  | n + 1, value => do
    match hexDigit? (← next) with
    | none => failure
    | some d => skipFill; hexDigits n (value * 16 + d)

/-- Reads a character written as so many hexadecimal digits. -/
def hexLiteral (width : Nat) : Reader Pattern := do
  skipFill
  let code ← hexDigits width 0
  if code.isValidChar then return .literal ⟨Char.ofNat code, width = 2⟩ else failure

/-- A character that stands for itself. -/
def ordinary (c : Char) : Pattern := .literal ⟨c, false⟩

/-- Reads what follows a backslash. There are no references to groups and no properties of
characters. -/
def readEscape : Reader Pattern := do
  match ← next with
  | 'x' => hexLiteral 2
  | 'u' => hexLiteral 4
  | 'U' => hexLiteral 8
  | 'd' | 's' | 'w' => return .shorthand false
  | 'D' | 'S' | 'W' => return .shorthand true
  | 'a' => return ordinary '\x07'
  | 'f' => return ordinary '\x0c'
  | 't' => return ordinary '\t'
  | 'n' => return ordinary '\n'
  | 'r' => return ordinary '\r'
  | 'v' => return ordinary '\x0b'
  | 'A' | 'z' => return .anchor
  | 'B' | '<' | '>' => return .wordBoundary
  | 'b' =>
    if ← ahead "\x7b" then failure
    return .wordBoundary
  | c => if isEscapable c then return ordinary c else failure

/-! ## Sets -/

/-- The names of sets of ASCII characters. -/
def asciiNames : List String :=
  ["alnum", "alpha", "ascii", "blank", "cntrl", "digit", "graph", "lower", "print", "punct",
    "space", "upper", "word", "xdigit"]

/-- Reads a named set of ASCII characters such as `[:alpha:]`, if one comes next. -/
def asciiSet? : Reader (Option CharSet) := do
  match (← get).chars with
  | '[' :: ':' :: rest =>
    let negated := rest.head? == some '^'
    let body := if negated then rest.drop 1 else rest
    let name := body.takeWhile (· != ':')
    match body.dropWhile (· != ':') with
    | ':' :: ']' :: after =>
      if asciiNames.contains (String.ofList name) then
        continueWith after
        return some (.ascii negated)
      else return none
    | _ => return none
  | _ => return none

/-- Reads a character of a set, or an escape. -/
def setPart : Reader Pattern := do
  match ← next with
  | '\\' => readEscape
  | c => return ordinary c

/-- The next character after the present one that counts, as far as deciding about a `-` goes. Of a
comment only its mark is skipped. -/
def peekPast : List Char → Bool → Option Char
  | cs, false => cs[1]?
  | cs, true =>
    let after := cs.drop 1
    match after.dropWhile isBlank with
    | [] => after.head?
    | '#' :: rest =>
      match rest.dropWhile isBlank with
      | [] => after.head?
      | c :: _ => some c
    | c :: _ => some c

/-- Reads a character, a range or a shorthand of a set. A `-` stands for itself at the end of a set
and before another one. -/
def setItem : Reader CharSet := do
  let first ← setPart
  skipFill
  more
  let follower := peekPast (← get).chars (← get).ignoreBlanks
  if (← get).chars.head? ≠ some '-' ∨ follower = some ']' ∨ follower = some '-' then
    match first with
    | .literal l => return .literal l
    | .shorthand negated => return .shorthand negated
    | _ => failure
  else
    let _ ← next
    skipFill
    more
    match first, ← setPart with
    | .literal a, .literal b => if a.char ≤ b.char then return .range a b else failure
    | _, _ => failure

/-- Reads hyphens that stand for themselves, at the front of a set. -/
def leadingHyphens : Nat → Reader (List CharSet)
  | 0 => failure
  | fuel + 1 => do
    if ← accept "-" then
      skipFill
      more
      return .literal ⟨'-', false⟩ :: (← leadingHyphens fuel)
    else return []

/-- Reads the opening bracket of a set with what may only stand at its front: whether it is negated,
hyphens, and a closing bracket that stands for itself. -/
def openSet : Reader (Bool × List CharSet) := do
  symbol '['
  skipFill
  more
  let negated ← accept "^"
  if negated then skipFill; more
  let hyphens ← leadingHyphens ((← get).chars.length + 1)
  if hyphens.isEmpty ∧ (← accept "]") then
    skipFill
    more
    return (negated, [.literal ⟨']', false⟩])
  else return (negated, hyphens)

/-- A set, and what an operation before it is applied to. -/
def applyOperation : Option (SetOperation × CharSet) → CharSet → CharSet
  | none, set => set
  | some (op, left), set => .operation op left set

/-- An operation on sets that comes next. -/
def setOperation? : Reader (Option SetOperation) := do
  if ← accept "&&" then return some .intersection
  else if ← accept "--" then return some .difference
  else if ← accept "~~" then return some .symmetricDifference
  else return none

/-- Reads the body of a set up to its closing bracket. Operations apply from the left; `parts` are
the parts since the last one, last first. -/
def setBody : Nat → Option (SetOperation × CharSet) → List CharSet → Reader CharSet
  | 0, _, _ => failure
  | fuel + 1, before, parts => do
    skipFill
    match (← get).chars with
    | [] => failure
    | '[' :: _ =>
      match ← asciiSet? with
      | some set => setBody fuel before (set :: parts)
      | none =>
        let (negated, front) ← openSet
        let body ← setBody fuel none front.reverse
        setBody fuel before (.brackets negated body :: parts)
    | ']' :: rest =>
      continueWith rest
      return applyOperation before (.ofParts parts.reverse)
    | _ =>
      match ← setOperation? with
      | some op => setBody fuel (some (op, applyOperation before (.ofParts parts.reverse))) []
      | none => setBody fuel before ((← setItem) :: parts)

/-- Reads a set in brackets. -/
def readSet : Reader Pattern := do
  let (negated, front) ← openSet
  return .brackets negated (← setBody ((← get).chars.length + 1) none front.reverse)

/-! ## Groups -/

/-- Whether a character may stand in the name of a group. -/
def isNameCharacter (isFirst : Bool) (c : Char) : Bool :=
  if isFirst then c == '_' || isAlphabetic c
  else c == '_' || c == '.' || c == '[' || c == ']' || isAlphanumeric c

/-- Reads the name of a group up to its closing bracket; no two groups share a name. -/
def groupName : Reader Unit := do
  let cs := (← get).chars
  let names := (← get).names
  let name := String.ofList (cs.takeWhile (· != '>'))
  let isName : Bool := match name.toList with
    | [] => false
    | c :: rest => isNameCharacter true c && rest.all (isNameCharacter false)
  match cs.dropWhile (· != '>') with
  | [] => failure
  | _ :: rest =>
    if isName ∧ !names.contains name then
      modify fun r => { r with chars := rest, names := name :: names }
    else failure

/-- Reads flags up to a `:` or a `)`. Each flag and the sign that turns flags off may stand once, and
the sign not at the end; `negated` tells that it was read, and `dangling` that it came last. -/
def switchList : Nat → (negated dangling : Bool) → Switches → Reader Switches
  | 0, _, _, _ => failure
  | fuel + 1, negated, dangling, read => do
    match (← get).chars with
    | [] => failure
    | ':' :: _ | ')' :: _ => if dangling then failure else return read.reverse
    | '-' :: rest =>
      if negated then failure
      continueWith rest
      switchList fuel true true read
    | c :: rest =>
      match Flag.ofLetter? c with
      | none => failure
      | some flag =>
        if read.any (·.1 = flag) then failure
        continueWith rest
        switchList fuel negated false ((flag, !negated) :: read)

/-- The state that flags give to one of them. -/
def stateOf (flag : Flag) (s : Switches) (before : Bool) : Bool := (s.lookup flag).getD before

mutual

/-- Reads alternatives up to a closing parenthesis or the end. -/
def readBranches : Nat → Reader (List Pattern)
  | 0 => failure
  | fuel + 1 => do
    let first ← readItems fuel []
    if ← accept "|" then return first :: (← readBranches fuel) else return [first]

/-- Reads the items of one alternative; `read` holds those so far, last first. -/
def readItems : Nat → List Pattern → Reader Pattern
  | 0, _ => failure
  | fuel + 1, read => do
    skipFill
    match (← get).chars with
    | [] | ')' :: _ | '|' :: _ => return .ofSequence read.reverse
    | '(' :: _ => readItems fuel ((← readGroup fuel) :: read)
    | '[' :: _ => readItems fuel ((← readSet) :: read)
    | '?' :: rest | '*' :: rest | '+' :: rest =>
      match read with
      | [] => failure
      | p :: before =>
        if !p.isRepeatable then failure
        continueWith rest
        let _ ← accept "?"
        readItems fuel (.repeated p :: before)
    | '\x7b' :: _ => failure
    | '\\' :: rest =>
      continueWith rest
      readItems fuel ((← readEscape) :: read)
    | '.' :: rest => continueWith rest; readItems fuel (.dot :: read)
    | '^' :: rest | '$' :: rest => continueWith rest; readItems fuel (.anchor :: read)
    | c :: rest => continueWith rest; readItems fuel (ordinary c :: read)

/-- Reads a group, or flags for the rest of the group around it. -/
def readGroup : Nat → Reader Pattern
  | 0 => failure
  | fuel + 1 => do
    symbol '('
    skipFill
    let before := (← get).ignoreBlanks
    if (← ahead "?=") ∨ (← ahead "?!") ∨ (← ahead "?<=") ∨ (← ahead "?<!") then failure
    if (← accept "?P<") ∨ (← accept "?<") then
      groupName
      readGroupBody fuel before []
    else if ← accept "?" then
      let s ← switchList ((← get).chars.length + 1) false false []
      modify fun r => { r with ignoreBlanks := stateOf .ignoreBlanks s before }
      if (← next) = ':' then readGroupBody fuel before s
      else if s.isEmpty then failure
      else return .switches s
    else readGroupBody fuel before []

/-- Reads the alternatives of a group and its closing parenthesis. Blanks mean afterwards what they
meant before. -/
def readGroupBody : Nat → Bool → Switches → Reader Pattern
  | 0, _, _ => failure
  | fuel + 1, before, s => do
    let body ← readBranches fuel
    symbol ')'
    modify fun r => { r with ignoreBlanks := before }
    return .group s (.ofBranches body)

end

/-- Reads a whole text as a pattern. -/
def read? (s : String) : Option Pattern := do
  let (body, rest) ← (readBranches (4 * s.length + 4)).run { chars := s.toList }
  if rest.chars.isEmpty then
    let p := ofBranches body
    if p.depth ≤ maxDepth then some p else none
  else none

end Ingest.Pattern
