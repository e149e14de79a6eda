import Ingest.Toml.Document
import Ingest.Toml.Scalar

/-!
# Toml/Reading — reading TOML documents

A document is read line by line; an array and a string of several lines may go on over line breaks.
Values nest less than 80 deep, and so do the tables of one dotted key.
-/

namespace Ingest.Toml

/-- The depth that nested values and dotted keys must not reach. -/
def depthLimit : Nat := 80

/-! ## Keys -/

/-- Skips spaces and tabs. -/
def skipSpaces : Reader Unit := do
  let _ ← takeWhile isSpace

/-- Whether a given character comes next. -/
def ahead (c : Char) : Reader Bool := do return (← get).head? == some c

/-- Reads one part of a key. -/
def keyPart : Reader String := do
  if (← get).head?.any isBare then return String.ofList (← takeWhile isBare) else quoted

/-- Reads the parts of a key, with spaces around each. -/
def keyParts : Nat → Reader (List String)
  | 0 => failure
  | fuel + 1 => do
    skipSpaces
    let part ← keyPart
    skipSpaces
    if ← ahead '.' then
      symbol '.'
      return part :: (← keyParts fuel)
    else return [part]

/-- Reads a key: the path to its table, and its last part. -/
def key : Reader (List String × String) := do
  let parts ← keyParts (← get).length
  if depthLimit ≤ parts.length then failure
  match parts.getLast? with
  | some last => return (parts.dropLast, last)
  | none => failure

/-- Reads a key with its value. -/
def assignment (readValue : Reader Value) : Reader (List String × String × Value) := do
  let (path, name) ← key
  symbol '='
  skipSpaces
  return (path, name, ← readValue)

/-! ## Values -/

/-- Skips a comment, if there is one. -/
def skipComment : Reader Unit := do
  if ← ahead '#' then
    let _ ← next
    let _ ← takeWhile isPrintable

/-- Skips spaces, comments and line breaks. -/
def skipFill : Nat → Reader Unit
  | 0 => return ()
  | fuel + 1 => do
    skipSpaces
    skipComment
    match afterBreak? (← get) with
    | some rest => set rest; skipFill fuel
    | none => return ()

/-- Reads the values of an array, after its opening bracket. -/
def arrayItems (readValue : Reader Value) : Nat → Reader (List Value)
  | 0 => failure
  | fuel + 1 => do
    skipFill (← get).length
    if ← ahead ']' then symbol ']'; return []
    let v ← readValue
    skipFill (← get).length
    if ← ahead ',' then
      symbol ','
      return v :: (← arrayItems readValue fuel)
    else symbol ']'; return [v]

/-- Reads the members of an inline table that has at least one. -/
def inlineMembers (readValue : Reader Value) : Nat → Item → Reader Item
  | 0, _ => failure
  | fuel + 1, table => do
    let (path, name, v) ← assignment readValue
    skipSpaces
    match table.assign path name v with
    | none => failure
    | some table =>
      if ← ahead ',' then symbol ','; inlineMembers readValue fuel table
      else symbol '}'; return table

/-- Reads an inline table, after its opening brace. -/
def inlineTable (readValue : Reader Value) : Reader Value := do
  skipSpaces
  if ← ahead '}' then symbol '}'; return .object []
  return (← inlineMembers readValue (← get).length .empty).toValue

/-- Reads a value that holds no others. -/
def scalar : Reader Value := do
  match (← get).head? with
  | some '"' | some '\'' => return .string (← string)
  | _ => plainScalar

/-- Reads a value that nests at most so deep. -/
def value : Nat → Reader Value
  | 0 => scalar
  | depth + 1 => do
    match (← get).head? with
    | some '[' =>
      symbol '['
      return .array (← arrayItems (value depth) (← get).length)
    | some '\x7b' => symbol '\x7b'; inlineTable (value depth)
    | _ => scalar

/-! ## Documents -/

/-- Reads the end of a line: a comment may stand there. -/
def endLine : Reader Unit := do
  skipSpaces
  skipComment
  match ← get with
  | [] => return ()
  | cs =>
    match afterBreak? cs with
    | some rest => set rest
    | none => failure

/-- Reads what a line says, up to its end. -/
def line : Reader Line := do
  skipSpaces
  match ← get with
  | '[' :: '[' :: rest =>
    set rest
    let (path, name) ← key
    symbol ']'
    symbol ']'
    return .element path name
  | '[' :: rest =>
    set rest
    let (path, name) ← key
    symbol ']'
    return .table path name
  | [] | '#' :: _ | '\n' :: _ | '\r' :: _ => return .blank
  | _ =>
    let (path, name, v) ← assignment (value (depthLimit - 1))
    return .assignment path name v

/-- Reads lines up to the end of the text. -/
def lines : Nat → Document → Reader Document
  | 0, d => return d
  | fuel + 1, d => do
    if (← get).isEmpty then return d
    let l ← line
    endLine
    match d.extend l with
    | some d => lines fuel d
    | none => failure

/-- Reads a document; a byte order mark may stand before it. -/
def read? (s : String) : Option Value := do
  let cs := match s.toList with
    | '\ufeff' :: rest => rest
    | cs => cs
  let (document, _) ← (lines (cs.length + 1) {}).run cs
  return document.toValue

end Ingest.Toml
