/-!
# Pattern/Basic — regular expressions

A regular expression as it is written: what it matches is described only as far as it decides whether
the expression can be used. Alternatives, sequences, sets and groups nest at most 250 deep.
-/

namespace Ingest

namespace Pattern

/-- A switch that a pattern may turn on or off. -/
inductive Flag where
  | ignoreCase
  | multiLine
  | dotMatchesAll
  | swapGreed
  | unicode
  | crlf
  | ignoreBlanks
deriving DecidableEq, Repr

/-- The letter for a flag. -/
def Flag.ofLetter? : Char → Option Flag
  | 'i' => some ignoreCase
  | 'm' => some multiLine
  | 's' => some dotMatchesAll
  | 'U' => some swapGreed
  | 'u' => some unicode
  | 'R' => some crlf
  | 'x' => some ignoreBlanks
  | _ => none

/-- Flags turned on, with `true`, or off, in the order in which they are written. -/
abbrev Switches := List (Flag × Bool)

/-- A character that stands for itself. -/
structure Literal where
  /-- The character. -/
  char : Char
  /-- Whether it is written as two hexadecimal digits, so that it may also mean a byte. -/
  asByte : Bool
deriving DecidableEq, Repr

/-- How two sets of characters are put together. -/
inductive SetOperation where
  | intersection
  | difference
  | symmetricDifference
deriving DecidableEq, Repr

/-- A set of characters. -/
inductive CharSet where
  | empty
  | literal (l : Literal)
  | range (first last : Literal)
  /-- A named set of ASCII characters such as `[:alpha:]`, or all others. -/
  | ascii (negated : Bool)
  /-- Digits, blanks or word characters, or all others. -/
  | shorthand (negated : Bool)
  | union (parts : List CharSet)
  /-- A set in brackets, or all other characters. -/
  | brackets (negated : Bool) (body : CharSet)
  | operation (op : SetOperation) (left right : CharSet)

/-- The union of some sets. -/
def CharSet.ofParts : List CharSet → CharSet
  | [] => .empty
  | [part] => part
  | parts => .union parts

end Pattern

open Pattern

/-- A regular expression. -/
inductive Pattern where
  | empty
  /-- Flags for the rest of the group. -/
  | switches (s : Switches)
  | literal (l : Literal)
  | dot
  /-- The start or the end of a line or of the text. -/
  | anchor
  /-- A place between a word and what is no word, or any other place. -/
  | wordBoundary
  /-- Digits, blanks or word characters, or all others. -/
  | shorthand (negated : Bool)
  /-- A set in brackets, or all other characters. -/
  | brackets (negated : Bool) (body : CharSet)
  | repeated (p : Pattern)
  | group (s : Switches) (p : Pattern)
  | either (ps : List Pattern)
  | sequence (ps : List Pattern)

namespace Pattern

/-- Some patterns one after the other. -/
def ofSequence : List Pattern → Pattern
  | [] => .empty
  | [p] => p
  | ps => .sequence ps

/-- One of some patterns. -/
def ofBranches : List Pattern → Pattern
  | [p] => p
  | ps => .either ps

/-- Whether a pattern may be repeated. -/
def isRepeatable : Pattern → Bool
  | .empty | .switches _ => false
  | _ => true

/-! ## Nesting -/

mutual

/-- How deep a set of characters nests. -/
def CharSet.depth : CharSet → Nat
  | .union parts => partsDepth parts + 1
  | .brackets _ body => body.depth + 1
  | .operation _ left right => max left.depth right.depth + 1
  | _ => 0

/-- How deep the deepest of some sets nests. -/
def partsDepth : List CharSet → Nat
  | [] => 0
  | part :: rest => max part.depth (partsDepth rest)

end

mutual

/-- How deep a pattern nests. -/
def depth : Pattern → Nat
  | .brackets _ body => body.depth + 1
  | .repeated p => p.depth + 1
  | .group _ p => p.depth + 1
  | .either ps => depths ps + 1
  | .sequence ps => depths ps + 1
  | _ => 0

/-- How deep the deepest of some patterns nests. -/
def depths : List Pattern → Nat
  | [] => 0
  | p :: rest => max p.depth (depths rest)

end

/-- The greatest depth of a pattern. -/
def maxDepth : Nat := 250

end Pattern

end Ingest
