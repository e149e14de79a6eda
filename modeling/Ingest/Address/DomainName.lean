import Ingest.Address.NameTables
import Ingest.Address.Punycode
import Ingest.Text.Composition
import Ingest.Text.Graphic
import Ingest.Text.Marks
import Ingest.Text.Utf8

/-!
# Address/DomainName — names of servers

A name is brought into one form first: letters become small ones, characters that only look different
are replaced or dropped, and marks are composed with their letters. What is left is a list of labels
between dots. A label that starts with `xn--` stands for another one, which must have that form
already; every other label that is not ASCII is written so.
-/

namespace Ingest.DomainName

open Text

/-! ## Characters -/

/-- The ASCII characters that no name may hold: controls, spaces and marks with a meaning of their own
in addresses. -/
def isForbidden (c : Char) : Bool :=
  c ≤ ' ' || c == '\x7f' || "%#/:<>?@[\\]^|".toList.contains c

/-- What a character is replaced by, if it is. -/
def replacement? (c : Char) : Option (List Char) :=
  let n := c.toNat
  replacements.findSome? fun (first, last, step, words) =>
    if first ≤ n ∧ n ≤ last ∧ (n - first) % step = 0 then
      (words.toList.splitOn ' ')[(n - first) / step]?
    else none

/-- Whether a character beyond ASCII may stand in a name as it is. The two joiners may, where they
have something to join. -/
def isKept (c : Char) : Bool :=
  c == '\u200c' || c == '\u200d' ||
    (isGraphic c && !inRanges refusedRanges c && !inRanges droppedRanges c &&
      (replacement? c).isNone)

/-- What becomes of a character: some characters in its place, or `none` if it is refused. -/
def normalize? (c : Char) : Option (List Char) :=
  if c.toNat < 0x80 then if isForbidden c then none else some [c.toLower]
  else if inRanges droppedRanges c then some []
  else if inRanges refusedRanges c then none
  else
    match replacement? c with
    | some cs => some cs
    | none => if isKept c then some [c] else none

/-! ## Joiners -/

/-- Whether a character suppresses a vowel. -/
def isVirama (c : Char) : Bool := combiningClass c = 9

/-- Whether a character takes part in joining across marks, on the side that `ranges` says. -/
def joinsAcross (ranges : List (Nat × Nat)) (cs : List Char) : Bool :=
  match cs.dropWhile isNonspacingMark with
  | [] => false
  | c :: _ => inRanges ranges c || inRanges dualJoiningRanges c

/-- Whether every joiner stands where it may: after a character that suppresses a vowel, or, if it
keeps characters apart, between two that would join. `before` holds the characters before, last
first. -/
def areJoinersPlaced (before : List Char) : List Char → Bool
  | [] => true
  | c :: rest =>
    let afterVirama := before.head?.any isVirama
    let placed :=
      if c = '\u200c' then
        afterVirama || (joinsAcross leftJoiningRanges before && joinsAcross rightJoiningRanges rest)
      else c != '\u200d' || afterVirama
    placed && areJoinersPlaced (c :: before) rest

/-! ## Directions -/

/-- In which direction a character runs. -/
inductive Direction where
  | left
  | right
  | arabicNumber
  | europeanNumber
  | neutral
  | mark
deriving DecidableEq, Repr

/-- In which direction a character runs. -/
def directionOf (c : Char) : Direction :=
  if leftToRightMarks.contains c.toNat then .left
  else if isNonspacingMark c then .mark
  else if inRanges rightToLeftRanges c then .right
  else if inRanges arabicNumberRanges c then .arabicNumber
  else if inRanges europeanNumberRanges c then .europeanNumber
  else if inRanges neutralRanges c ∨ c = '\u200c' ∨ c = '\u200d' then .neutral
  else .left

/-- Whether a label has characters that run from right to left. -/
def runsRight (label : List Char) : Bool :=
  label.any fun c => directionOf c = .right || directionOf c = .arabicNumber

/-- Whether the directions in a label go together. A label starts with a letter, keeps to the direction
of it, and ends in a letter of that direction or a number, marks aside. -/
def areDirectionsConsistent (label : List Char) : Bool :=
  let ds := label.map directionOf
  let last := (ds.reverse.dropWhile (· = .mark)).head?
  match ds.head? with
  | none => true
  | some .left =>
    !ds.contains .right && !ds.contains .arabicNumber &&
      (last = some .left || last = some .europeanNumber)
  | some .right =>
    !ds.contains .left && !(ds.contains .arabicNumber && ds.contains .europeanNumber) &&
      (last = some .right || last = some .arabicNumber || last = some .europeanNumber)
  | some _ => false

/-! ## Labels -/

/-- The greatest number of characters in a label that is not ASCII. -/
def maxLabel : Nat := 1000

/-- The greatest number of characters after `xn--`. -/
def maxEncoded : Nat := 2000

/-- Whether a text is ASCII. -/
def isAscii (cs : List Char) : Bool := cs.all (·.toNat < 0x80)

/-- Whether the characters of a label stand where they may. -/
def isPlaced (label : List Char) : Bool :=
  !label.head?.any isMark && areJoinersPlaced [] label &&
    (isAscii label || label.length ≤ maxLabel)

/-- A label in both of its forms. -/
structure Label where
  /-- What it stands for. -/
  text : List Char
  /-- How it is written with ASCII characters only. -/
  written : List Char
deriving DecidableEq, Repr

/-- Reads a label, which stands for another one after `xn--`; `none` if there is no such label. -/
def label? (cs : List Char) : Option Label :=
  match cs with
  | 'x' :: 'n' :: '-' :: '-' :: rest => do
    if !isAscii rest ∨ maxEncoded < rest.length then failure
    let label ← Punycode.decode? rest
    if isAscii label ∨ !label.all (fun c => normalize? c = some [c]) ∨ composed label ≠ label ∨
        !isPlaced label then failure
    return ⟨label, cs⟩
  | _ => do
    if !isPlaced cs then failure
    return ⟨cs, if isAscii cs then cs else "xn--".toList ++ Punycode.encode cs⟩

/-- Reads a name: how it is written with ASCII characters only, or `none` if it is no name. -/
def read? (bytes : List UInt8) : Option (List Char) := do
  let text ← (ofUtf8 bytes).toOption
  let name := composed (← text.toList.mapM normalize?).flatten
  let labels ← (name.splitOn '.').mapM label?
  let texts := labels.map Label.text
  if texts.any runsRight ∧ !texts.all areDirectionsConsistent then failure
  return ['.'].intercalate (labels.map Label.written)

end Ingest.DomainName
