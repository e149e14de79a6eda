import Ingest.Text.CompositionTables

/-!
# Text/Composition — the composed form of a text

A letter with marks can be written in several ways. In the composed form the marks of a letter stand in
the order of their classes, and a letter and a mark are one character where there is one for them.
-/

namespace Ingest.Text

/-- The class of a mark among the marks of one character; zero for a character that is no such mark. -/
def combiningClass (c : Char) : Nat :=
  (combiningClasses.findSome? fun (first, last, k) =>
    if first ≤ c.toNat ∧ c.toNat ≤ last then some k else none).getD 0

/-! ## Two characters and the one they make up -/

/-- The first syllable of Hangul; each has a consonant, a vowel, and perhaps a final one. -/
def syllableBase : Nat := 0xAC00

/-- The first leading consonant of Hangul. There are 19. -/
def leadBase : Nat := 0x1100

/-- The first vowel of Hangul. There are 21. -/
def vowelBase : Nat := 0x1161

/-- What stands before the first final consonant of Hangul. There are 27. -/
def finalBase : Nat := 0x11A7

/-- The syllable that two parts of one make up. -/
def syllable? (a b : Nat) : Option Nat :=
  if leadBase ≤ a ∧ a < leadBase + 19 ∧ vowelBase ≤ b ∧ b < vowelBase + 21 then
    some (syllableBase + ((a - leadBase) * 21 + (b - vowelBase)) * 28)
  else if syllableBase ≤ a ∧ a < syllableBase + 19 * 21 * 28 ∧ (a - syllableBase) % 28 = 0 ∧
      finalBase < b ∧ b < finalBase + 28 then
    some (a + (b - finalBase))
  else none

/-- The two parts that make up a syllable. -/
def syllableParts? (n : Nat) : Option (Nat × Nat) :=
  let k := n - syllableBase
  if n < syllableBase ∨ 19 * 21 * 28 ≤ k then none
  else if k % 28 = 0 then some (leadBase + k / 28 / 21, vowelBase + k / 28 % 21)
  else some (n - k % 28, finalBase + k % 28)

/-- The character that two make up. -/
def compose? (a b : Char) : Option Char :=
  ((syllable? a.toNat b.toNat).or ((compositions.lookup b.toNat).bind (·.lookup a.toNat))).map
    Char.ofNat

/-- The two characters that make up one. -/
def parts? (c : Char) : Option (Char × Char) :=
  let pair := (syllableParts? c.toNat).or
    (compositions.findSome? fun (b, firsts) =>
      (firsts.find? fun (_, n) => n = c.toNat).map fun (a, _) => (a, b))
  pair.map fun (a, b) => (Char.ofNat a, Char.ofNat b)

/-! ## Forms of a text -/

/-- The characters that make up one, taken apart so many times at most. -/
def decompose : Nat → Char → List Char
  | 0, c => [c]
  | depth + 1, c =>
    match parts? c with
    | some (a, b) => decompose depth a ++ [b]
    | none => [c]

/-- No character has more than three marks in it. -/
def maxDepth : Nat := 3

/-- Puts a character in front of a text, behind the marks of a lower class. -/
def insertMark (c : Char) : List Char → List Char
  | [] => [c]
  | d :: rest =>
    if combiningClass d ≠ 0 ∧ combiningClass d < combiningClass c then d :: insertMark c rest
    else c :: d :: rest

/-- Composes a character with what follows it. `kept` are the marks between that stay marks, last
first; a mark of the same class as one of them, or of a lower one, cannot be reached. -/
def composeAfter (letter : Char) (kept : List Char) : List Char → List Char
  | [] => letter :: kept.reverse
  | c :: rest =>
    let isReachable := kept.head?.all fun d => combiningClass d < combiningClass c
    match if isReachable then compose? letter c else none with
    | some whole => composeAfter whole kept rest
    | none =>
      if combiningClass c = 0 then letter :: kept.reverse ++ composeAfter c [] rest
      else composeAfter letter (c :: kept) rest

/-- Composes a text whose marks are in order. -/
def compose : List Char → List Char
  | [] => []
  | c :: rest => if combiningClass c = 0 then composeAfter c [] rest else c :: compose rest

/-- The composed form of a text. -/
def composed (cs : List Char) : List Char :=
  compose ((cs.flatMap (decompose maxDepth)).foldr insertMark [])

end Ingest.Text
