import Ingest.Pattern.Basic

/-!
# Pattern/Support — which regular expressions can be used

A pattern is matched against text without any table of Unicode. In Unicode mode, which is how a
pattern starts, nothing can ignore case, and neither shorthands nor places between words are known.
Outside Unicode mode they are about ASCII; there a pattern must not match anything that is no text, so
it has no negated set, no dot and no byte above `7F`.
-/

namespace Ingest.Pattern

/-- The flags that decide what can be used. -/
structure Mode where
  /-- Whether case is ignored. -/
  ignoreCase : Bool := false
  /-- Whether characters are those of Unicode. -/
  unicode : Bool := true
deriving DecidableEq, Repr

/-- The mode after some flags. -/
def Mode.switch (m : Mode) (s : Switches) : Mode where
  ignoreCase := (s.lookup .ignoreCase).getD m.ignoreCase
  unicode := (s.lookup .unicode).getD m.unicode

/-- Whether a literal can be used. -/
def Literal.isSupported (m : Mode) (l : Literal) : Bool :=
  if m.unicode then !m.ignoreCase else !l.asByte || l.char.toNat < 0x80

/-- Whether a literal can be used in a set. -/
def Literal.isSupportedInSet (m : Mode) (l : Literal) : Bool :=
  if m.unicode then !m.ignoreCase else l.char.toNat < 0x80

/-- Whether a shorthand can be used. -/
def isShorthandSupported (m : Mode) (negated : Bool) : Bool := !m.unicode && !negated

mutual

/-- Whether a set can be used. -/
def CharSet.isSupported (m : Mode) : CharSet → Bool
  | .empty => true
  | .literal l => l.isSupportedInSet m
  | .range a b => a.isSupportedInSet m && b.isSupportedInSet m
  | .ascii negated => if m.unicode then !m.ignoreCase else !negated
  | .shorthand negated => isShorthandSupported m negated
  | .union parts => arePartsSupported m parts
  | .brackets negated body => (m.unicode || !negated) && body.isSupported m
  | .operation _ left right => left.isSupported m && right.isSupported m

/-- Whether all of some sets can be used. -/
def arePartsSupported (m : Mode) : List CharSet → Bool
  | [] => true
  | part :: rest => part.isSupported m && arePartsSupported m rest

end

mutual

/-- The mode after a pattern; `none` if the pattern cannot be used. -/
def modeAfter? (m : Mode) : Pattern → Option Mode
  | .empty | .anchor => some m
  | .switches s => some (m.switch s)
  | .literal l => if l.isSupported m then some m else none
  | .dot => if m.unicode then some m else none
  | .wordBoundary => if m.unicode then none else some m
  | .shorthand negated => if isShorthandSupported m negated then some m else none
  | .brackets negated body => if (CharSet.brackets negated body).isSupported m then some m else none
  | .repeated p => p.modeAfter? m
  | .group s p => (p.modeAfter? (m.switch s)).map fun _ => m
  | .either ps => modeAfterAll? m ps
  | .sequence ps => modeAfterAll? m ps

/-- The mode after some patterns, from left to right. -/
def modeAfterAll? (m : Mode) : List Pattern → Option Mode
  | [] => some m
  | p :: rest => (p.modeAfter? m).bind fun m => modeAfterAll? m rest

end

/-- Whether a pattern can be used. -/
def isSupported (p : Pattern) : Bool := (p.modeAfter? {}).isSome

end Ingest.Pattern
