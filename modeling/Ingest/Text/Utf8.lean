/-!
# Text/Utf8 — texts as bytes

Bytes are read from the front: a character, or bytes that are none. The second kind is as long as the
bytes could still have begun a character, and at least one byte; bytes that end too early are all of
one kind. Reading strictly names the first place that is no text, and reading loosely puts the
replacement character there.
-/

namespace Ingest.Text

/-- Where bytes are no text. -/
structure Utf8Fault where
  /-- How many bytes before are text. -/
  index : Nat
  /-- How many bytes are none; `none` if the bytes end inside a character. -/
  length : Option Nat
deriving DecidableEq, Repr

/-- The wording of a fault. -/
def Utf8Fault.message (f : Utf8Fault) : String :=
  match f.length with
  | some n =>
    "invalid utf-8 sequence of " ++ toString n ++ " bytes from index " ++ toString f.index
  | none => "incomplete utf-8 byte sequence from index " ++ toString f.index

/-- The bytes of some characters. -/
def utf8Bytes (cs : List Char) : List UInt8 := cs.flatMap String.utf8EncodeChar

/-- What stands in front of some bytes, and how many bytes it takes. -/
inductive Utf8Piece where
  | char (c : Char) (width : Nat)
  | invalid (width : Nat)
  | incomplete (width : Nat)
deriving DecidableEq, Repr

/-- How many bytes a piece takes. -/
def Utf8Piece.width : Utf8Piece → Nat
  | .char _ n | .invalid n | .incomplete n => n

/-- What a byte begins: how many bytes follow, the bounds of the next one, and its own part of the
code. -/
def leadByte? (b : UInt8) : Option (Nat × UInt8 × UInt8 × Nat) :=
  let n := b.toNat
  if n < 0x80 then some (0, 0x80, 0xBF, n)
  else if n < 0xC2 then none
  else if n < 0xE0 then some (1, 0x80, 0xBF, n - 0xC0)
  else if n = 0xE0 then some (2, 0xA0, 0xBF, 0)
  else if n = 0xED then some (2, 0x80, 0x9F, 0xD)
  else if n < 0xF0 then some (2, 0x80, 0xBF, n - 0xE0)
  else if n = 0xF0 then some (3, 0x90, 0xBF, 0)
  else if n < 0xF4 then some (3, 0x80, 0xBF, n - 0xF0)
  else if n = 0xF4 then some (3, 0x80, 0x8F, 4)
  else none

/-- Reads so many more bytes of a character. -/
def readContinuation : Nat → UInt8 → UInt8 → Nat → Nat → List UInt8 → Utf8Piece
  | 0, _, _, code, width, _ => .char (Char.ofNat code) width
  | _ + 1, _, _, _, width, [] => .incomplete width
  | n + 1, low, high, code, width, b :: rest =>
    if low ≤ b ∧ b ≤ high then
      readContinuation n 0x80 0xBF (code * 64 + (b.toNat - 0x80)) (width + 1) rest
    else .invalid width

/-- Reads what a byte begins. -/
def readPiece (b : UInt8) (rest : List UInt8) : Utf8Piece :=
  match leadByte? b with
  | none => .invalid 1
  | some (n, low, high, code) => readContinuation n low high code 1 rest

/-- Reads bytes to their end. -/
def utf8Pieces : List UInt8 → List Utf8Piece
  | [] => []
  | b :: rest =>
    let piece := readPiece b rest
    piece :: utf8Pieces (rest.drop (piece.width - 1))
termination_by bs => bs.length
decreasing_by simp only [List.length_drop, List.length_cons]; omega

/-- Puts pieces together as text, after so many bytes of text. -/
def joinPieces (index : Nat) : List Utf8Piece → Except Utf8Fault (List Char)
  | [] => .ok []
  | .char c width :: rest => do return c :: (← joinPieces (index + width) rest)
  | .invalid width :: _ => .error ⟨index, some width⟩
  | .incomplete _ :: _ => .error ⟨index, none⟩

/-- The text that bytes encode. -/
def ofUtf8 (bs : List UInt8) : Except Utf8Fault String := do
  return String.ofList (← joinPieces 0 (utf8Pieces bs))

/-- The text that bytes encode, with `U+FFFD` where they encode none. -/
def ofUtf8Loosely (bs : List UInt8) : String :=
  String.ofList ((utf8Pieces bs).map fun
    | .char c _ => c
    | _ => '\ufffd')

end Ingest.Text
