import SourceMetrics.Number.Total
import SourceMetrics.Text.Quoted

/-!
# Text from bytes

Bytes are read as UTF-8. A sequence is well formed if its first byte announces how many bytes follow
and in which range the first of them lies, which excludes long forms, surrogates and numbers beyond
the last character; all further bytes lie between 0x80 and 0xBF. Bytes that do not fit are taken
together as long as they begin a well-formed sequence, so that every invalid part is as long as
possible.

Reading either puts a replacement character for each invalid part or fails at the first.

## Main definitions

* `Utf8.Lead` — what a first byte announces
* `Utf8.pieces` — characters and invalid parts
* `Utf8.decode`, `Utf8.decodeStrict` — the two ways to read
-/

namespace SourceMetrics

namespace Utf8

/-- What the first byte of a sequence announces. -/
structure Lead where
  /-- The number of bytes that follow. -/
  owed : Nat
  /-- The range of the byte that follows. -/
  low : Nat
  high : Nat
  /-- The bits of the character that the first byte holds. -/
  bits : Nat

/-- What a byte announces, if a sequence can start with it. -/
def Lead.ofByte? (b : Nat) : Option Lead :=
  if b < 0x80 then some ⟨0, 0x80, 0xBF, b⟩
  else if b < 0xC2 then none
  else if b < 0xE0 then some ⟨1, 0x80, 0xBF, b - 0xC0⟩
  else if b < 0xF0 then
    some ⟨2, if b = 0xE0 then 0xA0 else 0x80, if b = 0xED then 0x9F else 0xBF, b - 0xE0⟩
  else if b < 0xF5 then
    some ⟨3, if b = 0xF0 then 0x90 else 0x80, if b = 0xF4 then 0x8F else 0xBF, b - 0xF0⟩
  else none

/-- The bytes at the front that continue a sequence, at most `owed` of them, where the first lies in
a given range. -/
def continuation (low high : Nat) : Nat → List UInt8 → List Nat
  | owed + 1, b :: rest =>
    if low ≤ b.toNat && b.toNat ≤ high then b.toNat :: continuation 0x80 0xBF owed rest else []
  | _, _ => []

/-- Why bytes are not well formed. -/
inductive Defect where
  | start
  | continuation
  | truncated
  deriving DecidableEq, Repr

/-- The description of a defect. -/
def Defect.description : Defect → String
  | start => "invalid start byte"
  | continuation => "invalid continuation byte"
  | truncated => "unexpected end of data"

/-- A character, or an invalid part of the given length. -/
inductive Piece where
  | char (c : Char)
  | invalid (first : Nat) (length : Nat) (defect : Defect)
  deriving DecidableEq, Repr

/-- The piece at the front of some bytes, and the number of bytes after the first that
belong to it. -/
def pieceAt (b : UInt8) (rest : List UInt8) : Piece × Nat :=
  match Lead.ofByte? b.toNat with
  | none => (.invalid b.toNat 1 .start, 0)
  | some lead =>
    let tail := continuation lead.low lead.high lead.owed rest
    if tail.length = lead.owed then
      (.char (Char.ofNat (tail.foldl (fun n t => 64 * n + (t - 0x80)) lead.bits)), lead.owed)
    else
      let defect := if tail.length < rest.length then Defect.continuation else .truncated
      (.invalid b.toNat (tail.length + 1) defect, tail.length)

/-- The pieces of some bytes, after `skip` bytes. -/
def piecesFrom : Nat → List UInt8 → List Piece
  | _, [] => []
  | skip + 1, _ :: rest => piecesFrom skip rest
  | 0, b :: rest =>
    let found := pieceAt b rest
    found.1 :: piecesFrom found.2 rest

/-- The characters and invalid parts of some bytes. -/
def pieces (bytes : List UInt8) : List Piece := piecesFrom 0 bytes

/-- The character that stands for an invalid part. -/
def replacement : Char := '\ufffd'

/-- The character of a piece. -/
def Piece.toChar : Piece → Char
  | char c => c
  | invalid _ _ _ => replacement

/-- The text of some bytes, with a replacement character for each invalid part. -/
def decode (bytes : List UInt8) : List Char := (pieces bytes).map Piece.toChar

/-- An invalid part of a text. -/
structure Fault where
  position : Nat
  first : Nat
  length : Nat
  defect : Defect
  deriving DecidableEq, Repr

/-- The message of a fault. -/
def Fault.message (f : Fault) : String :=
  let place :=
    if f.length = 1 then
      "byte 0x" ++ String.ofList (Text.hexDigits 2 f.first) ++ s!" in position {f.position}"
    else s!"bytes in position {f.position}-{f.position + f.length - 1}"
  "'utf-8' codec can't decode " ++ place ++ ": " ++ f.defect.description

/-- The number of bytes of a character. -/
def byteLength (c : Char) : Nat := c.utf8Size

/-- The characters of pieces that start at a position, up to the first invalid part. -/
def charsFrom (position : Nat) : List Piece → Except Fault (List Char)
  | [] => .ok []
  | .char c :: rest => (charsFrom (position + byteLength c) rest).map (c :: ·)
  | .invalid first length defect :: _ => .error ⟨position, first, length, defect⟩

/-- The text of some bytes, all of which have to be valid. -/
def decodeStrict (bytes : List UInt8) : Except Fault (List Char) := charsFrom 0 (pieces bytes)

/-- The number of bytes of a text. -/
def size (cs : List Char) : Nat := Number.total (cs.map byteLength)

end Utf8

end SourceMetrics
