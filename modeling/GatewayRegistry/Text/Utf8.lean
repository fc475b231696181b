/-!
# Bytes as text

`pieces` reads bytes as UTF-8. Where no character can be read, it takes the longest start of one as
a broken piece and goes on behind it. Of the two ways to make text of the pieces, `decodeUtf8`
refuses broken ones and says where the first of them is, and `decodeLossy` replaces each of them.
-/

namespace GatewayRegistry
namespace Text

/-! ### Pieces -/

/-- What is read at one place. -/
inductive Piece where
  /-- A character that takes some number of bytes. -/
  | char (c : Char) (size : Nat)
  /-- The start of a character that does not go on as one. -/
  | broken (size : Nat)
  /-- The start of a character at the end of the bytes. -/
  | cutOff (size : Nat)
  deriving DecidableEq, Repr

/-- The start of a character. -/
structure CharStart where
  /-- The number of bytes read. -/
  size : Nat
  /-- The number of bytes that are still missing, which is not zero. -/
  missing : Nat
  /-- The least and the greatest byte that can be the next one. -/
  least : UInt8
  greatest : UInt8
  /-- The bits read. -/
  value : Nat
  deriving DecidableEq, Repr

/-- Read the first byte of a character. -/
def enter (b : UInt8) : List Piece × Option CharStart :=
  let start (missing : Nat) (least greatest : UInt8) (value : Nat) :
      List Piece × Option CharStart := ([], some ⟨1, missing, least, greatest, value⟩)
  if b < 0x80 then ([.char (Char.ofNat b.toNat) 1], none)
  else if b < 0xc2 then ([.broken 1], none)
  else if b < 0xe0 then start 1 0x80 0xbf (b.toNat - 0xc0)
  else if b = 0xe0 then start 2 0xa0 0xbf 0
  else if b = 0xed then start 2 0x80 0x9f 0xd
  else if b < 0xf0 then start 2 0x80 0xbf (b.toNat - 0xe0)
  else if b = 0xf0 then start 3 0x90 0xbf 0
  else if b < 0xf4 then start 3 0x80 0xbf (b.toNat - 0xf0)
  else if b = 0xf4 then start 3 0x80 0x8f 4
  else ([.broken 1], none)

/-- Read a further byte of a character. -/
def goOn (s : CharStart) (b : UInt8) : List Piece × Option CharStart :=
  if s.least ≤ b ∧ b ≤ s.greatest then
    let value := 64 * s.value + (b.toNat - 0x80)
    if s.missing ≤ 1 then ([.char (Char.ofNat value) (s.size + 1)], none)
    else ([], some ⟨s.size + 1, s.missing - 1, 0x80, 0xbf, value⟩)
  else
    let (read, next) := enter b
    (.broken s.size :: read, next)

/-- The pieces of bytes that follow the start of a character, if there is one. -/
def piecesAfter (start : Option CharStart) : List UInt8 → List Piece
  | [] => start.elim [] fun s => [.cutOff s.size]
  | b :: bs =>
    let (read, next) := start.elim (enter b) (goOn · b)
    read ++ piecesAfter next bs

/-- The pieces of bytes. -/
def pieces (bs : List UInt8) : List Piece := piecesAfter none bs

/-! ### Text -/

/-- Where bytes stop being text. -/
inductive Utf8Fault where
  /-- Some number of bytes from an index on are no character. -/
  | invalid (size index : Nat)
  /-- The last character starts at an index and is not complete. -/
  | incomplete (index : Nat)
  deriving DecidableEq, Repr

def Utf8Fault.message : Utf8Fault → String
  | invalid size index =>
    "invalid utf-8 sequence of " ++ toString size ++ " bytes from index " ++ toString index
  | incomplete index => "incomplete utf-8 byte sequence from index " ++ toString index

/-- The characters of pieces of which the first is at an index. -/
def charsFrom (index : Nat) : List Piece → Except Utf8Fault (List Char)
  | [] => .ok []
  | .char c size :: rest => do return c :: (← charsFrom (index + size) rest)
  | .broken size :: _ => .error (.invalid size index)
  | .cutOff _ :: _ => .error (.incomplete index)

/-- The text that bytes are. -/
def decodeUtf8 (bs : List UInt8) : Except Utf8Fault String :=
  (charsFrom 0 (pieces bs)).map String.ofList

/-- The text that bytes are, with every broken piece replaced. -/
def decodeLossy (bs : List UInt8) : String :=
  String.ofList <| (pieces bs).map fun
    | .char c _ => c
    | _ => '\ufffd'

/-- The bytes of a text. -/
def bytes (s : String) : List UInt8 := s.toUTF8.toList

end Text
end GatewayRegistry
