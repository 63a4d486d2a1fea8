/-! # UTF-8

Bytes are read one at a time by a machine that knows how many bytes of the character under way are
still owed and between which bounds the next one must lie. `decode` refuses malformed input and
says where; `decodeLossy` puts U+FFFD in place of each malformed sequence.
-/

namespace IdentityGroups.Text.Utf8

def encode (s : String) : List UInt8 := s.toList.flatMap String.utf8EncodeChar

structure Partial where
  /-- Bytes read so far. -/
  seen : Nat
  /-- Bytes still to come. -/
  owed : Nat
  low : UInt8
  high : UInt8
  /-- The number formed by the bits read so far. -/
  bits : Nat
  deriving DecidableEq, Repr

inductive Step where
  | finished (c : Char)
  | more (p : Partial)
  | refused
  deriving DecidableEq, Repr

def first (b : UInt8) : Step :=
  -- Bounds on the second byte rule out longer forms than needed, surrogates and what lies above U+10FFFF.
  if b < 0x80 then .finished (Char.ofNat b.toNat)
  else if b < 0xc2 then .refused
  else if b < 0xe0 then .more ⟨1, 1, 0x80, 0xbf, b.toNat - 0xc0⟩
  else if b < 0xf0 then
    .more ⟨1, 2, if b = 0xe0 then 0xa0 else 0x80, if b = 0xed then 0x9f else 0xbf, b.toNat - 0xe0⟩
  else if b < 0xf5 then
    .more ⟨1, 3, if b = 0xf0 then 0x90 else 0x80, if b = 0xf4 then 0x8f else 0xbf, b.toNat - 0xf0⟩
  else .refused

def Partial.next (p : Partial) (b : UInt8) : Step :=
  if p.low ≤ b ∧ b ≤ p.high then
    let bits := p.bits * 64 + (b.toNat - 0x80)
    if p.owed ≤ 1 then .finished (Char.ofNat bits)
    else .more ⟨p.seen + 1, p.owed - 1, 0x80, 0xbf, bits⟩
  else .refused

inductive Malformed where
  /-- The bytes end within a character that starts at `index`. -/
  | incomplete (index : Nat)
  /-- No character starts with the `length` bytes at `index` and the byte after them. -/
  | invalid (length index : Nat)
  deriving DecidableEq, Repr

def Malformed.message : Malformed → String
  | .incomplete i => s!"incomplete utf-8 byte sequence from index {i}"
  | .invalid n i => s!"invalid utf-8 sequence of {n} bytes from index {i}"

/-- Decodes `bytes`, the first of which has number `index`, after the bytes of `pending`. -/
def decodeFrom (pending : Option Partial) (index : Nat) :
    List UInt8 → Except Malformed (List Char)
  | [] =>
    match pending with
    | none => .ok []
    | some p => .error (.incomplete (index - p.seen))
  | b :: bytes =>
    match pending with
    | none =>
      match first b with
      | .finished c => (decodeFrom none (index + 1) bytes).map (c :: ·)
      | .more p => decodeFrom (some p) (index + 1) bytes
      | .refused => .error (.invalid 1 index)
    | some p =>
      match p.next b with
      | .finished c => (decodeFrom none (index + 1) bytes).map (c :: ·)
      | .more q => decodeFrom (some q) (index + 1) bytes
      | .refused => .error (.invalid p.seen (index - p.seen))

def decode (bytes : List UInt8) : Except Malformed String :=
  (decodeFrom none 0 bytes).map String.ofList

/-- As `decodeFrom`, with U+FFFD for each malformed sequence. -/
def decodeLossyFrom (pending : Option Partial) : List UInt8 → List Char
  | [] => if pending.isSome then ['\ufffd'] else []
  | b :: bytes =>
    let afresh (before : List Char) : List Char :=
      match first b with
      | .finished c => before ++ c :: decodeLossyFrom none bytes
      | .more p => before ++ decodeLossyFrom (some p) bytes
      | .refused => before ++ '\ufffd' :: decodeLossyFrom none bytes
    -- A byte that is refused within a character may start the next one.
    match pending with
    | none => afresh []
    | some p =>
      match p.next b with
      | .finished c => c :: decodeLossyFrom none bytes
      | .more q => decodeLossyFrom (some q) bytes
      | .refused => afresh ['\ufffd']

def decodeLossy (bytes : List UInt8) : String := String.ofList (decodeLossyFrom none bytes)

example : decode [0x68, 0xc3] = .error (.incomplete 1) := by rfl
example : decode [0xe0, 0x80, 0x41] = .error (.invalid 1 0) := by rfl

end IdentityGroups.Text.Utf8
