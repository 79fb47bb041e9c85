import BrowserTab.Encoding.Decoder

/-!
# UTF-8

The encoder, and a decoder for bytes that may be anything. A sequence is given up at the first byte
that cannot continue it; the bytes so far then count as one malformed piece and that byte is read
afresh, so malformed pieces are as long as they can be and no character is swallowed.
-/

namespace BrowserTab.Encoding.Utf8

/-- The bytes of one character. -/
def encodeChar (c : Char) : Bytes :=
  let n := c.toNat
  if n < 0x80 then [.ofNat n]
  else if n < 0x800 then [.ofNat (0xC0 + n / 64), .ofNat (0x80 + n % 64)]
  else if n < 0x10000 then
    [.ofNat (0xE0 + n / 4096), .ofNat (0x80 + n / 64 % 64), .ofNat (0x80 + n % 64)]
  else
    [.ofNat (0xF0 + n / 262144), .ofNat (0x80 + n / 4096 % 64), .ofNat (0x80 + n / 64 % 64),
      .ofNat (0x80 + n % 64)]

def encode (t : List Char) : Bytes :=
  t.flatMap encodeChar

def size (t : List Char) : Nat :=
  (encode t).length

/-- A sequence that has been read in part. -/
structure Unfinished where
  /-- The bits of the character read so far. -/
  bits : Nat
  /-- How many bytes follow the next one. -/
  due : Nat
  /-- The least value of the next byte. -/
  least : Nat
  /-- The greatest value of the next byte. -/
  greatest : Nat
  deriving DecidableEq, Repr

/-- Reads a byte that begins a character. The bounds on the second byte exclude overlong forms,
surrogates and values above U+10FFFF. -/
def begin (b : Nat) : Decoded × Option Unfinished :=
  if b < 0x80 then ([some (Char.ofNat b)], none)
  else if b < 0xC2 then ([none], none)
  else if b < 0xE0 then ([], some ⟨b - 0xC0, 0, 0x80, 0xBF⟩)
  else if b = 0xE0 then ([], some ⟨0x0, 1, 0xA0, 0xBF⟩)
  else if b = 0xED then ([], some ⟨0xD, 1, 0x80, 0x9F⟩)
  else if b < 0xF0 then ([], some ⟨b - 0xE0, 1, 0x80, 0xBF⟩)
  else if b = 0xF0 then ([], some ⟨0x0, 2, 0x90, 0xBF⟩)
  else if b < 0xF4 then ([], some ⟨b - 0xF0, 2, 0x80, 0xBF⟩)
  else if b = 0xF4 then ([], some ⟨0x4, 2, 0x80, 0x8F⟩)
  else ([none], none)

/-- Reads a byte that continues a sequence. -/
def Unfinished.extend (u : Unfinished) (b : Nat) : Decoded × Option Unfinished :=
  let bits := u.bits * 64 + (b - 0x80)
  match u.due with
  | 0 => ([some (Char.ofNat bits)], none)
  | due + 1 => ([], some ⟨bits, due, 0x80, 0xBF⟩)

def read : Option Unfinished → UInt8 → Decoded × Option Unfinished
  | none, b => begin b.toNat
  | some u, b =>
    if u.least ≤ b.toNat ∧ b.toNat ≤ u.greatest then u.extend b.toNat
    else
      let (out, next) := begin b.toNat
      (none :: out, next)

/-- An unfinished sequence at the end of the input is one malformed piece. -/
def finish : Option Unfinished → Decoded
  | none => []
  | some _ => [none]

def decoder : Decoder (Option Unfinished) :=
  ⟨none, read, finish⟩

end BrowserTab.Encoding.Utf8
