import BrowserTab.Encoding.Decoder
import BrowserTab.Encoding.Basic

/-!
# UTF-16

The encoder, and a decoder for bytes that may be anything, in either byte order. A surrogate without
its partner is one malformed piece, and whatever is left over at the end of the input is one more.
-/

namespace BrowserTab.Encoding.Utf16

/-- The units of one character. -/
def units (c : Char) : List Nat :=
  let n := c.toNat
  if n < 0x10000 then [n]
  else [0xD800 + (n - 0x10000) / 0x400, 0xDC00 + (n - 0x10000) % 0x400]

/-- The two bytes of a unit, as sent. -/
def unitBytes (order : ByteOrder) (u : Nat) : Bytes :=
  match order with
  | .little => [.ofNat (u % 256), .ofNat (u / 256)]
  | .big => [.ofNat (u / 256), .ofNat (u % 256)]

def encode (order : ByteOrder) (t : List Char) : Bytes :=
  (t.flatMap units).flatMap (unitBytes order)

/-- The unit that two bytes form. -/
def unit (order : ByteOrder) (first second : UInt8) : Nat :=
  match order with
  | .little => first.toNat + 256 * second.toNat
  | .big => 256 * first.toNat + second.toNat

/-- Whether a unit begins a surrogate pair. -/
def isLead (u : Nat) : Bool :=
  0xD800 ≤ u && u < 0xDC00

/-- Whether a unit ends a surrogate pair. -/
def isTrail (u : Nat) : Bool :=
  0xDC00 ≤ u && u < 0xE000

def pair (lead trail : Nat) : Char :=
  Char.ofNat (0x10000 + (lead - 0xD800) * 0x400 + (trail - 0xDC00))

/-- Reads a unit that is not the end of a pair. -/
def beginUnit (u : Nat) : Decoded × Option Nat :=
  if isLead u then ([], some u)
  else if isTrail u then ([none], none)
  else ([some (Char.ofNat u)], none)

/-- Reads a unit after an open lead, if there is one. -/
def readUnit : Option Nat → Nat → Decoded × Option Nat
  | none, u => beginUnit u
  | some lead, u =>
    if isTrail u then ([some (pair lead u)], none)
    else
      let (out, next) := beginUnit u
      (none :: out, next)

/-- What is remembered between two bytes. -/
structure Unfinished where
  /-- The first byte of a unit whose second byte is due. -/
  half : Option UInt8
  /-- A lead surrogate whose partner is due. -/
  lead : Option Nat
  deriving DecidableEq, Repr

def read (order : ByteOrder) (s : Unfinished) (b : UInt8) : Decoded × Unfinished :=
  match s.half with
  | none => ([], ⟨some b, s.lead⟩)
  | some a =>
    let (out, lead) := readUnit s.lead (unit order a b)
    (out, ⟨none, lead⟩)

/-- Half a unit and an open lead at the end of the input are one malformed piece together. -/
def finish (s : Unfinished) : Decoded :=
  if s.half.isSome || s.lead.isSome then [none] else []

def decoder (order : ByteOrder) : Decoder Unfinished :=
  ⟨⟨none, none⟩, read order, finish⟩

end BrowserTab.Encoding.Utf16
