/-!
# Decoders

A decoder reads bytes one at a time and remembers what it has read of an unfinished character.
Where bytes form no character it says so and goes on; a reader sees a replacement character there.
-/

namespace BrowserTab

/-- A sequence of bytes, as received. -/
abbrev Bytes := List UInt8

/-- What bytes were read as: characters in order, and `none` where bytes form no character. -/
abbrev Decoded := List (Option Char)

namespace Decoded

/-- The text shown to a reader, with U+FFFD where bytes form no character. -/
def text (d : Decoded) : List Char :=
  d.map (·.getD '\ufffd')

/-- Whether some bytes form no character. -/
def malformed (d : Decoded) : Bool :=
  d.any Option.isNone

end Decoded

/-- A decoder whose memory between two bytes is a `σ`. -/
structure Decoder (σ : Type) where
  /-- The memory before the first byte. -/
  start : σ
  /-- What one byte completes, and the memory after it. -/
  read : σ → UInt8 → Decoded × σ
  /-- What the end of the input completes. -/
  finish : σ → Decoded

namespace Decoder

variable {σ : Type}

/-- Reads bytes on from a given memory. -/
def resume (d : Decoder σ) (s : σ) : Bytes → Decoded
  | [] => d.finish s
  | b :: bs =>
    let (out, next) := d.read s b
    out ++ d.resume next bs

/-- Reads a whole sequence of bytes. -/
def run (d : Decoder σ) (bs : Bytes) : Decoded :=
  d.resume d.start bs

end Decoder

end BrowserTab
