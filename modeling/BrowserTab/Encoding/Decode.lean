import BrowserTab.Encoding.Utf8
import BrowserTab.Encoding.Utf16

/-!
# Decoding

Every encoding reads any sequence of bytes. This file says how, and how a byte order mark at the start
of the bytes names their encoding. The indexes of the multi-byte character sets are not part of this
library: the decoders that look them up are handed in.
-/

namespace BrowserTab.Encoding

/-- Decoders for the multi-byte character sets, one for each of them. -/
abbrev MultiByte.Decoders :=
  MultiByte → Bytes → Decoded

/-- The character of a byte in the user-defined encoding, which keeps the upper half in a private
area. -/
def readUserDefined (b : UInt8) : Char :=
  if b < 0x80 then Char.ofNat b.toNat else Char.ofNat (0xF780 + (b.toNat - 0x80))

/-- What bytes are read as. -/
def decode (decoders : MultiByte.Decoders) : Encoding → Bytes → Decoded
  | .utf8, bs => Utf8.decoder.run bs
  | .utf16 order, bs => (Utf16.decoder order).run bs
  | .replacement, [] => []
  | .replacement, _ :: _ => [none]
  | .userDefined, bs => bs.map fun b => some (readUserDefined b)
  | .codePage page, bs => bs.map page.read
  | .multiByte set, bs => decoders set bs

/-- The encoding that a byte order mark at the start names, with the bytes behind the mark. -/
def ofMark? : Bytes → Option (Encoding × Bytes)
  | 0xEF :: 0xBB :: 0xBF :: rest => some (.utf8, rest)
  | 0xFF :: 0xFE :: rest => some (.utf16 .little, rest)
  | 0xFE :: 0xFF :: rest => some (.utf16 .big, rest)
  | _ => none

end BrowserTab.Encoding
