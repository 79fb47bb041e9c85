import BrowserTab.Encoding.CodePage.Iso
import BrowserTab.Encoding.CodePage.Windows
import BrowserTab.Encoding.CodePage.Vendor

/-!
# Code pages

A code page gives every byte a meaning of its own: the lower half is ASCII and the upper half is a
table of 128 code points. This file names the pages a browser reads and says what a byte means in
each of them.
-/

namespace BrowserTab.Encoding

/-- The single-byte encodings that are given by a table. -/
inductive CodePage where
  | ibm866
  | iso8859_2
  | iso8859_3
  | iso8859_4
  | iso8859_5
  | iso8859_6
  | iso8859_7
  | iso8859_8
  | iso8859_8I
  | iso8859_10
  | iso8859_13
  | iso8859_14
  | iso8859_15
  | iso8859_16
  | koi8R
  | koi8U
  | macRoman
  | macCyrillic
  | windows874
  | windows1250
  | windows1251
  | windows1252
  | windows1253
  | windows1254
  | windows1255
  | windows1256
  | windows1257
  | windows1258
  deriving DecidableEq, Repr

namespace CodePage

def all : List CodePage :=
  [.ibm866, .iso8859_2, .iso8859_3, .iso8859_4, .iso8859_5, .iso8859_6, .iso8859_7, .iso8859_8,
    .iso8859_8I, .iso8859_10, .iso8859_13, .iso8859_14, .iso8859_15, .iso8859_16, .koi8R,
    .koi8U, .macRoman, .macCyrillic, .windows874, .windows1250, .windows1251, .windows1252,
    .windows1253, .windows1254, .windows1255, .windows1256, .windows1257, .windows1258]

def name : CodePage → String
  | .ibm866 => "IBM866"
  | .iso8859_2 => "ISO-8859-2"
  | .iso8859_3 => "ISO-8859-3"
  | .iso8859_4 => "ISO-8859-4"
  | .iso8859_5 => "ISO-8859-5"
  | .iso8859_6 => "ISO-8859-6"
  | .iso8859_7 => "ISO-8859-7"
  | .iso8859_8 => "ISO-8859-8"
  | .iso8859_8I => "ISO-8859-8-I"
  | .iso8859_10 => "ISO-8859-10"
  | .iso8859_13 => "ISO-8859-13"
  | .iso8859_14 => "ISO-8859-14"
  | .iso8859_15 => "ISO-8859-15"
  | .iso8859_16 => "ISO-8859-16"
  | .koi8R => "KOI8-R"
  | .koi8U => "KOI8-U"
  | .macRoman => "macintosh"
  | .macCyrillic => "x-mac-cyrillic"
  | .windows874 => "windows-874"
  | .windows1250 => "windows-1250"
  | .windows1251 => "windows-1251"
  | .windows1252 => "windows-1252"
  | .windows1253 => "windows-1253"
  | .windows1254 => "windows-1254"
  | .windows1255 => "windows-1255"
  | .windows1256 => "windows-1256"
  | .windows1257 => "windows-1257"
  | .windows1258 => "windows-1258"

/-- The code points of the bytes 80 to FF. The two Hebrew pages differ in the direction of display
only. -/
def upper : CodePage → List Nat
  | .ibm866 => Upper.ibm866
  | .iso8859_2 => Upper.iso8859_2
  | .iso8859_3 => Upper.iso8859_3
  | .iso8859_4 => Upper.iso8859_4
  | .iso8859_5 => Upper.iso8859_5
  | .iso8859_6 => Upper.iso8859_6
  | .iso8859_7 => Upper.iso8859_7
  | .iso8859_8 => Upper.iso8859_8
  | .iso8859_8I => Upper.iso8859_8
  | .iso8859_10 => Upper.iso8859_10
  | .iso8859_13 => Upper.iso8859_13
  | .iso8859_14 => Upper.iso8859_14
  | .iso8859_15 => Upper.iso8859_15
  | .iso8859_16 => Upper.iso8859_16
  | .koi8R => Upper.koi8R
  | .koi8U => Upper.koi8U
  | .macRoman => Upper.macRoman
  | .macCyrillic => Upper.macCyrillic
  | .windows874 => Upper.windows874
  | .windows1250 => Upper.windows1250
  | .windows1251 => Upper.windows1251
  | .windows1252 => Upper.windows1252
  | .windows1253 => Upper.windows1253
  | .windows1254 => Upper.windows1254
  | .windows1255 => Upper.windows1255
  | .windows1256 => Upper.windows1256
  | .windows1257 => Upper.windows1257
  | .windows1258 => Upper.windows1258

/-- The character a byte stands for, if it stands for one. -/
def read (page : CodePage) (b : UInt8) : Option Char :=
  if b < 0x80 then some (Char.ofNat b.toNat)
  else
    match page.upper[b.toNat - 0x80]? with
    | none => none
    | some n => if n = 0xFFFD then none else some (Char.ofNat n)

/-- Bytes of the lower half stand for themselves in every page. -/
theorem read_of_lt {b : UInt8} (h : b < 0x80) (page : CodePage) :
    page.read b = some (Char.ofNat b.toNat) := by
  rw [read, if_pos h]

end CodePage

end BrowserTab.Encoding
