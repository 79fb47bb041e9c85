import BrowserTab.Encoding.CodePage

/-!
# Encodings

The encodings in which a browser receives pages, named as in the encoding standard.
-/

namespace BrowserTab

namespace Encoding

/-- The order in which the two bytes of a unit are sent. -/
inductive ByteOrder where
  | little
  | big
  deriving DecidableEq, Repr

/-- The East Asian character sets that spend several bytes on a character. -/
inductive MultiByte where
  | big5
  | eucJp
  | eucKr
  | gbk
  | gb18030
  | iso2022Jp
  | shiftJis
  deriving DecidableEq, Repr

def MultiByte.all : List MultiByte :=
  [.big5, .eucJp, .eucKr, .gbk, .gb18030, .iso2022Jp, .shiftJis]

def MultiByte.name : MultiByte → String
  | .big5 => "Big5"
  | .eucJp => "EUC-JP"
  | .eucKr => "EUC-KR"
  | .gbk => "GBK"
  | .gb18030 => "gb18030"
  | .iso2022Jp => "ISO-2022-JP"
  | .shiftJis => "Shift_JIS"

end Encoding

/-- A way to read bytes as text. -/
inductive Encoding where
  | utf8
  | utf16 (order : Encoding.ByteOrder)
  /-- Stands for encodings that are unsafe to read; its text is one replacement character. -/
  | replacement
  | userDefined
  | codePage (page : Encoding.CodePage)
  | multiByte (set : Encoding.MultiByte)
  deriving DecidableEq, Repr

namespace Encoding

def all : List Encoding :=
  [.utf8, .utf16 .little, .utf16 .big, .replacement, .userDefined]
    ++ CodePage.all.map .codePage ++ MultiByte.all.map .multiByte

def name : Encoding → String
  | .utf8 => "UTF-8"
  | .utf16 .little => "UTF-16LE"
  | .utf16 .big => "UTF-16BE"
  | .replacement => "replacement"
  | .userDefined => "x-user-defined"
  | .codePage page => page.name
  | .multiByte set => set.name

/-- The encoding a page is taken to be in when its markup, read as ASCII, names `e`. Markup that
could be read as ASCII is not in UTF-16, and the replacement encoding is never written. -/
def asMarkup : Encoding → Encoding
  | .utf16 _ => .utf8
  | .replacement => .utf8
  | e => e

end Encoding

end BrowserTab
