/-!
# Blank characters

The characters with the Unicode property White_Space. Values that were written by people are
trimmed by this class, which is wider than the five space characters of ASCII markup.
-/

namespace BrowserTab.Text

/-- The code points of the property White_Space, as closed intervals in increasing order. -/
def blankRanges : List (Nat × Nat) :=
  [(0x09, 0x0D), (0x20, 0x20), (0x85, 0x85), (0xA0, 0xA0), (0x1680, 0x1680), (0x2000, 0x200A),
    (0x2028, 0x2029), (0x202F, 0x202F), (0x205F, 0x205F), (0x3000, 0x3000)]

/-- Whether a character has the property White_Space. -/
def isBlank (c : Char) : Bool :=
  blankRanges.any fun r => r.1 ≤ c.toNat && c.toNat ≤ r.2

end BrowserTab.Text
