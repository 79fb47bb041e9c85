import BrowserTab.Text.Basic

/-!
# Language codes

A language code is a primary tag of one to three ASCII letters, optionally followed by a hyphen
and a region of two letters. Pages declare their language in many near misses of that form:
`correct` mends the common ones and `isValid` decides which results count as codes.
-/

namespace BrowserTab.Language.Code

/-- The code that stands for no determination. -/
def undetermined : Text :=
  "und".toList

/-- The part of a code before its first hyphen. -/
def main (code : Text) : Text :=
  code.takeWhile (· ≠ '-')

/-- The part of a code from its first hyphen on. -/
def tail (code : Text) : Text :=
  code.dropWhile (· ≠ '-')

/-- The text with its first underscore turned into a hyphen. -/
def hyphenate : Text → Text
  | [] => []
  | c :: t => if c = '_' then '-' :: t else c :: hyphenate t

/-- The first entry of a comma-separated list of languages, without the space around it. -/
def firstEntry (raw : Text) : Text :=
  Text.trim Text.isSpace (raw.takeWhile (· ≠ ','))

/-- The text with lower-case letters before its first hyphen and upper-case letters from it on. -/
def recase (code : Text) : Text :=
  Text.lower (main code) ++ Text.upper (tail code)

/-- Mends the usual slips of declared languages: only the first entry of a list counts, space
around it does not, its first underscore is a hyphen, and letter case follows the position. -/
def correct (raw : Text) : Text :=
  recase (hyphenate (firstEntry raw))

/-- Whether a text is a primary tag: one to three ASCII letters. -/
def isPrimary (t : Text) : Bool :=
  1 ≤ t.length && t.length ≤ 3 && t.all Char.isAlpha

/-- Whether a text is empty or a hyphen with two ASCII letters behind it. -/
def isRegion : Text → Bool
  | [] => true
  | ['-', a, b] => a.isAlpha && b.isAlpha
  | _ => false

/-- Whether a text has the form of a language code. -/
def isValid (code : Text) : Bool :=
  isPrimary (main code) && isRegion (tail code)

/-- A code is its two parts put together. -/
theorem main_append_tail (code : Text) : main code ++ tail code = code :=
  List.takeWhile_append_dropWhile

end BrowserTab.Language.Code
