import BrowserTab.Text.Blank

/-!
# Text

A text is a list of characters, so that scanning it is recursion on it. Markup, media types and
language codes ignore letter case within ASCII only and treat five ASCII characters as space;
values taken from them are trimmed by the wider class of blanks. This file holds the operations on
text that the scanners are made of.
-/

namespace BrowserTab

/-- A sequence of characters. -/
abbrev Text := List Char

namespace Text

/-- The characters that separate tokens: tab, line feed, form feed, carriage return and space. -/
def isSpace (c : Char) : Bool :=
  c = '\t' || c = '\n' || c = '\x0c' || c = '\r' || c = ' '

/-- The text with its ASCII letters in lower case. -/
def lower (t : Text) : Text :=
  t.map Char.toLower

/-- The text with its ASCII letters in upper case. -/
def upper (t : Text) : Text :=
  t.map Char.toUpper

/-- The text without the characters of the class `p` at its end. -/
def trimEnd (p : Char → Bool) (t : Text) : Text :=
  (t.reverse.dropWhile p).reverse

/-- The text without the characters of the class `p` at both ends. -/
def trim (p : Char → Bool) (t : Text) : Text :=
  trimEnd p (t.dropWhile p)

/-- What follows the word `w` at the start of `t`, ASCII letter case aside. -/
def after? (w t : Text) : Option Text :=
  match w, t with
  | [], t => some t
  | _ :: _, [] => none
  | a :: w, c :: t => if a.toLower = c.toLower then after? w t else none

/-- Whether two texts differ in ASCII letter case at most. -/
def sameIgnoringCase (a b : Text) : Bool :=
  lower a == lower b

/-- Whether the text `w` stands somewhere in `t`. -/
def occursIn (w : Text) : Text → Bool
  | [] => w.isEmpty
  | c :: t => w.isPrefixOf (c :: t) || occursIn w t

/-- Every space character is blank. -/
theorem isBlank_of_isSpace {c : Char} (h : isSpace c = true) : isBlank c = true := by
  simp only [isSpace, Bool.or_eq_true, decide_eq_true_eq] at h
  rcases h with (((rfl | rfl) | rfl) | rfl) | rfl <;> decide

/-- What follows a word is shorter than the text by the word. -/
theorem length_of_after? {w t r : Text} (h : after? w t = some r) :
    w.length + r.length = t.length := by
  fun_induction after? w t with
  | case1 t =>
    cases h
    simp
  | case2 => cases h
  | case3 a w c t _ ih =>
    have hr := ih h
    simp only [List.length_cons]
    omega
  | case4 => cases h

end Text

end BrowserTab
