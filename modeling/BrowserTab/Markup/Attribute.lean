import BrowserTab.Text.Value

/-!
# Attributes

The attributes of a start tag, read from the text behind the tag's name. Between attributes any run
of spaces and slashes is skipped. An attribute is a name, and behind an equals sign a value; an
equals sign where a name is due is a name by itself. The tag ends at the first `>` outside a quoted
value, or at the end of the text.
-/

namespace BrowserTab.Markup

/-- An attribute of a start tag. -/
structure Attribute where
  /-- The name, in lower case. -/
  name : Text
  /-- The value as written, without its quotes; empty if there is none. -/
  value : Text
  deriving DecidableEq, Repr

/-- Whether a character may stand between two attributes. -/
def isGap (c : Char) : Bool :=
  Text.isSpace c || c = '/'

/-- Whether a character ends the name of an attribute. -/
def endsName (c : Char) : Bool :=
  isGap c || c = '=' || c = '>'

/-- Whether a character ends a bare value. -/
def endsBare (c : Char) : Bool :=
  Text.isSpace c || c = '>'

namespace Attribute

/-- Reads a name that begins with the character `c`; gives it and what follows it. -/
def readName (c : Char) (t : Text) : Text × Text :=
  if c = '=' then ([c], t) else (c :: t.takeWhile (!endsName ·), t.dropWhile (!endsName ·))

/-- Reads what stands behind a name: an equals sign with a value, or nothing. -/
def readAssigned (t : Text) : Text × Text :=
  match t.dropWhile Text.isSpace with
  | '=' :: u => Text.readValue endsBare (u.dropWhile Text.isSpace)
  | u => ([], u)

/-- Reads an attribute whose name begins with the character `c`; gives it and what follows it. -/
def read (c : Char) (t : Text) : Attribute × Text :=
  let (name, t) := readName c t
  let (value, t) := readAssigned t
  (⟨Text.lower name, value⟩, t)

/-- What follows a name is no longer than the text behind its first character. -/
theorem length_readName_le (c : Char) (t : Text) : (readName c t).2.length ≤ t.length := by
  rw [readName]
  split
  · exact Nat.le_refl _
  · exact (List.dropWhile_suffix _).length_le

/-- What follows a value is no longer than the text behind the name. -/
theorem length_readAssigned_le (t : Text) : (readAssigned t).2.length ≤ t.length := by
  have h := (List.dropWhile_suffix (l := t) Text.isSpace).length_le
  rw [readAssigned]
  split
  next u hu =>
    have hv := Text.length_readValue_le endsBare (u.dropWhile Text.isSpace)
    have hs := (List.dropWhile_suffix (l := u) Text.isSpace).length_le
    simp only [hu, List.length_cons] at h
    omega
  next => exact h

/-- What follows an attribute is no longer than the text behind its first character. -/
theorem length_read_le (c : Char) (t : Text) : (read c t).2.length ≤ t.length :=
  Nat.le_trans (length_readAssigned_le _) (length_readName_le c t)

/-- What follows the first attribute of a text is shorter than the text. -/
theorem length_read_lt {t u : Text} {c : Char} (h : t.dropWhile isGap = c :: u) :
    (read c u).2.length < t.length := by
  have hd := (List.dropWhile_suffix (l := t) isGap).length_le
  have hr := length_read_le c u
  simp only [h, List.length_cons] at hd
  omega

end Attribute

/-- Reads the attributes up to the end of the tag; gives them in order and what follows the tag. -/
def readAttributes (t : Text) : List Attribute × Text :=
  match h : t.dropWhile isGap with
  | [] => ([], [])
  | '>' :: rest => ([], rest)
  | c :: u =>
    have := Attribute.length_read_lt h
    let (attributes, rest) := readAttributes (Attribute.read c u).2
    ((Attribute.read c u).1 :: attributes, rest)
termination_by t.length

/-- What follows a tag is no longer than the text behind its name. -/
theorem length_readAttributes_le (t : Text) : (readAttributes t).2.length ≤ t.length := by
  fun_induction readAttributes t with
  | case1 => simp
  | case2 t rest h =>
    have hd := (List.dropWhile_suffix (l := t) isGap).length_le
    simp only [h, List.length_cons] at hd
    simp only
    omega
  | case3 t c u hc h hl attributes rest hn ih =>
    simp only [hn] at ih ⊢
    omega

end BrowserTab.Markup
