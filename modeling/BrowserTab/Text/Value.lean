import BrowserTab.Text.Basic

/-!
# Written values

Attributes and media-type parameters write their values in the same two ways: between two equal
quotes, or bare up to a character that ends it. A quote that is never closed reaches to the end of
the text.
-/

namespace BrowserTab.Text

/-- Whether a character opens a quoted value. -/
def isQuote (c : Char) : Bool :=
  c = '"' || c = '\''

/-- Reads a value at the start of a text, where a bare value ends before a character of the class
`stop`; gives the value and what follows it. -/
def readValue (stop : Char → Bool) : Text → Text × Text
  | [] => ([], [])
  | c :: t =>
    if isQuote c then (t.takeWhile (· ≠ c), (t.dropWhile (· ≠ c)).drop 1)
    else ((c :: t).takeWhile (!stop ·), (c :: t).dropWhile (!stop ·))

/-- What follows a value is no longer than the text. -/
theorem length_readValue_le (stop : Char → Bool) (t : Text) :
    (readValue stop t).2.length ≤ t.length := by
  cases t with
  | nil => simp [readValue]
  | cons c t =>
    rw [readValue]
    split
    · have h := (List.dropWhile_suffix (l := t) (· ≠ c)).length_le
      simp only [List.length_drop, List.length_cons]
      omega
    · exact (List.dropWhile_suffix _).length_le

end BrowserTab.Text
