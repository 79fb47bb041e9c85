/-!
# Outlines

For diagnosis a value is printed in one line: a name and its fields in braces, lists in brackets,
pairs in parentheses and texts in quotes. Fields that are left out are marked by two dots.
-/

namespace BrowserTab.Outline

/-- A text in quotes; quotes and backslashes in it follow a backslash. -/
def quoted (t : List Char) : String :=
  "\"" ++ String.ofList (t.flatMap fun c => if c = '"' || c = '\\' then ['\\', c] else [c]) ++ "\""

/-- The outline of a list. -/
def items (xs : List String) : String :=
  "[" ++ ", ".intercalate xs ++ "]"

/-- The outline of a pair. -/
def pair (a b : String) : String :=
  "(" ++ a ++ ", " ++ b ++ ")"

/-- Fields with their values, one after the other. -/
def fields (fs : List (String × String)) : String :=
  ", ".intercalate (fs.map fun f => f.1 ++ ": " ++ f.2)

/-- The outline of a value all of whose fields are given. -/
def whole (name : String) (fs : List (String × String)) : String :=
  name ++ " \x7b " ++ fields fs ++ " \x7d"

/-- The outline of a value that has further fields. -/
def abridged (name : String) (fs : List (String × String)) : String :=
  name ++ " \x7b " ++ fields fs ++ ", .. \x7d"

end BrowserTab.Outline
