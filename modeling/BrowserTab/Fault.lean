/-!
# Faults

A refused request is reported as a fault: a stable dotted code that programs compare, and a
message that people read. Each part of the library keeps its own type of causes and says in one
place which fault a cause is reported as.
-/

namespace BrowserTab

/-- A refusal, as it is reported. -/
structure Fault where
  /-- A dotted identifier that begins with the part of the tab that refused. -/
  code : String
  /-- What went wrong, for people. -/
  message : String
  deriving DecidableEq, Repr

/-- The line in which a fault is printed. -/
def Fault.text (f : Fault) : String :=
  f.code ++ ": " ++ f.message

end BrowserTab
