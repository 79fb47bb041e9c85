/-!
# The journal

What the tab tells its maintainers is a sequence of records. A record has a level, the component
that wrote it and one line of text. The components that write keep their own types of notes, and
every note has one record, so a statement about notes is a statement about the journal.
-/

namespace BrowserTab.Journal

/-- How much a record matters, from the finest detail up to a violated contract. -/
inductive Level where
  | trace
  | debug
  | info
  | warn
  | error
  deriving DecidableEq, Repr

/-- The parts of the tab that write records. -/
inductive Component where
  | resolver
  | telemetry
  | page
  | dialogs
  deriving DecidableEq, Repr

/-- One line of the journal. -/
structure Record where
  level : Level
  component : Component
  message : String
  deriving DecidableEq, Repr

end BrowserTab.Journal
