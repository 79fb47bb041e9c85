import BrowserTab.Journal

/-!
# Effects of a dialog queue

Work on a queue of dialogs shows itself in three ways: calls to the platform that draws the dialogs,
blocking of the host's input, and notes in the journal. Each effect is kept together with the
entries of the queue at the moment it happens, since what may happen depends on them.
-/

namespace BrowserTab.Dialog

/-- A dialog in a queue. -/
structure Entry (H : Type) where
  handle : H
  /-- Whether the dialog stays open when the host navigates. -/
  staysOpen : Bool
  deriving DecidableEq, Repr

/-- What the platform is told to do with a dialog. -/
inductive Verb where
  /-- The dialog has joined a queue. -/
  | manage
  | display
  | hide
  /-- The dialog should close; the platform reports later when it does. -/
  | close
  | focus
  deriving DecidableEq, Repr

def Verb.name : Verb → String
  | .manage => "manage"
  | .display => "show"
  | .hide => "hide"
  | .close => "close"
  | .focus => "focus"

/-- A call to the platform. -/
structure Call (H : Type) where
  verb : Verb
  dialog : H
  deriving DecidableEq, Repr

/-- What a queue notes in the journal. -/
inductive Note (H : Type) where
  | queued (dialog : H) (depth : Nat)
  | closed (dialog : H) (remaining : Nat)
  | movedToFront (dialog : H)
  | shownTwice (dialog : H)
  /-- A dialog outside the queue was reported closed. -/
  | strayClose (dialog : H)
  /-- A dialog outside the queue was to stay open. -/
  | unknownDialog (dialog : H)
  /-- There was no dialog to focus. -/
  | noDialog
  deriving DecidableEq, Repr

/-- What work on a queue does outside of it. -/
inductive Effect (H : Type) where
  | call (c : Call H)
  /-- Sets whether the host's input is blocked. -/
  | block (blocked : Bool)
  | note (n : Note H)
  deriving DecidableEq, Repr

/-- An effect, and the entries of the queue when it happens. -/
structure Moment (H : Type) where
  entries : List (Entry H)
  effect : Effect H
  deriving DecidableEq, Repr

namespace Note

variable {H : Type}

/-- How much a note matters. -/
def level : Note H → Journal.Level
  | .queued .. | .closed .. | .movedToFront _ => .debug
  | .shownTwice _ => .warn
  | .strayClose _ => .trace
  | .unknownDialog _ | .noDialog => .error

/-- The line in which the journal keeps a note. -/
def message [ToString H] : Note H → String
  | .queued d depth => "modal dialog " ++ toString d ++ " queued at depth " ++ toString depth
  | .closed d n => "modal dialog " ++ toString d ++ " closed, " ++ toString n ++ " remaining"
  | .movedToFront d => "modal dialog " ++ toString d ++ " moved to front"
  | .shownTwice d => "modal dialog " ++ toString d ++ " shown twice; ignoring"
  | .strayClose d => "ignoring close of unmanaged modal dialog " ++ toString d
  | .unknownDialog d => "prevent-close requested for unknown modal dialog " ++ toString d
  | .noDialog => "focus_topmost called without a modal dialog"

def record [ToString H] (n : Note H) : Journal.Record :=
  ⟨n.level, .dialogs, n.message⟩

end Note

namespace Effect

variable {H : Type}

def call? : Effect H → Option (Call H)
  | .call c => some c
  | _ => none

def block? : Effect H → Option Bool
  | .block b => some b
  | _ => none

def note? : Effect H → Option (Note H)
  | .note n => some n
  | _ => none

end Effect

/-- A platform either follows which dialogs are in a queue or only draws them. -/
inductive Platform where
  | following
  | drawing
  deriving DecidableEq, Repr

/-- Whether a platform takes notice of a verb. -/
def Platform.hears : Platform → Verb → Bool
  | .drawing, .manage => false
  | _, _ => true

end BrowserTab.Dialog
