import BrowserTab.Dialog.Queue.Basic
import BrowserTab.Outline

/-!
# Outlines of dialog queues

How a queue of dialogs is printed for diagnosis.
-/

namespace BrowserTab.Dialog

variable {H : Type} [ToString H]

def Entry.outline (e : Entry H) : String :=
  Outline.whole "DialogEntry" [
    ("dialog", toString e.handle),
    ("prevent_close_on_navigation", toString e.staysOpen)]

def Policy.name : Policy → String
  | .ignore => "Ignore"
  | .moveToFront => "MoveToFront"

def Queue.outline (q : Queue H) : String :=
  Outline.abridged "ModalDialogStack" [
    ("dialogs", Outline.items (q.entries.map Entry.outline)),
    ("duplicate_policy", q.policy.name),
    ("closing_all", toString q.closingAll)]

end BrowserTab.Dialog
