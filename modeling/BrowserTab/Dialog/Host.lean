import BrowserTab.Dialog.Queue.Reaction

/-!
# The host of a dialog queue

A host is the surface that dialogs are attached to: a queue, and whether the surface is on screen.
Everything that can happen to it is a command, so its history is a list of commands.
-/

namespace BrowserTab.Dialog

/-- A surface with the dialogs attached to it. -/
structure Host (H : Type) where
  queue : Queue H
  /-- What the host answers when it is asked whether it is on screen. -/
  visible : Bool

/-- What can happen to a host. -/
inductive Command (H : Type) where
  /-- A dialog is to be presented. -/
  | present (dialog : H)
  /-- A dialog is to stay open or not when the host navigates. -/
  | keepOpen (dialog : H) (stays : Bool)
  /-- The platform reports that a dialog has closed. -/
  | leave (dialog : H)
  /-- The host reports that it came on screen or went off it. -/
  | followHost (visible : Bool)
  /-- The host changes its answer on whether it is on screen, and reports nothing. -/
  | setVisible (visible : Bool)
  | navigate
  | closeAll
  | focus
  | redirectInput
  | destroy
  deriving DecidableEq, Repr

namespace Host

variable {H : Type} [DecidableEq H]

def fresh (policy : Policy) (visible : Bool) : Host H :=
  ⟨.empty policy, visible⟩

/-- What the dialogs of a host do on a command. A host that is destroyed closes them all. -/
def react (h : Host H) : Command H → Reaction H
  | .present d => h.queue.present h.visible d
  | .keepOpen d stays => h.queue.keepOpen d stays
  | .leave d => h.queue.leave d
  | .followHost visible => h.queue.followHost visible
  | .setVisible _ => { queue := h.queue, moments := [] }
  | .navigate => h.queue.navigate
  | .closeAll => h.queue.closeAll
  | .focus => h.queue.focus
  | .redirectInput => h.queue.redirectInput
  | .destroy => h.queue.closeAll

/-- The answer of a host on whether it is on screen, after a command. -/
def visibleAfter (h : Host H) : Command H → Bool
  | .setVisible visible => visible
  | _ => h.visible

/-- The host after a command. -/
def perform (h : Host H) (c : Command H) : Host H :=
  ⟨(h.react c).queue, h.visibleAfter c⟩

/-- The host after a history of commands. -/
def run (h : Host H) (cs : List (Command H)) : Host H :=
  cs.foldl perform h

/-- The reactions to a history of commands, one by one. -/
def reactions (h : Host H) : List (Command H) → List (Reaction H)
  | [] => []
  | c :: cs => h.react c :: (h.perform c).reactions cs

end Host

end BrowserTab.Dialog
