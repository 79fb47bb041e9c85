import BrowserTab.Dialog.Queue.Basic
import BrowserTab.Fault

/-!
# Reactions of the dialog queue

What a queue does when something happens to it, and which effects that has. Closing takes two steps,
a request to the platform and its later report that the dialog has closed, and only the report takes
the dialog out of the queue. The host's input is blocked while the queue is not empty.
-/

namespace BrowserTab.Dialog

/-- Why a request to a queue was refused. -/
inductive Refusal (H : Type) where
  | unknownDialog (dialog : H)
  | noDialog
  deriving DecidableEq, Repr

def Refusal.fault {H : Type} [ToString H] : Refusal H → Fault
  | .unknownDialog d =>
    ⟨"modal.dialog_unknown", "dialog " ++ toString d ++ " is not managed by this stack"⟩
  | .noDialog => ⟨"modal.stack_empty", "no modal dialog to focus"⟩

/-- A queue after something happened to it, and the effects in their order. -/
structure Reaction (H : Type) where
  queue : Queue H
  moments : List (Moment H)
  refusal : Option (Refusal H) := none

namespace Reaction

variable {H : Type}

def calls (r : Reaction H) : List (Call H) :=
  r.moments.filterMap (·.effect.call?)

/-- The arguments with which a reaction blocks the host's input or frees it. -/
def blocks (r : Reaction H) : List Bool :=
  r.moments.filterMap (·.effect.block?)

def notes (r : Reaction H) : List (Note H) :=
  r.moments.filterMap (·.effect.note?)

def records [ToString H] (r : Reaction H) : List Journal.Record :=
  r.notes.map Note.record

end Reaction

namespace Queue

variable {H : Type}

/-- A new dialog joins at the end. It appears at once if it is alone and the host is visible, and it
blocks the host's input if it is alone. -/
def enroll (q : Queue H) (visible : Bool) (d : H) (h : d ∉ q.handles) : Reaction H :=
  let next := q.join d h
  { queue := next
    moments :=
      [next.now (.call ⟨.manage, d⟩)]
        ++ (if q.isOccupied then []
          else
            (if visible then [next.now (.call ⟨.display, d⟩)] else [])
              ++ [next.now (.block true)])
        ++ [next.now (.note (.queued d next.size))] }

/-- The host comes on screen or goes off it, and its front dialog with it. -/
def followHost (q : Queue H) (visible : Bool) : Reaction H :=
  { queue := q, moments := q.callFront (if visible then .display else .hide) }

/-- The host starts to load another page; its front dialog closes unless it is to stay open. -/
def navigate (q : Queue H) : Reaction H :=
  match q.entries with
  | [] => { queue := q, moments := [] }
  | e :: _ => { queue := q, moments := if e.staysOpen then [] else q.callFront .close }

/-- The front dialog gets the focus; it is wrong to ask for that without a dialog. -/
def focus (q : Queue H) : Reaction H :=
  if q.isOccupied then { queue := q, moments := q.callFront .focus }
  else { queue := q, moments := [q.now (.note .noDialog)], refusal := some .noDialog }

/-- Input for the blocked host goes to the front dialog instead. -/
def redirectInput (q : Queue H) : Reaction H :=
  { queue := q, moments := q.callFront .focus }

variable [DecidableEq H]

/-- A waiting dialog moves to the front, and if the host is visible the screen follows. The front
dialog stays where it is. -/
def bringForward (q : Queue H) (visible : Bool) (d : H) : Reaction H :=
  if q.front? = some d then { queue := q, moments := [] }
  else
    let next := q.advance d
    { queue := next
      moments :=
        (if visible then q.callFront .hide ++ [next.now (.call ⟨.display, d⟩)] else [])
          ++ [next.now (.note (.movedToFront d))] }

/-- A dialog is to be presented; `visible` tells whether the host is on screen. -/
def present (q : Queue H) (visible : Bool) (d : H) : Reaction H :=
  if h : d ∈ q.handles then
    match q.policy with
    | .ignore => { queue := q, moments := [q.now (.note (.shownTwice d))] }
    | .moveToFront => q.bringForward visible d
  else q.enroll visible d h

/-- Says whether a dialog stays open when the host navigates. -/
def keepOpen (q : Queue H) (d : H) (stays : Bool) : Reaction H :=
  if d ∈ q.handles then { queue := q.setStaysOpen d stays, moments := [] }
  else
    { queue := q
      moments := [q.now (.note (.unknownDialog d))]
      refusal := some (.unknownDialog d) }

/-- The platform reports that a dialog has closed. The dialog leaves the queue, and if it was in
front the next one appears, unless all are being closed. Later reports for it change nothing. -/
def leave (q : Queue H) (d : H) : Reaction H :=
  if d ∈ q.handles then
    let next := q.remove d
    { queue := next
      moments :=
        (if q.front? = some d ∧ q.closingAll = false then next.callFront .display else [])
          ++ [next.now (.block next.isOccupied), next.now (.note (.closed d next.size))] }
  else { queue := q, moments := [q.now (.note (.strayClose d))] }

/-- Of a queue that a dialog leaves, the rest remains. -/
theorem queue_leave {q : Queue H} {d : H} (h : d ∈ q.handles) : (q.leave d).queue = q.remove d := by
  rw [leave, if_pos h]

/-- Closes dialogs from the front on until none is left: each is told to close and leaves at once,
without waiting for the platform's report. -/
def drain (q : Queue H) : Reaction H :=
  match h : q.front? with
  | none => { queue := q, moments := [] }
  | some d =>
    have : (q.leave d).queue.size < q.size := by
      rw [queue_leave (mem_handles_of_front? h)]
      exact size_remove_lt (mem_handles_of_front? h)
    let rest := drain (q.leave d).queue
    { queue := rest.queue, moments := q.callFront .close ++ (q.leave d).moments ++ rest.moments }
termination_by q.size

/-- Closes every dialog without letting one of them appear. -/
def closeAll (q : Queue H) : Reaction H :=
  let drained := (q.setClosingAll true).drain
  { queue := drained.queue.setClosingAll false, moments := drained.moments }

end Queue

end BrowserTab.Dialog
