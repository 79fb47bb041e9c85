import BrowserTab.Dialog.Effect

/-!
# The dialog queue

The dialogs of one host form a queue of distinct dialogs. Only the front one is meant to be on
screen; the others wait until it is gone. This file holds the queue and the ways in which its
entries change; a dialog joins at the end, leaves, moves to the front, or has its flag set.
-/

namespace BrowserTab.Dialog

/-- What happens when a dialog is presented that is in the queue already. -/
inductive Policy where
  | ignore
  | moveToFront
  deriving DecidableEq, Repr

/-- The dialogs of a host, the front one first. -/
structure Queue (H : Type) where
  entries : List (Entry H)
  policy : Policy
  /-- Set while all dialogs are being closed, when no dialog behind another is to appear. -/
  closingAll : Bool
  distinct : (entries.map Entry.handle).Nodup

namespace Queue

variable {H : Type}

def empty (policy : Policy) : Queue H :=
  ⟨[], policy, false, .nil⟩

/-- The dialogs of the queue, the front one first. -/
def handles (q : Queue H) : List H :=
  q.entries.map Entry.handle

/-- The dialog that is on screen, or will be once the host is visible. -/
def front? (q : Queue H) : Option H :=
  q.handles.head?

def size (q : Queue H) : Nat :=
  q.entries.length

/-- Whether a dialog is open. -/
def isOccupied (q : Queue H) : Bool :=
  !q.entries.isEmpty

/-- An effect that happens now. -/
def now (q : Queue H) (e : Effect H) : Moment H :=
  ⟨q.entries, e⟩

/-- A platform call about the front dialog, if there is one. -/
def callFront (q : Queue H) (verb : Verb) : List (Moment H) :=
  q.front?.toList.map fun d => q.now (.call ⟨verb, d⟩)

/-- Sets whether all dialogs are being closed. -/
def setClosingAll (q : Queue H) (closing : Bool) : Queue H :=
  { q with closingAll := closing }

/-- The queue with a new dialog at its end. -/
def join (q : Queue H) (d : H) (h : d ∉ q.handles) : Queue H where
  entries := q.entries ++ [⟨d, false⟩]
  policy := q.policy
  closingAll := q.closingAll
  distinct := by
    rw [List.map_append, List.nodup_append]
    refine ⟨q.distinct, by simp, ?_⟩
    rintro a ha b hb rfl
    simp only [List.map_cons, List.map_nil, List.mem_singleton] at hb
    exact h (hb ▸ ha)

/-- The front dialog is a dialog of the queue. -/
theorem mem_handles_of_front? {q : Queue H} {d : H} (h : q.front? = some d) : d ∈ q.handles :=
  List.mem_of_mem_head? (Option.mem_def.mpr h)

/-- A new dialog is behind all others. -/
@[simp]
theorem handles_join (q : Queue H) (d : H) (h : d ∉ q.handles) :
    (q.join d h).handles = q.handles ++ [d] := by
  simp [handles, join]

variable [DecidableEq H]

/-- The queue without a dialog. -/
def remove (q : Queue H) (d : H) : Queue H where
  entries := q.entries.filter fun e => !decide (e.handle = d)
  policy := q.policy
  closingAll := q.closingAll
  distinct := (List.filter_sublist.map _).nodup q.distinct

/-- The queue with a dialog of it moved to the front. -/
def advance (q : Queue H) (d : H) : Queue H where
  entries :=
    q.entries.filter (fun e => decide (e.handle = d))
      ++ q.entries.filter fun e => !decide (e.handle = d)
  policy := q.policy
  closingAll := q.closingAll
  distinct := ((List.filter_append_perm _ q.entries).map _).nodup_iff.mpr q.distinct

/-- The queue with a new say on whether a dialog stays open when the host navigates. -/
def setStaysOpen (q : Queue H) (d : H) (stays : Bool) : Queue H where
  entries := q.entries.map fun e => if e.handle = d then { e with staysOpen := stays } else e
  policy := q.policy
  closingAll := q.closingAll
  distinct := by
    have h : (Entry.handle ∘ fun e : Entry H =>
        if e.handle = d then { e with staysOpen := stays } else e) = Entry.handle := by
      funext e
      simp only [Function.comp_apply]
      split <;> rfl
    rw [List.map_map, h]
    exact q.distinct

/-- The others keep their order when a dialog leaves. -/
@[simp]
theorem handles_remove (q : Queue H) (d : H) :
    (q.remove d).handles = q.handles.filter fun a => !decide (a = d) := by
  rw [handles, remove, handles, List.filter_map]
  rfl

/-- A flag does not change who is in the queue. -/
@[simp]
theorem handles_setStaysOpen (q : Queue H) (d : H) (stays : Bool) :
    (q.setStaysOpen d stays).handles = q.handles := by
  rw [handles, setStaysOpen, handles, List.map_map]
  refine List.map_congr_left fun e _ => ?_
  simp only [Function.comp_apply]
  split <;> rfl

/-- A dialog that moves to the front is followed by the others in their order. -/
theorem handles_advance {q : Queue H} {d : H} (h : d ∈ q.handles) :
    (q.advance d).handles = d :: (q.remove d).handles := by
  have hd : (q.handles.filter fun a => decide (a = d)) = [d] := by
    have hc : q.handles.count d = 1 := q.distinct.count.trans (if_pos h)
    rw [← List.replicate_one, ← hc, ← List.filter_eq]
  rw [handles, advance, List.map_append, handles, remove, ← List.singleton_append, ← hd, handles,
    List.filter_map]
  rfl

/-- A dialog that leaves makes the queue shorter. -/
theorem size_remove_lt {q : Queue H} {d : H} (h : d ∈ q.handles) : (q.remove d).size < q.size := by
  obtain ⟨e, he, hd⟩ := List.mem_map.mp h
  exact List.length_filter_lt_length_iff_exists.mpr ⟨e, he, by simp [hd]⟩

end Queue

end BrowserTab.Dialog
