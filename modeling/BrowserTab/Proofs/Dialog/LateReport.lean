import Mathlib.Data.Multiset.AddSub
import BrowserTab.Proofs.Dialog.Order

/-!
# Late reports

A queue that closes all its dialogs does not wait for the platform, so the reports that they have closed
come later, in any order and between any other commands. Such a report is meant to do nothing. That is
so unless its dialog has joined again in the meantime: then the report is taken for one about the new
dialog, which has not closed.
-/

namespace BrowserTab.Dialog

variable {H : Type}

/-- Whether a command closes all dialogs. -/
def Command.closesAll : Command H → Bool
  | .closeAll | .destroy => true
  | _ => false

variable [DecidableEq H]

namespace Host

/-- The dialogs that the platform is told to close on a command. -/
def closing (h : Host H) (c : Command H) : Multiset H :=
  ((h.react c).calls.filter (·.verb = .close)).map (·.dialog)

/-- Whether a command changes no entry and calls neither the platform nor the host. -/
def Ignores (h : Host H) (c : Command H) : Prop :=
  (h.react c).queue.entries = h.queue.entries ∧ (h.react c).calls = [] ∧ (h.react c).blocks = []

end Host

/-- The histories of a host, each with the reports that the platform owes it: one for each dialog that it
was told to close when all were closed. A report may come at any time, and so may any other command, one
that reports a dialog of which no report is owed included. -/
inductive Owes (policy : Policy) (visible : Bool) : List (Command H) → Multiset H → Prop
  | start : Owes policy visible [] 0
  | closing {cs : List (Command H)} {owed : Multiset H} {c : Command H} (hc : c.closesAll = true)
    (h : Owes policy visible cs owed) :
    Owes policy visible (cs ++ [c]) (owed + ((Host.fresh policy visible).run cs).closing c)
  | report {cs : List (Command H)} {owed : Multiset H} {d : H} (hd : d ∈ owed)
    (h : Owes policy visible cs owed) : Owes policy visible (cs ++ [.leave d]) (owed.erase d)
  | other {cs : List (Command H)} {owed : Multiset H} {c : Command H} (hc : c.closesAll = false)
    (h : Owes policy visible cs owed) : Owes policy visible (cs ++ [c]) owed

variable {policy : Policy} {visible : Bool} {cs : List (Command H)} {c : Command H}
  {owed : Multiset H} {d : H}

lemma ignores_leave_iff {h : Host H} : h.Ignores (.leave d) ↔ d ∉ h.queue.handles := by
  constructor
  · rintro ⟨hentries, -, -⟩ hd
    have hq : (h.queue.remove d).handles = h.queue.handles := by
      rw [Host.react, Queue.queue_leave hd] at hentries
      rw [Queue.handles, hentries]
      rfl
    rw [← hq] at hd
    simp at hd
  · intro hd
    simp [Host.Ignores, Host.react, Queue.leave, hd, Reaction.calls, Reaction.blocks]

lemma closing_of_closesAll {h : Host H} (hc : c.closesAll = true) : h.closing c = h.queue.handles := by
  have hcalls : h.queue.closeAll.calls = h.queue.entries.map fun e => ⟨.close, e.handle⟩ := by
    rw [Queue.closeAll_eq]
    exact Queue.calls_closingMoments h.queue.entries
  cases c with
  | closeAll | destroy =>
    simp only [Host.closing, Host.react, hcalls, Queue.handles]
    simp [List.filter_map, Function.comp_def]
  | _ => cases hc

lemma removes_of_closesAll (hc : c.closesAll = true) : c.removes d = true := by
  cases c with
  | closeAll | destroy => rfl
  | _ => cases hc

lemma Owes.closeAll (h : Owes policy visible cs 0) : Owes policy visible (cs ++ [.closeAll])
    ((Host.fresh policy visible).run cs).queue.handles := by
  have hall := h.closing (c := .closeAll) rfl
  rwa [closing_of_closesAll rfl, Multiset.zero_add] at hall

lemma Owes.of_concat (h : Owes policy visible (cs ++ [c]) owed) (hd : d ∈ owed)
    (hc : c.removes d = false) : ∃ owed', Owes policy visible cs owed' ∧ d ∈ owed' := by
  generalize hl : cs ++ [c] = l at h
  cases h with
  | start => simp at hl
  | closing hall h =>
    obtain ⟨rfl, hcc⟩ := List.append_inj' hl rfl
    cases hcc
    rw [removes_of_closesAll hall] at hc
    cases hc
  | report hm h =>
    obtain ⟨rfl, hcc⟩ := List.append_inj' hl rfl
    cases hcc
    exact ⟨_, h, Multiset.mem_of_mem_erase hd⟩
  | other _ h =>
    obtain ⟨rfl, -⟩ := List.append_inj' hl rfl
    exact ⟨_, h, hd⟩

lemma Owes.of_append {p q : List (Command H)} (h : Owes policy visible (p ++ q) owed) (hd : d ∈ owed)
    (hq : ∀ c ∈ q, c.removes d = false) : ∃ owed', Owes policy visible p owed' ∧ d ∈ owed' := by
  induction q using List.reverseRecOn generalizing owed with
  | nil =>
    rw [List.append_nil] at h
    exact ⟨owed, h, hd⟩
  | append_singleton q c ih =>
    rw [List.forall_mem_append, List.forall_mem_singleton] at hq
    rw [← List.append_assoc] at h
    obtain ⟨owed', h', hd'⟩ := h.of_concat hd hq.2
    exact ih h' hd' hq.1

/-- The report for a dialog that was closed with all others is ignored when it comes, if and only if the
dialog was not presented again while the report was owed, or has been taken out since. -/
theorem report_ignored_iff (policy : Policy) (visible : Bool) (cs : List (Command H))
    (owed : Multiset H) (h : Owes policy visible cs owed) (d : H) (hd : d ∈ owed) :
    ((Host.fresh policy visible).run cs).Ignores (.leave d) ↔
      ¬∃ p q owed', cs = p ++ .present d :: q ∧ Owes policy visible p owed' ∧ d ∈ owed' ∧
        ∀ c ∈ q, c.removes d = false := by
  rw [ignores_leave_iff, mem_handles_run_iff, showings_ne_nil_iff, not_iff_not]
  constructor
  · rintro ⟨p, q, rfl, hq⟩
    have hpq : ∀ c ∈ .present d :: q, c.removes d = false := List.forall_mem_cons.mpr ⟨rfl, hq⟩
    obtain ⟨owed', h', hd'⟩ := h.of_append hd hpq
    exact ⟨p, q, owed', rfl, h', hd', hq⟩
  · rintro ⟨p, q, -, hp, -, -, hq⟩
    exact ⟨p, q, hp, hq⟩

/-- The second dialog is presented again after all were closed, and leaves before the report about its
first stay comes. -/
theorem report_ignored_iff_left :
    let cs : List (Command Nat) := [.present 1, .present 2, .closeAll, .present 3, .present 2, .leave 2]
    Owes .ignore true cs {1, 2} ∧ 2 ∈ ({1, 2} : Multiset Nat) ∧
      ((Host.fresh .ignore true).run cs).Ignores (.leave 2) := by
  intro cs
  have hopen : Owes .ignore true [Command.present 1, .present 2] 0 := .other rfl (.other rfl .start)
  have hall : Owes .ignore true ([.present 1, .present 2] ++ [Command.closeAll]) {1, 2} :=
    hopen.closeAll
  have h : Owes .ignore true cs {1, 2} := .other rfl (.other rfl (.other rfl hall))
  refine ⟨h, by decide, (report_ignored_iff .ignore true cs {1, 2} h 2 (by decide)).mpr ?_⟩
  rintro ⟨p, q, -, hp, -, -, hq⟩
  have hs : showings cs 2 = [] := by decide
  exact showings_ne_nil_iff.mpr ⟨p, q, hp, hq⟩ hs

/-- The report about the first stay of a dialog takes the dialog out of its second one. -/
theorem report_not_ignored_of_rejoined :
    ¬∀ (policy : Policy) (visible : Bool) (cs : List (Command Nat)) (owed : Multiset Nat),
      Owes policy visible cs owed → ∀ d ∈ owed,
        ((Host.fresh policy visible).run cs).Ignores (.leave d) := by
  intro hn
  have hopen : Owes .ignore true [Command.present 1] 0 := .other rfl .start
  have hall : Owes .ignore true ([.present 1] ++ [Command.closeAll]) {1} := hopen.closeAll
  have h : Owes .ignore true [Command.present 1, .closeAll, .present 1] {1} := .other rfl hall
  have hi := hn .ignore true _ {1} h 1 (by decide)
  exact absurd (ignores_leave_iff.mp hi) (by decide +kernel)

end BrowserTab.Dialog
