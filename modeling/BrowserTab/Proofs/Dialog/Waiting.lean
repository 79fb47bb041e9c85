import BrowserTab.Proofs.Dialog.Protocol

/-!
# Waiting dialogs

A queue that leaves its dialogs where they are does nothing with a waiting one, whatever the host says
about being on screen. All calls but the first are about the front dialog, and a dialog that was once in
front stays there until it leaves, so a waiting dialog has never been in front.
-/

namespace BrowserTab.Dialog

variable {H : Type}

lemma Effect.call?_eq_some {e : Effect H} {x : Call H} : e.call? = some x ↔ e = .call x := by
  cases e <;> simp [Effect.call?]

lemma Queue.mem_tail_handles_iff {q : Queue H} {d : H} :
    d ∈ q.handles.tail ↔ d ∈ q.handles ∧ q.front? ≠ some d := by
  have hn := q.nodup_handles
  rw [Queue.front?]
  cases hq : q.handles with
  | nil => simp
  | cons f hs =>
    rw [hq, List.nodup_cons] at hn
    simp only [List.tail_cons, List.mem_cons, List.head?_cons, ne_eq, Option.some.injEq]
    constructor
    · intro hd
      refine ⟨.inr hd, ?_⟩
      rintro rfl
      exact hn.1 hd
    · rintro ⟨rfl | hd, hne⟩
      · exact absurd rfl hne
      · exact hd

variable [DecidableEq H] {q : Queue H} {policy : Policy} {visible : Bool} {cs : List (Command H)}
  {c : Command H} {r : Reaction H} {d : H}

lemma entries_of_reacts (hr : Reacts q visible c r) (hn : r.queue.entries ≠ []) :
    ∀ m ∈ r.moments, m.entries = q.entries ∨ m.entries = r.queue.entries := by
  have hfront : ∀ (q : Queue H) verb, ∀ m ∈ q.callFront verb, m.entries = q.entries := by
    intro q verb m hm
    obtain ⟨d, -, rfl⟩ := List.mem_map.mp hm
    rfl
  cases hr with
  | clear _ he => exact absurd he hn
  | joinAlone => cases visible <;> simp
  | advance => cases visible <;> simp
  | leaveFront =>
    intro m hm
    rcases List.mem_append.mp hm with hm | hm
    · exact .inr (hfront _ _ m hm)
    · simp only [List.mem_cons, List.not_mem_nil, or_false] at hm
      rcases hm with rfl | rfl <;> exact .inr rfl
  | followHost | closeFront | focus | redirectInput => exact fun m hm => .inl (hfront _ _ m hm)
  | _ => simp

lemma manages_of_waiting (hr : Reacts q visible c r) (hf : q.front? ≠ some d)
    (hd : d ∈ r.queue.handles.tail) : ∀ x ∈ r.calls, x.dialog = d → x.verb = .manage := by
  rintro x hx rfl
  obtain ⟨hmem, hf'⟩ := Queue.mem_tail_handles_iff.mp hd
  obtain ⟨m, hm, hcall⟩ := List.mem_filterMap.mp hx
  have hn : r.queue.entries ≠ [] := mt Queue.handles_eq_nil.mpr (List.ne_nil_of_mem hmem)
  by_contra hv
  have hfirst := (lawful_of_reacts hr m hm).head?_eq_some (Effect.call?_eq_some.mp hcall) hv
  rcases entries_of_reacts hr hn m hm with he | he
  · rw [he] at hfirst
    exact hf hfirst
  · rw [he] at hfirst
    exact hf' hfirst

lemma head?_rearrange_ignore {hs : List H} (hf : hs.head? = some d)
    (hd : d ∈ c.rearrange .ignore hs) : (c.rearrange .ignore hs).head? = some d := by
  obtain ⟨rest, rfl⟩ := List.head?_eq_some_iff.mp hf
  cases c with
  | present a =>
    simp only [Command.rearrange]
    split <;> rfl
  | leave a =>
    have hne : d ≠ a := by simpa using (List.mem_filter.mp hd).2
    simp [Command.rearrange, hne]
  | closeAll | destroy => cases hd
  | keepOpen | followHost | setVisible | navigate | focus | redirectInput => exact hf

lemma front?_run_ignore (hf : ((Host.fresh .ignore visible).run cs).queue.front? = some d)
    (hd : d ∈ ((Host.fresh .ignore visible).run (cs ++ [c])).queue.handles) :
    ((Host.fresh .ignore visible).run (cs ++ [c])).queue.front? = some d := by
  rw [handles_run_concat] at hd
  rw [Queue.front?, handles_run_concat]
  exact head?_rearrange_ignore hf hd

lemma manages_of_stay (hd : d ∈ ((Host.fresh .ignore visible).run cs).queue.handles) :
    d ∈ ((Host.fresh .ignore visible).run cs).queue.handles.tail →
      ∀ x ∈ (Host.fresh .ignore visible).callsInStay cs d, x.verb = .manage := by
  have hstep : ∀ cs c, ((Host.fresh .ignore visible).run cs).queue.front? ≠ some d →
      d ∈ ((Host.fresh .ignore visible).run (cs ++ [c])).queue.handles.tail →
      ∀ x ∈ ((Host.fresh .ignore visible).run cs).callsOn c d, x.verb = .manage := by
    intro cs c hf ht x hx
    obtain ⟨hx, hxd⟩ := List.mem_filter.mp hx
    rw [Host.run_concat] at ht
    exact manages_of_waiting (Host.reacts_run .ignore visible cs c) hf ht x hx (of_decide_eq_true hxd)
  -- A dialog that waits has waited all through its stay, for it would not have left the front.
  induction cs, hd using stay_induction with
  | join cs hb _ =>
    intro ht
    rw [callsInStay_join hb]
    exact hstep cs _ (mt Queue.mem_handles_of_front? hb) ht
  | remain cs c hb hd ih =>
    intro ht
    have hf : ((Host.fresh .ignore visible).run cs).queue.front? ≠ some d :=
      fun hf => (Queue.mem_tail_handles_iff.mp ht).2 (front?_run_ignore hf hd)
    rw [callsInStay_remain hb hd, List.forall_mem_append]
    exact ⟨ih (Queue.mem_tail_handles_iff.mpr ⟨hb, hf⟩), hstep cs c hf ht⟩

/-- A queue that leaves its dialogs where they are has told the platform nothing about a waiting dialog
but that it joined. The history may be any, with any answers of the host. -/
theorem callsInStay_of_waiting (visible : Bool) (cs : List (Command H)) (d : H)
    (hd : d ∈ ((Host.fresh .ignore visible).run cs).queue.handles.tail) :
    (Host.fresh .ignore visible).callsInStay cs d = [⟨.manage, d⟩] := by
  have hmem := (Queue.mem_tail_handles_iff.mp hd).1
  have hall := manages_of_stay hmem hd
  obtain ⟨others, hcalls, hothers⟩ := announced_callsInStay hmem
  rw [hcalls, List.forall_mem_cons] at hall
  have hnone : others = [] := by
    apply List.eq_nil_iff_forall_not_mem.mpr
    intro x hx
    exact hothers x hx (hall.2 x hx)
  rw [hcalls, hnone]

/-- The second dialog came to the front and left, then joined again behind the third; the host says it is
hidden and reports the opposite. -/
theorem callsInStay_of_waiting_rejoined :
    let cs : List (Command Nat) := [.present 1, .present 2, .leave 1, .present 3, .setVisible false,
      .leave 2, .present 2, .followHost true, .present 2, .navigate, .redirectInput, .keepOpen 2 true]
    2 ∈ ((Host.fresh .ignore true).run cs).queue.handles.tail ∧
      (Host.fresh .ignore true).callsInStay cs 2 = [⟨.manage, 2⟩] := by
  intro cs
  have hd : 2 ∈ ((Host.fresh .ignore true).run cs).queue.handles.tail := by decide
  exact ⟨hd, callsInStay_of_waiting true cs 2 hd⟩

end BrowserTab.Dialog
