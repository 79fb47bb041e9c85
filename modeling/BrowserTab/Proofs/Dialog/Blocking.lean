import BrowserTab.Proofs.Dialog.History

/-!
# Blocking of the host's input

The queue does not keep whether the host's input is blocked; it only says so to the host. What it says
is true of the queue at that moment, and what it said last is true of the queue after every history.
-/

namespace BrowserTab.Dialog

variable {H : Type}

/-- Whether a moment at which the host's input is blocked or freed agrees with the queue. -/
def Moment.BlocksRightly (m : Moment H) : Prop :=
  ∀ b, m.effect = .block b → b = !m.entries.isEmpty

lemma blocks_closingMoments (e : Entry H) (es : List (Entry H)) :
    (Queue.closingMoments (e :: es)).filterMap (·.effect.block?) =
      List.replicate es.length true ++ [false] := by
  induction es generalizing e with
  | nil => rfl
  | cons e' es ih =>
    rw [Queue.closingMoments, List.filterMap_append, ih e', List.length_cons, List.replicate_succ]
    rfl

lemma blocks_callFront (q : Queue H) (verb : Verb) :
    (q.callFront verb).filterMap (·.effect.block?) = [] := by
  cases hf : q.front? <;> simp [Queue.callFront, hf]

variable [DecidableEq H] {q : Queue H} {visible : Bool} {c : Command H} {r : Reaction H}

/-- On a command the queue says nothing about the host's input and stays as occupied as it was, or it
says last what is true afterwards and before that only that the input is blocked. -/
lemma blocks_of_reacts (hr : Reacts q visible c r) :
    (r.blocks = [] ∧ r.queue.isOccupied = q.isOccupied) ∨
      ∃ n, r.blocks = List.replicate n true ++ [r.queue.isOccupied] ∧
        (q.isOccupied = true ∨ r.queue.isOccupied = true) := by
  cases hr with
  | @joinAlone d hd _ =>
    have ho : (q.join d hd).isOccupied = true := by simp [Queue.isOccupied_eq_true]
    refine .inr ⟨0, ?_, .inr ho⟩
    rw [ho]
    cases visible <;> rfl
  | @joinBehind d hd he =>
    have ho : q.isOccupied = true := by simpa [Queue.isOccupied] using he
    have ho' : (q.join d hd).isOccupied = true := by simp [Queue.isOccupied_eq_true]
    exact .inl ⟨rfl, ho'.trans ho.symm⟩
  | @advance d _ _ hd _ _ =>
    have ho : q.isOccupied = true := Queue.isOccupied_eq_true.mpr (List.ne_nil_of_mem hd)
    have ho' : (q.advance d).isOccupied = true := by
      simp [Queue.isOccupied_eq_true, Queue.handles_advance hd]
    refine .inl ⟨?_, ho'.trans ho.symm⟩
    cases visible <;> rfl
  | keepOpen hd =>
    refine .inl ⟨rfl, ?_⟩
    simp [Queue.isOccupied, Queue.setStaysOpen]
  | leaveFront hf =>
    have hd := Queue.mem_handles_of_front? hf
    refine .inr ⟨0, ?_, .inl (Queue.isOccupied_eq_true.mpr (List.ne_nil_of_mem hd))⟩
    rw [Reaction.blocks, List.filterMap_append, blocks_callFront]
    rfl
  | leaveBehind hd _ =>
    exact .inr ⟨0, rfl, .inl (Queue.isOccupied_eq_true.mpr (List.ne_nil_of_mem hd))⟩
  | @clear _ q' _ he _ _ =>
    have ho' : q'.isOccupied = false := by simp [Queue.isOccupied, he]
    cases hq : q.entries with
    | nil => exact .inl ⟨rfl, by simp [Queue.isOccupied, he, hq]⟩
    | cons e es =>
      refine .inr ⟨es.length, ?_, .inl (by simp [Queue.isOccupied, hq])⟩
      rw [ho']
      exact blocks_closingMoments e es
  | followHost => exact .inl ⟨blocks_callFront _ _, rfl⟩
  | closeFront => exact .inl ⟨blocks_callFront _ _, rfl⟩
  | focus => exact .inl ⟨blocks_callFront _ _, rfl⟩
  | redirectInput => exact .inl ⟨blocks_callFront _ _, rfl⟩
  | _ => exact .inl ⟨rfl, rfl⟩

lemma getLast?_blocks_run (policy : Policy) (visible : Bool) (cs : List (Command H)) :
    ((Host.fresh policy visible).blocks cs).getLast?.getD false =
      ((Host.fresh policy visible).run cs).queue.isOccupied := by
  induction cs using List.reverseRecOn with
  | nil => rfl
  | append_singleton cs c ih =>
    rw [Host.blocks_concat, Host.run_concat, Host.perform]
    rcases blocks_of_reacts (Host.reacts_run policy visible cs c) with ⟨hb, ho⟩ | ⟨n, hb, -⟩
    · rw [hb, List.append_nil, ih, ho]
    · rw [hb, ← List.append_assoc, List.getLast?_concat, Option.getD_some]

lemma blocksRightly_run (policy : Policy) (visible : Bool) (cs : List (Command H)) :
    ∀ m ∈ (Host.fresh policy visible).moments cs, m.BlocksRightly := by
  intro m hm b hb
  have h := Host.lawful_run policy visible cs m hm
  rwa [Moment.Lawful, hb] at h

lemma count_false_blocks (hr : Reacts q visible c r) :
    r.blocks.count false = if q.isOccupied && !r.queue.isOccupied then 1 else 0 := by
  rcases blocks_of_reacts hr with ⟨hb, ho⟩ | ⟨n, hb, ho⟩
  · simp [hb, ho]
  · rw [hb, List.count_append, List.count_replicate]
    cases hq : r.queue.isOccupied <;> simp_all

/-- The host's input is blocked exactly while a dialog is open, after every history and with any
answers of the host on whether it is visible: whenever the host is told, it is told the truth of that
moment; the last it was told is still true, and without being told anything it has no dialogs; and a
command frees the input exactly if it takes away the last dialog, and then once. -/
theorem input_blocked_iff_occupied (policy : Policy) (visible : Bool) (cs : List (Command H)) :
    (∀ m ∈ (Host.fresh policy visible).moments cs, ∀ b, m.effect = .block b → b = !m.entries.isEmpty) ∧
      (match ((Host.fresh policy visible).blocks cs).getLast? with
        | some b => b = ((Host.fresh policy visible).run cs).queue.isOccupied
        | none => ((Host.fresh policy visible).run cs).queue.entries = []) ∧
      ∀ c, (((Host.fresh policy visible).run cs).react c).blocks.count false =
        if ((Host.fresh policy visible).run cs).queue.isOccupied &&
            !((Host.fresh policy visible).run (cs ++ [c])).queue.isOccupied then 1 else 0 := by
  refine ⟨blocksRightly_run policy visible cs, ?_, ?_⟩
  · have hl := getLast?_blocks_run policy visible cs
    split <;> rename_i hb
    · rw [hb, Option.getD_some] at hl
      exact hl
    · rw [hb, Option.getD_none] at hl
      simpa [Queue.isOccupied] using hl.symm
  · intro c
    rw [Host.run_concat]
    exact count_false_blocks (Host.reacts_run policy visible cs c)

end BrowserTab.Dialog
