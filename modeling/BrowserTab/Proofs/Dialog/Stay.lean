import BrowserTab.Proofs.Dialog.Order

/-!
# The stay of a dialog

A dialog can join a queue, leave it and join it again. What happened to it since it joined last is what
counts for what it looks like now, so the calls about it are read from that time on, and a statement
about them is proved by induction over the stay: the command with which it joined, then each command
that left it in the queue.
-/

namespace BrowserTab.Dialog

lemma take_concat_cases {H : Type} (cs : List (Command H)) (c : Command H) (n : Nat) :
    n ≤ cs.length ∧ (cs ++ [c]).take n = cs.take n ∨
      cs.length < n ∧ (cs ++ [c]).take n = cs ++ [c] := by
  by_cases hle : n ≤ cs.length
  · exact .inl ⟨hle, List.take_append_of_le_length hle⟩
  · refine .inr ⟨Nat.lt_of_not_le hle, List.take_of_length_le ?_⟩
    rw [List.length_append, List.length_singleton]
    omega

variable {H : Type} [DecidableEq H] {policy : Policy} {visible : Bool} {cs : List (Command H)}
  {c : Command H} {d : H}

namespace Host

lemma run_append (h : Host H) (p q : List (Command H)) : h.run (p ++ q) = (h.run p).run q :=
  List.foldl_append

lemma calls_append (h : Host H) (p q : List (Command H)) :
    h.calls (p ++ q) = h.calls p ++ (h.run p).calls q := by
  induction q using List.reverseRecOn with
  | nil => simp [calls, moments, reactions]
  | append_singleton q c ih =>
    rw [← List.append_assoc, calls_concat, ih, calls_concat, run_append, List.append_assoc]

/-- The calls about a dialog from the command on with which it joined the queue that it is in. -/
def callsInStay (h : Host H) (cs : List (Command H)) (d : H) : List (Call H) :=
  ((h.run (cs.take (joinedAt cs d))).calls (cs.drop (joinedAt cs d))).filter (·.dialog = d)

/-- The calls about a dialog on one more command. -/
def callsOn (h : Host H) (c : Command H) (d : H) : List (Call H) :=
  (h.react c).calls.filter (·.dialog = d)

end Host

lemma mem_handles_concat : d ∈ ((Host.fresh policy visible).run (cs ++ [c])).queue.handles ↔
    c = .present d ∨ c.removes d = false ∧ d ∈ ((Host.fresh policy visible).run cs).queue.handles := by
  rw [handles_run_concat, mem_rearrange]

/-- A statement about each history after which a dialog is in the queue holds if it holds when the
dialog joins, and stays true on each command that leaves the dialog in the queue. -/
@[elab_as_elim]
lemma stay_induction
    {motive : ∀ cs, d ∈ ((Host.fresh policy visible).run cs).queue.handles → Prop}
    (join : ∀ cs, d ∉ ((Host.fresh policy visible).run cs).queue.handles →
      ∀ hd, motive (cs ++ [.present d]) hd)
    (remain : ∀ cs c, ∀ hb : d ∈ ((Host.fresh policy visible).run cs).queue.handles,
      ∀ hd, motive cs hb → motive (cs ++ [c]) hd)
    (cs : List (Command H)) (hd : d ∈ ((Host.fresh policy visible).run cs).queue.handles) :
    motive cs hd := by
  induction cs using List.reverseRecOn with
  | nil => cases hd
  | append_singleton cs c ih =>
    by_cases hb : d ∈ ((Host.fresh policy visible).run cs).queue.handles
    · exact remain cs c hb hd (ih hb)
    · rcases mem_handles_concat.mp hd with rfl | ⟨-, h⟩
      · exact join cs hb hd
      · exact absurd h hb

lemma removes_eq_false (hd : d ∈ ((Host.fresh policy visible).run (cs ++ [c])).queue.handles) :
    c.removes d = false := by
  rcases mem_handles_concat.mp hd with rfl | ⟨hr, -⟩
  · rfl
  · exact hr

lemma joinedAt_join (hd : d ∉ ((Host.fresh policy visible).run cs).queue.handles) :
    joinedAt (cs ++ [.present d]) d = cs.length :=
  joinedAt_joined (not_not.mp (mt (mem_handles_run_iff policy visible cs d).mpr hd))

lemma joinedAt_remain (hb : d ∈ ((Host.fresh policy visible).run cs).queue.handles)
    (hd : d ∈ ((Host.fresh policy visible).run (cs ++ [c])).queue.handles) :
    joinedAt (cs ++ [c]) d = joinedAt cs d :=
  joinedAt_concat ((mem_handles_run_iff policy visible cs d).mp hb) (removes_eq_false hd)

lemma joinedAt_lt (hd : d ∈ ((Host.fresh policy visible).run cs).queue.handles) :
    joinedAt cs d < cs.length :=
  joinedAt_lt_length ((mem_handles_run_iff policy visible cs d).mp hd)

lemma mem_handles_take_iff (hd : d ∈ ((Host.fresh policy visible).run cs).queue.handles) :
    ∀ n, joinedAt cs d ≤ n →
      (d ∈ ((Host.fresh policy visible).run (cs.take n)).queue.handles ↔ joinedAt cs d < n) := by
  induction cs, hd using stay_induction with
  | join cs hb hd =>
    intro n hn
    rw [joinedAt_join hb] at hn ⊢
    rcases take_concat_cases cs (.present d) n with ⟨hle, ht⟩ | ⟨hlt, ht⟩
    -- What comes before the stay is the history up to the command with which the dialog joins.
    · rw [ht, List.take_of_length_le hn]
      exact iff_of_false hb (Nat.not_lt.mpr hle)
    · rw [ht]
      exact iff_of_true hd hlt
  | remain cs c hb hd ih =>
    intro n hn
    rw [joinedAt_remain hb hd] at hn ⊢
    rcases take_concat_cases cs c n with ⟨-, ht⟩ | ⟨hlt, ht⟩
    · rw [ht]
      exact ih n hn
    · rw [ht]
      exact iff_of_true hd (Nat.lt_trans (joinedAt_lt hb) hlt)

lemma callsInStay_join (hd : d ∉ ((Host.fresh policy visible).run cs).queue.handles) :
    (Host.fresh policy visible).callsInStay (cs ++ [.present d]) d =
      ((Host.fresh policy visible).run cs).callsOn (.present d) d := by
  rw [Host.callsInStay, joinedAt_join hd, List.take_left, List.drop_left]
  simp [Host.callsOn, Host.calls, Host.moments, Host.reactions, Reaction.calls]

lemma callsInStay_remain (hb : d ∈ ((Host.fresh policy visible).run cs).queue.handles)
    (hd : d ∈ ((Host.fresh policy visible).run (cs ++ [c])).queue.handles) :
    (Host.fresh policy visible).callsInStay (cs ++ [c]) d =
      (Host.fresh policy visible).callsInStay cs d ++ ((Host.fresh policy visible).run cs).callsOn c d := by
  have hl := Nat.le_of_lt (joinedAt_lt hb)
  have hrun : ((Host.fresh policy visible).run (cs.take (joinedAt cs d))).run (cs.drop (joinedAt cs d)) =
      (Host.fresh policy visible).run cs := by
    rw [← Host.run_append, List.take_append_drop]
  rw [Host.callsInStay, joinedAt_remain hb hd, List.take_append_of_le_length hl,
    List.drop_append_of_le_length hl, Host.calls_concat, hrun, List.filter_append]
  rfl

lemma filter_calls_eq (h : Host H) (cs : List (Command H)) (d : H) :
    ∃ before, (h.calls cs).filter (·.dialog = d) = before ++ h.callsInStay cs d := by
  refine ⟨(h.calls (cs.take (joinedAt cs d))).filter (·.dialog = d), ?_⟩
  rw [Host.callsInStay, ← List.filter_append, ← Host.calls_append, List.take_append_drop]

end BrowserTab.Dialog
