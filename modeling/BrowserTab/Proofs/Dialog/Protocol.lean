import BrowserTab.Proofs.Dialog.Stay

/-!
# The protocol of platform calls

The platform hears of a dialog first when the dialog joins a queue, and from then on only while the
dialog is in front. The first part is a fact about the commands that let a dialog join; the second is a
fact about every moment, since calls are made before the queue changes as well as after it.
-/

namespace BrowserTab.Dialog

variable {H : Type}

lemma Moment.Lawful.head?_eq_some {m : Moment H} {x : Call H} (h : m.Lawful) (hx : m.effect = .call x)
    (hv : x.verb ≠ .manage) : (m.entries.map Entry.handle).head? = some x.dialog := by
  rw [Moment.Lawful, hx] at h
  exact h.resolve_left hv

/-- Whether the first of some calls announces a dialog, and no other announces one. -/
def Announced (d : H) (calls : List (Call H)) : Prop :=
  ∃ others, calls = ⟨.manage, d⟩ :: others ∧ ∀ x ∈ others, x.verb ≠ .manage

lemma Announced.append {d : H} {calls more : List (Call H)} (h : Announced d calls)
    (hm : ∀ x ∈ more, x.verb ≠ .manage) : Announced d (calls ++ more) := by
  obtain ⟨others, rfl, hothers⟩ := h
  refine ⟨others ++ more, List.cons_append .., ?_⟩
  rw [List.forall_mem_append]
  exact ⟨hothers, hm⟩

variable [DecidableEq H] {q : Queue H} {policy : Policy} {visible : Bool} {cs : List (Command H)}
  {c : Command H} {r : Reaction H} {f d : H}

lemma manage_of_reacts (hr : Reacts q visible c r) :
    (∃ d others, c = .present d ∧ d ∉ q.handles ∧ r.calls = ⟨.manage, d⟩ :: others ∧
        ∀ x ∈ others, x = ⟨.display, d⟩) ∨
      (∀ d, c = .present d → d ∈ q.handles) ∧ ∀ x ∈ r.calls, x.verb ≠ .manage := by
  have hfront : ∀ (q : Queue H) verb, verb ≠ .manage →
      ∀ x ∈ (q.callFront verb).filterMap (·.effect.call?), x.verb ≠ .manage := by
    intro q verb hv x hx
    rw [Queue.calls_callFront] at hx
    obtain ⟨d, -, rfl⟩ := List.mem_map.mp hx
    exact hv
  cases hr with
  | @joinAlone d hd he =>
    refine .inl ⟨d, if visible then [⟨.display, d⟩] else [], rfl, hd, ?_, ?_⟩
    · cases visible <;> rfl
    · cases visible <;> simp
  | @joinBehind d hd he => exact .inl ⟨d, [], rfl, hd, rfl, by simp⟩
  | shownTwice hd => exact .inr ⟨by rintro a ⟨⟩; exact hd, by simp [Reaction.calls]⟩
  | frontAgain hf =>
    refine .inr ⟨?_, by simp [Reaction.calls]⟩
    rintro a ⟨⟩
    exact Queue.mem_handles_of_front? hf
  | advance _ hd =>
    refine .inr ⟨?_, ?_⟩
    · rintro a ⟨⟩
      exact hd
    · cases visible <;> simp [Reaction.calls]
  | leaveFront =>
    refine .inr ⟨by simp, ?_⟩
    intro x hx
    rw [Reaction.calls, List.filterMap_append, List.mem_append] at hx
    rcases hx with hx | hx
    · exact hfront _ .display (by decide) x hx
    · simp at hx
  | @followHost b =>
    refine .inr ⟨by simp, hfront q _ ?_⟩
    cases b <;> decide
  | closeFront => exact .inr ⟨by simp, hfront q .close (by decide)⟩
  | focus => exact .inr ⟨by simp, hfront q .focus (by decide)⟩
  | redirectInput => exact .inr ⟨by simp, hfront q .focus (by decide)⟩
  | clear hc =>
    refine .inr ⟨?_, ?_⟩
    · rintro a rfl
      simp at hc
    · rw [Reaction.calls, Queue.calls_closingMoments]
      simp
  | _ => exact .inr ⟨by simp, by simp [Reaction.calls]⟩

lemma joins_iff :
    (d ∉ ((Host.fresh policy visible).run cs).queue.handles ∧
        d ∈ ((Host.fresh policy visible).run (cs ++ [c])).queue.handles) ↔
      c = .present d ∧ d ∉ ((Host.fresh policy visible).run cs).queue.handles := by
  rw [mem_handles_concat]
  tauto

lemma count_manage_run (policy : Policy) (visible : Bool) (cs : List (Command H)) (c : Command H)
    (d : H) : (((Host.fresh policy visible).run cs).react c).calls.count ⟨.manage, d⟩ =
      if d ∉ ((Host.fresh policy visible).run cs).queue.handles ∧
        d ∈ ((Host.fresh policy visible).run (cs ++ [c])).queue.handles then 1 else 0 := by
  simp only [joins_iff]
  rcases manage_of_reacts (Host.reacts_run policy visible cs c) with
    ⟨a, others, rfl, ha, hcalls, hothers⟩ | ⟨hin, hcalls⟩
  · have hnone : others.count ⟨.manage, d⟩ = 0 := by
      apply List.count_eq_zero.mpr
      intro hm
      cases hothers _ hm
    rw [hcalls, List.count_cons, hnone]
    by_cases had : a = d
    · subst had
      simp [ha]
    · simp [had]
  · have hnone : (⟨.manage, d⟩ : Call H) ∉ (((Host.fresh policy visible).run cs).react c).calls :=
      fun hm => hcalls _ hm rfl
    rw [List.count_eq_zero.mpr hnone, if_neg]
    rintro ⟨hp, hd⟩
    exact hd (hin d hp)

lemma announced_callsOn (hd : d ∉ ((Host.fresh policy visible).run cs).queue.handles) :
    Announced d (((Host.fresh policy visible).run cs).callsOn (.present d) d) := by
  rcases manage_of_reacts (Host.reacts_run policy visible cs (.present d)) with
    ⟨a, others, ha, -, hcalls, hothers⟩ | ⟨hin, -⟩
  · cases ha
    refine ⟨others.filter (·.dialog = d), ?_, ?_⟩
    · rw [Host.callsOn, hcalls, List.filter_cons_of_pos (by simp)]
    · intro x hx
      simp [hothers x (List.mem_of_mem_filter hx)]
  · exact absurd (hin d rfl) hd

lemma callsOn_of_mem (c : Command H)
    (hd : d ∈ ((Host.fresh policy visible).run cs).queue.handles) :
    ∀ x ∈ ((Host.fresh policy visible).run cs).callsOn c d, x.verb ≠ .manage := by
  rintro ⟨verb, a⟩ hx rfl
  obtain ⟨hcall, ha⟩ := List.mem_filter.mp hx
  have had : a = d := of_decide_eq_true ha
  subst had
  have hn := count_manage_run policy visible cs c a
  rw [if_neg (fun h => h.1 hd), List.count_eq_zero] at hn
  exact hn hcall

lemma announced_callsInStay (hd : d ∈ ((Host.fresh policy visible).run cs).queue.handles) :
    Announced d ((Host.fresh policy visible).callsInStay cs d) := by
  induction cs, hd using stay_induction with
  | join cs hb _ =>
    rw [callsInStay_join hb]
    exact announced_callsOn hb
  | remain cs c hb hd ih =>
    rw [callsInStay_remain hb hd]
    exact ih.append (callsOn_of_mem c hb)

/-- Whether a command is about one dialog that it names. -/
def Command.names (d : H) : Command H → Prop
  | .present a | .keepOpen a _ | .leave a => a = d
  | _ => False

lemma manages_of_front_kept (hr : Reacts q visible c r) (hc : c.names d) (hf : q.front? = some f)
    (hf' : r.queue.front? = some f) : ∀ x ∈ r.calls, x.verb = .manage := by
  cases hr with
  | joinAlone hd he => simp [Queue.front?, Queue.handles, he] at hf
  | joinBehind => simp [Reaction.calls]
  | advance hf₀ hd hne =>
    rw [Queue.front?, Queue.handles_advance hd] at hf'
    rw [hf₀] at hf
    cases hf
    cases hf'
    exact absurd rfl hne
  | leaveFront hf₀ =>
    -- The front dialog would have to be one that has just left.
    rw [hf₀] at hf
    cases hf
    have hm := Queue.mem_handles_of_front? hf'
    simp at hm
  | clear hc₀ => rcases hc₀ with rfl | rfl <;> cases hc
  | followHost | closeFront | focus | redirectInput => cases hc
  | _ => simp [Reaction.calls]

/-- Calls to the platform follow a protocol, after every history and with any answers of the host. A
dialog is announced once on each command with which it joins and on no other. The announcement is the
first call of its stay, which begins with the command at which it joined and includes the one that ends
it. All other calls name the dialog that is in front when they are made. A command about one dialog that
leaves the front one in front makes no other call. -/
theorem calls_follow_protocol (policy : Policy) (visible : Bool) (cs : List (Command H)) :
    (∀ c d, (((Host.fresh policy visible).run cs).react c).calls.count ⟨.manage, d⟩ =
        if d ∉ ((Host.fresh policy visible).run cs).queue.handles ∧
          d ∈ ((Host.fresh policy visible).run (cs ++ [c])).queue.handles then 1 else 0) ∧
      (∀ d ∈ ((Host.fresh policy visible).run cs).queue.handles,
        (∀ n, joinedAt cs d ≤ n →
          (d ∈ ((Host.fresh policy visible).run (cs.take n)).queue.handles ↔ joinedAt cs d < n)) ∧
        ∀ c, Announced d ((Host.fresh policy visible).callsInStay cs d ++
          ((Host.fresh policy visible).run cs).callsOn c d)) ∧
      (∀ m ∈ (Host.fresh policy visible).moments cs, ∀ x, m.effect = .call x → x.verb ≠ .manage →
        (m.entries.map Entry.handle).head? = some x.dialog) ∧
      ∀ c d f, c.names d → ((Host.fresh policy visible).run cs).queue.front? = some f →
        ((Host.fresh policy visible).run (cs ++ [c])).queue.front? = some f →
        ∀ x ∈ (((Host.fresh policy visible).run cs).react c).calls, x.verb = .manage := by
  refine ⟨count_manage_run policy visible cs, ?_, ?_, ?_⟩
  · intro d hd
    refine ⟨mem_handles_take_iff hd, ?_⟩
    intro c
    exact (announced_callsInStay hd).append (callsOn_of_mem c hd)
  · intro m hm x hx hv
    exact (Host.lawful_run policy visible cs m hm).head?_eq_some hx hv
  · intro c d f hc hf hf'
    rw [Host.run_concat] at hf'
    exact manages_of_front_kept (Host.reacts_run policy visible cs c) hc hf hf'

end BrowserTab.Dialog
