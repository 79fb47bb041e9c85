import BrowserTab.Proofs.Dialog.Screen

/-!
# Waiting dialogs stay off screen

Only the front dialog is meant to be on screen. A dialog that comes to the front is displayed even on
a hidden host when the one before it leaves; if another one is then moved to the front of the hidden
host, it is not hidden again. Apart from that, no waiting dialog is ever on screen.
-/

namespace BrowserTab.Dialog

variable {H : Type} [DecidableEq H] {policy : Policy} {visible : Bool} {hs hs' : List H}
  {c : Command H} {ds calls : List (Call H)}

/-- The waiting dialogs stay off screen on a command, unless it moves a dialog to the front of a hidden
host while the front dialog is on screen. -/
lemma Shifts.waiting_off (h : Shifts policy visible hs c hs' ds) (hn : hs.Nodup)
    (hw : ∀ d ∈ hs.tail, onScreen calls d = false)
    (hx : ∀ d f, c = .present d → policy = .moveToFront → hs.head? = some f → d ∈ hs → d ≠ f →
      visible = false → onScreen calls f = false) :
    ∀ d ∈ hs'.tail, onScreen (calls ++ ds) d = false := by
  intro x hxm
  cases h with
  | stay => rw [List.append_nil, hw x hxm]
  | joinAlone => simp at hxm
  | @joinBehind f d hs hd =>
    rcases List.mem_append.mp hxm with hxm | hxm
    · rw [onScreen_other calls (by rintro rfl; exact hd (List.mem_cons_of_mem f hxm))]
      exact hw x hxm
    · rw [List.mem_singleton.mp hxm, onScreen_joined]
  | @advance f d hs hp hd hne =>
    have hdx : d ≠ x := by
      rintro rfl
      rcases List.mem_cons.mp hxm with rfl | hxm
      · exact hne rfl
      · simp at hxm
    have hrest : x ≠ f → onScreen calls x = false := by
      intro hxf
      exact hw x (List.mem_filter.mp (List.mem_of_ne_of_mem hxf hxm)).1
    cases visible with
    | true =>
      rw [if_pos rfl, List.append_cons, onScreen_other _ hdx]
      by_cases hxf : x = f
      · rw [hxf, onScreen_hidden]
      · rw [onScreen_other _ (Ne.symm hxf), hrest hxf]
    | false =>
      rw [if_neg (by decide), List.append_nil]
      by_cases hxf : x = f
      · rw [hxf]
        exact hx d f rfl hp rfl (List.mem_cons_of_mem f hd) hne rfl
      · exact hrest hxf
  | leaveFront =>
    cases hs' with
    | nil => simp at hxm
    | cons g gs =>
      have hgx : g ≠ x := by
        rintro rfl
        exact (List.nodup_cons.mp (List.nodup_cons.mp hn).2).1 hxm
      exact (onScreen_other calls hgx).trans (hw x (List.mem_cons_of_mem g hxm))
  | leaveBehind => rw [List.append_nil, hw x (List.mem_filter.mp hxm).1]
  | @turn f hs b =>
    have hfx : f ≠ x := by
      rintro rfl
      exact (List.nodup_cons.mp hn).1 hxm
    rw [onScreen_other _ hfx, hw x hxm]
  | clear => simp at hxm

lemma Shifts.front_kept {f : H} (h : Shifts policy visible hs c hs' ds) (hn : hs.Nodup)
    (hf : hs.head? = some f) (hf' : hs'.head? = some f) (hc : c.turns = false) :
    onScreen (calls ++ ds) f = onScreen calls f := by
  cases h with
  | stay => rw [List.append_nil]
  | joinAlone => cases hf
  | @joinBehind _ d _ hd =>
    cases hf
    refine onScreen_other calls ?_
    rintro rfl
    exact hd (List.mem_cons_self ..)
  | advance _ _ hne =>
    cases hf
    cases hf'
    exact absurd rfl hne
  | leaveFront =>
    cases hf
    exact absurd (List.mem_of_mem_head? hf') (List.nodup_cons.mp hn).1
  | leaveBehind => rw [List.append_nil]
  | turn => cases hc
  | clear => cases hf'

lemma Shifts.front_new {f : H} (h : Shifts policy false hs c hs' ds)
    (hw : ∀ d ∈ hs.tail, onScreen calls d = false) (hf : hs.head? ≠ some f)
    (hf' : hs'.head? = some f) (hon : onScreen (calls ++ ds) f = true) :
    ∃ a, c = .leave a ∧ hs.head? = some a := by
  cases h with
  | joinAlone =>
    cases hf'
    rw [if_neg (by decide), onScreen_joined] at hon
    cases hon
  | @advance g _ hs _ hd _ =>
    cases hf'
    rw [if_neg (by decide), List.append_nil, hw f hd] at hon
    cases hon
  | @leaveFront a => exact ⟨a, rfl, rfl⟩
  | clear => cases hf'
  | stay | joinBehind | leaveBehind | turn => exact absurd hf' hf

lemma Shifts.front_left {a f : H} (h : Shifts policy visible hs (.leave a) hs' ds)
    (ha : hs.head? = some a) (hf : hs'.head? = some f) : onScreen (calls ++ ds) f = true := by
  cases h with
  | stay hl _ _ => exact absurd (List.mem_of_mem_head? ha) (hl a rfl)
  | leaveFront =>
    rw [hf]
    exact onScreen_displayed calls f
  | leaveBehind _ hne =>
    cases ha
    exact absurd rfl hne
  | clear hc => simp at hc

lemma Shifts.front_overtaken {f d : H} (h : Shifts .moveToFront false hs (.present d) hs' ds)
    (hf : hs.head? = some f) (hd : d ∈ hs) (hne : d ≠ f) : f ∈ hs'.tail ∧ ds = [] := by
  cases h with
  | stay _ hp _ =>
    rw [hp d rfl rfl] at hf
    exact absurd (Option.some.inj hf) hne
  | joinAlone => cases hf
  | joinBehind hd' => exact absurd hd hd'
  | advance =>
    cases hf
    exact ⟨List.mem_cons_self .., rfl⟩
  | clear hc => simp at hc

/-- Whether after a history no dialog but the front one is on screen. -/
def Host.WaitingOffScreen (h : Host H) (cs : List (Command H)) : Prop :=
  ∀ d ∈ (h.run cs).queue.handles.tail, onScreen (h.calls cs) d = false

/-- Whether a dialog came to the front because another left a hidden host, and has been in front of the
hidden host since. -/
def Host.Exposes (h : Host H) (cs : List (Command H)) (f : H) : Prop :=
  ∃ p a q, cs = p ++ .leave a :: q ∧ (h.run p).visible = false ∧ (h.run p).queue.front? = some a ∧
    (∀ c ∈ q, c.turns = false) ∧ ∀ q', q' <+: q → (h.run (p ++ .leave a :: q')).queue.front? = some f

lemma Host.Exposes.concat {h : Host H} {cs : List (Command H)} {f : H} (he : h.Exposes cs f)
    (hc : c.turns = false) (hf : (h.run (cs ++ [c])).queue.front? = some f) :
    h.Exposes (cs ++ [c]) f := by
  obtain ⟨p, a, q, rfl, hv, ha, hq, hfront⟩ := he
  refine ⟨p, a, q ++ [c], by simp, hv, ha, ?_, ?_⟩
  · intro x hx
    rcases List.mem_append.mp hx with hx | hx
    · exact hq x hx
    · rwa [List.mem_singleton.mp hx]
  · intro q' hq'
    rcases List.prefix_concat_iff.mp hq' with rfl | hq'
    · simpa using hf
    · exact hfront q' hq'

lemma Host.exposes_leave {h : Host H} {cs : List (Command H)} {a f : H}
    (hv : (h.run cs).visible = false) (ha : (h.run cs).queue.front? = some a)
    (hf : (h.run (cs ++ [.leave a])).queue.front? = some f) : h.Exposes (cs ++ [.leave a]) f := by
  refine ⟨cs, a, [], rfl, hv, ha, by simp, ?_⟩
  intro q' hq'
  rwa [List.prefix_nil.mp hq']

lemma onScreen_of_exposes {cs : List (Command H)} {f : H}
    (he : (Host.fresh policy visible).Exposes cs f) :
    ((Host.fresh policy visible).run cs).visible = false ∧
      ((Host.fresh policy visible).run cs).queue.front? = some f ∧
      onScreen ((Host.fresh policy visible).calls cs) f = true := by
  obtain ⟨p, a, q, rfl, hv, ha, hq, hfront⟩ := he
  induction q using List.reverseRecOn with
  | nil =>
    obtain ⟨ds, hs, hon⟩ := shifts_run policy visible p (.leave a)
    have hf := hfront [] (List.prefix_refl _)
    refine ⟨?_, hf, ?_⟩
    · rw [Host.run_concat, Host.visible_perform _ rfl, hv]
    · rw [hon, hs.front_left ha hf]
  | append_singleton q c ih =>
    obtain ⟨hv', hf, hon⟩ := ih (fun x hx => hq x (List.mem_append_left _ hx))
      (fun q' hq' => hfront q' (hq'.trans (List.prefix_append q [c])))
    have hc := hq c (List.mem_append_right _ (List.mem_singleton_self c))
    have hf' := hfront (q ++ [c]) (List.prefix_refl _)
    rw [← List.cons_append, ← List.append_assoc] at hf' ⊢
    obtain ⟨ds, hs, hon'⟩ := shifts_run policy visible (p ++ .leave a :: q) c
    refine ⟨?_, hf', ?_⟩
    · rw [Host.run_concat, Host.visible_perform _ hc, hv']
    · rw [hon', hs.front_kept (Queue.nodup_handles _) hf hf' hc, hon]

lemma exposes_of_onScreen {cs : List (Command H)} (hc : Coherent cs)
    (hw : ∀ p, p <+: cs → (Host.fresh policy visible).WaitingOffScreen p) {f : H}
    (hv : ((Host.fresh policy visible).run cs).visible = false)
    (hf : ((Host.fresh policy visible).run cs).queue.front? = some f)
    (hon : onScreen ((Host.fresh policy visible).calls cs) f = true) :
    (Host.fresh policy visible).Exposes cs f := by
  induction hc generalizing f with
  | start => cases hf
  | @turn cs b _ _ =>
    rw [List.append_cons] at hv hf hon
    have hb : b = false := by
      rw [Host.run_concat, Host.run_concat] at hv
      exact hv
    subst hb
    obtain ⟨ds, hs, hon'⟩ := shifts_run policy visible (cs ++ [.setVisible false]) (.followHost false)
    rw [hon', hs.front_turned hf] at hon
    cases hon
  | @other cs c hct _ ih =>
    have hpre := List.prefix_append cs [c]
    have hv' : ((Host.fresh policy visible).run cs).visible = false := by
      rwa [Host.run_concat, Host.visible_perform _ hct] at hv
    obtain ⟨ds, hs, hon'⟩ := shifts_run policy visible cs c
    rw [hv'] at hs
    rw [hon'] at hon
    by_cases hf' : ((Host.fresh policy visible).run cs).queue.front? = some f
    · rw [hs.front_kept (Queue.nodup_handles _) hf' hf hct] at hon
      exact (ih (fun p hp => hw p (hp.trans hpre)) hv' hf' hon).concat hct hf
    · obtain ⟨a, rfl, ha⟩ := hs.front_new (hw cs hpre) hf' hf hon
      exact Host.exposes_leave hv' ha hf

/-- In a coherent history all waiting dialogs stay off screen, unless an exposed dialog is overtaken:
a front dialog leaves the hidden host, which puts the next one on screen, and before the host turns
or that one goes another dialog is moved to the front. -/
theorem waiting_off_screen_iff (policy : Policy) (visible : Bool) (cs : List (Command H))
    (hc : Coherent cs) :
    (∀ p, p <+: cs → (Host.fresh policy visible).WaitingOffScreen p) ↔
      ¬∃ p d f, p ++ [.present d] <+: cs ∧ policy = .moveToFront ∧
        (Host.fresh policy visible).Exposes p f ∧
        d ∈ ((Host.fresh policy visible).run p).queue.handles ∧ d ≠ f := by
  constructor
  · rintro hw ⟨p, d, f, hp, rfl, he, hd, hne⟩
    obtain ⟨hv, hf, hon⟩ := onScreen_of_exposes he
    obtain ⟨ds, hs, hon'⟩ := shifts_run .moveToFront visible p (.present d)
    rw [hv] at hs
    obtain ⟨hmem, hds⟩ := hs.front_overtaken hf hd hne
    have hoff := hw _ hp f hmem
    rw [hon', hds, List.append_nil, hon] at hoff
    cases hoff
  · intro hno p hp
    suffices h : ∀ p', p' <+: p → (Host.fresh policy visible).WaitingOffScreen p' from
      h p (List.prefix_refl p)
    induction p using List.reverseRecOn with
    | nil =>
      intro p' hp'
      rw [List.prefix_nil.mp hp']
      intro d hd
      cases hd
    | append_singleton p c ih =>
      have hw := ih ((List.prefix_append p [c]).trans hp)
      intro p' hp'
      rcases List.prefix_concat_iff.mp hp' with rfl | hp'
      · intro x hx
        obtain ⟨ds, hs, hon⟩ := shifts_run policy visible p c
        rw [hon]
        refine hs.waiting_off (Queue.nodup_handles _) (hw p (List.prefix_refl p)) ?_ x hx
        rintro d f rfl hpol hf hd hne hv
        by_contra hs
        rw [Bool.not_eq_false] at hs
        have he := exposes_of_onScreen (hc.of_prefix hp rfl) hw hv hf hs
        exact hno ⟨p, d, f, hp, hpol, he, hd, hne⟩
      · exact hw p' hp'

/-- A front dialog leaves a hidden host, another is presented twice, and the host turns in between. -/
theorem waiting_off_screen_iff_ignore :
    let cs : List (Command Nat) := [.present 1, .present 2, .present 3, .leave 1, .present 3,
      .setVisible true, .followHost true, .present 3, .setVisible false, .followHost false, .leave 2]
    Coherent cs ∧ ∀ p, p <+: cs → (Host.fresh .ignore false).WaitingOffScreen p := by
  intro cs
  have h : Coherent [Command.present 1, .present 2, .present 3, .leave 1, .present 3] :=
    .other rfl (.other rfl (.other rfl (.other rfl (.other rfl .start))))
  have hc : Coherent cs := .other rfl (.turn false (.other rfl (.turn true h)))
  exact ⟨hc, (waiting_off_screen_iff .ignore false cs hc).mpr (by simp)⟩

/-- On a hidden host the second dialog comes on screen and the third is moved in front of it. -/
theorem waiting_dialog_on_screen_of_hidden_host :
    ¬∀ (policy : Policy) (visible : Bool) (cs : List (Command Nat)), Coherent cs →
      (Host.fresh policy visible).WaitingOffScreen cs := by
  intro hw
  have hc : Coherent [Command.present 1, .present 2, .present 3, .leave 1, .present 3] :=
    .other rfl (.other rfl (.other rfl (.other rfl (.other rfl .start))))
  have hoff := hw .moveToFront false _ hc 2 (by decide)
  exact absurd hoff (by decide)

end BrowserTab.Dialog
