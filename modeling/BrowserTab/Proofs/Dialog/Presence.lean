import BrowserTab.Proofs.Dialog.Protocol
import BrowserTab.Proofs.Dialog.Screen

/-!
# Visible hosts

The front dialog of a visible host is on screen. Whichever way a dialog comes to the front of a visible
host it is displayed then, and a host that comes on screen displays the dialog that came to the front
while it was hidden.
-/

namespace BrowserTab.Dialog

variable {H : Type} [DecidableEq H] {policy : Policy} {visible : Bool} {hs hs' : List H}
  {cs : List (Command H)} {c : Command H} {ds calls : List (Call H)} {d : H}

/-- The call that last displayed or hid a dialog since it joined. -/
def Host.lastDrawn (h : Host H) (cs : List (Command H)) (d : H) : Option (Call H) :=
  ((h.callsInStay cs d).filter fun x => x.verb = .display || x.verb = .hide).getLast?

lemma onScreen_filter (calls : List (Call H)) (d : H) :
    onScreen (calls.filter (·.dialog = d)) d = onScreen calls d := by
  have hd : drawn (calls.filter (·.dialog = d)) = (drawn calls).filter (·.dialog = d) :=
    List.filter_comm ..
  rw [onScreen, hd, List.filter_filter]
  simp [onScreen]

lemma onScreen_undrawn (calls : List (Call H)) {x : Call H} (hx : x.verb.draws = false) (d : H) :
    onScreen (calls ++ [x]) d = onScreen calls d := by
  simp [onScreen, drawn, hx]

lemma Announced.onScreen_iff {before : List (Call H)} (h : Announced d calls)
    (hd : ∀ x ∈ calls, x.dialog = d) : onScreen (before ++ calls) d = true ↔
      (calls.filter fun x => x.verb = .display || x.verb = .hide).getLast? = some ⟨.display, d⟩ := by
  obtain ⟨others, rfl, hothers⟩ := h
  induction others using List.reverseRecOn with
  | nil =>
    rw [onScreen_joined]
    simp
  | append_singleton others x ih =>
    rw [List.forall_mem_append, List.forall_mem_singleton] at hothers
    rw [← List.cons_append, List.forall_mem_append, List.forall_mem_singleton] at hd
    rw [← List.cons_append, ← List.append_assoc]
    obtain ⟨verb, a⟩ := x
    cases hd.2
    cases verb with
    | manage => exact absurd rfl hothers.2
    | display =>
      rw [onScreen_displayed]
      simp
    | hide =>
      rw [onScreen_hidden]
      simp
    | close | focus =>
      rw [onScreen_undrawn _ rfl, ih hothers.1 hd.1]
      simp

lemma onScreen_iff_lastDrawn (hd : d ∈ ((Host.fresh policy visible).run cs).queue.handles) :
    onScreen ((Host.fresh policy visible).calls cs) d = true ↔
      (Host.fresh policy visible).lastDrawn cs d = some ⟨.display, d⟩ := by
  obtain ⟨before, hbefore⟩ := filter_calls_eq (Host.fresh policy visible) cs d
  rw [← onScreen_filter, hbefore]
  apply (announced_callsInStay hd).onScreen_iff
  intro x hx
  exact of_decide_eq_true (List.mem_filter.mp hx).2

lemma Shifts.front_displayed (h : Shifts policy true hs c hs' ds) (hc : c.turns = false)
    (hon : ∀ f, hs.head? = some f → onScreen calls f = true) :
    ∀ f, hs'.head? = some f → onScreen (calls ++ ds) f = true := by
  intro f hf
  cases h with
  | stay => rw [List.append_nil, hon f hf]
  | joinAlone =>
    cases hf
    rw [if_pos rfl, List.append_cons]
    exact onScreen_displayed _ _
  | @joinBehind _ d _ hd =>
    cases hf
    have hne : d ≠ f := by
      rintro rfl
      exact hd (List.mem_cons_self ..)
    rw [onScreen_other calls hne]
    exact hon f rfl
  | advance =>
    cases hf
    rw [if_pos rfl, List.append_cons]
    exact onScreen_displayed _ _
  | leaveFront =>
    rw [hf]
    exact onScreen_displayed calls f
  | leaveBehind =>
    rw [List.append_nil]
    exact hon f hf
  | turn => cases hc
  | clear => cases hf

lemma onScreen_front_of_visible (hc : Coherent cs) {f : H}
    (hv : ((Host.fresh policy visible).run cs).visible = true)
    (hf : ((Host.fresh policy visible).run cs).queue.front? = some f) :
    onScreen ((Host.fresh policy visible).calls cs) f = true := by
  induction hc generalizing f with
  | start => cases hf
  | @turn cs b _ _ =>
    -- The host changes its answer first, and only the report that follows draws anything.
    rw [List.append_cons] at hv hf ⊢
    have hb : b = true := by
      rw [Host.run_concat, Host.run_concat] at hv
      exact hv
    obtain ⟨ds, hs, hon⟩ := shifts_run policy visible (cs ++ [.setVisible b]) (.followHost b)
    rw [hon, hs.front_turned hf, hb]
  | @other cs c hct _ ih =>
    rw [Host.run_concat, Host.visible_perform _ hct] at hv
    obtain ⟨ds, hs, hon⟩ := shifts_run policy visible cs c
    rw [hv] at hs
    rw [hon]
    apply hs.front_displayed hct
    · intro f hf
      exact ih hv hf
    · exact hf

/-- In a coherent history the front dialog of a visible host was displayed since it joined, and has not
been hidden since it was last displayed. -/
theorem visible_front_displayed (policy : Policy) (visible : Bool) (cs : List (Command H))
    (hc : Coherent cs) (f : H) (hv : ((Host.fresh policy visible).run cs).visible = true)
    (hf : ((Host.fresh policy visible).run cs).queue.front? = some f) :
    (Host.fresh policy visible).lastDrawn cs f = some ⟨.display, f⟩ := by
  have hon := onScreen_front_of_visible hc hv hf
  exact (onScreen_iff_lastDrawn (Queue.mem_handles_of_front? hf)).mp hon

/-- A dialog joins again after all were closed, another is moved in front of it while the host is hidden,
and after the host came on screen the first one is left. -/
theorem visible_front_displayed_rejoined :
    let cs : List (Command Nat) := [.present 1, .closeAll, .setVisible false, .followHost false,
      .present 1, .present 2, .present 2, .setVisible true, .followHost true, .leave 2]
    Coherent cs ∧ ((Host.fresh .moveToFront true).run cs).visible = true ∧
      ((Host.fresh .moveToFront true).run cs).queue.front? = some 1 ∧
      (Host.fresh .moveToFront true).lastDrawn cs 1 = some ⟨.display, 1⟩ := by
  intro cs
  have h : Coherent [Command.present 1, .closeAll, .setVisible false, .followHost false, .present 1,
      .present 2, .present 2] :=
    .other rfl (.other rfl (.other rfl (.turn false (.other rfl (.other rfl .start)))))
  have hc : Coherent cs := .other rfl (.turn true h)
  have hv : ((Host.fresh .moveToFront true).run cs).visible = true := rfl
  have hf : ((Host.fresh .moveToFront true).run cs).queue.front? = some 1 := by decide +kernel
  exact ⟨hc, hv, hf, visible_front_displayed .moveToFront true cs hc 1 hv hf⟩

end BrowserTab.Dialog
