import BrowserTab.Proofs.Dialog.History

/-!
# Dialogs on screen

A queue does not keep which dialogs are on screen; that follows from the platform calls alone.
`Shifts` is what a command does to the row of dialogs together with the calls that draw them, with
everything left out that changes neither.
-/

namespace BrowserTab.Dialog

variable {H : Type}

/-- Whether a verb decides if a dialog is on screen. A dialog joins off screen. -/
def Verb.draws : Verb → Bool
  | .manage | .display | .hide => true
  | .close | .focus => false

/-- The calls that decide which dialogs are on screen. -/
def drawn (calls : List (Call H)) : List (Call H) :=
  calls.filter (·.verb.draws)

lemma drawn_closingMoments (es : List (Entry H)) :
    drawn ((Queue.closingMoments es).filterMap (·.effect.call?)) = [] := by
  rw [Queue.calls_closingMoments, drawn, List.filter_eq_nil_iff]
  simp [Verb.draws]

lemma drawn_callFront (q : Queue H) {verb : Verb} (h : verb.draws = false) :
    drawn ((q.callFront verb).filterMap (·.effect.call?)) = [] := by
  rw [Queue.calls_callFront]
  cases q.front? <;> simp [drawn, h]

variable [DecidableEq H]

/-- Whether a dialog is on screen after some calls: since it joined it was displayed or hidden, and
displayed last. -/
def onScreen (calls : List (Call H)) (d : H) : Bool :=
  ((drawn calls).filter (·.dialog = d)).getLast?.any (·.verb = .display)

lemma onScreen_append_drawn (calls more : List (Call H)) (d : H) :
    onScreen (calls ++ drawn more) d = onScreen (calls ++ more) d := by
  simp [onScreen, drawn]

lemma onScreen_displayed (calls : List (Call H)) (d : H) :
    onScreen (calls ++ [⟨.display, d⟩]) d = true := by
  simp [onScreen, drawn, Verb.draws]

lemma onScreen_hidden (calls : List (Call H)) (d : H) :
    onScreen (calls ++ [⟨.hide, d⟩]) d = false := by
  simp [onScreen, drawn, Verb.draws]

lemma onScreen_joined (calls : List (Call H)) (d : H) :
    onScreen (calls ++ [⟨.manage, d⟩]) d = false := by
  simp [onScreen, drawn, Verb.draws]

lemma onScreen_other (calls : List (Call H)) {c : Call H} {d : H} (h : c.dialog ≠ d) :
    onScreen (calls ++ [c]) d = onScreen calls d := by
  have hc : (drawn [c]).filter (·.dialog = d) = [] := by
    rw [List.filter_eq_nil_iff]
    intro x hx
    rw [drawn, List.mem_filter, List.mem_singleton] at hx
    simp [hx.1, h]
  rw [onScreen, drawn, List.filter_append, List.filter_append, ← drawn, ← drawn, hc, List.append_nil]
  rfl

/-- What a command does to the dialogs of a queue, the front one first, and the drawing calls. -/
inductive Shifts (policy : Policy) (visible : Bool) :
    List H → Command H → List H → List (Call H) → Prop
  | stay {hs : List H} {c : Command H} (hl : ∀ d, c = .leave d → d ∉ hs)
    (hp : ∀ d, c = .present d → policy = .moveToFront → hs.head? = some d)
    (ht : ∀ b, c = .followHost b → hs = []) : Shifts policy visible hs c hs []
  | joinAlone {d : H} :
    Shifts policy visible [] (.present d) [d]
      (⟨.manage, d⟩ :: if visible then [⟨.display, d⟩] else [])
  | joinBehind {f d : H} {hs : List H} (hd : d ∉ f :: hs) :
    Shifts policy visible (f :: hs) (.present d) (f :: (hs ++ [d])) [⟨.manage, d⟩]
  | advance {f d : H} {hs : List H} (hp : policy = .moveToFront) (hd : d ∈ hs) (hne : d ≠ f) :
    Shifts policy visible (f :: hs) (.present d) (d :: f :: hs.filter fun a => !decide (a = d))
      (if visible then [⟨.hide, f⟩, ⟨.display, d⟩] else [])
  | leaveFront {f : H} {hs : List H} :
    Shifts policy visible (f :: hs) (.leave f) hs (hs.head?.toList.map (⟨.display, ·⟩))
  | leaveBehind {f d : H} {hs : List H} (hd : d ∈ hs) (hne : d ≠ f) :
    Shifts policy visible (f :: hs) (.leave d) (f :: hs.filter fun a => !decide (a = d)) []
  | turn {f : H} {hs : List H} {b : Bool} :
    Shifts policy visible (f :: hs) (.followHost b) (f :: hs) [⟨if b then .display else .hide, f⟩]
  | clear {hs : List H} {c : Command H} (hc : c = .closeAll ∨ c = .destroy) :
    Shifts policy visible hs c [] []

lemma shifts_of_reacts {q : Queue H} {visible : Bool} {c : Command H} {r : Reaction H}
    (hr : Reacts q visible c r) :
    Shifts q.policy visible q.handles c r.queue.handles (drawn r.calls) := by
  cases hr with
  | joinAlone hd he =>
    rw [Queue.handles_join, Queue.handles_eq_nil.mpr he]
    cases visible <;> exact .joinAlone
  | joinBehind hd he =>
    obtain ⟨f, hs, hq⟩ := List.exists_cons_of_ne_nil (mt Queue.handles_eq_nil.mp he)
    rw [Queue.handles_join, hq]
    exact .joinBehind (hq ▸ hd)
  | @advance d _ hf hd hne hp =>
    obtain ⟨hs, hq⟩ := Queue.exists_handles_eq_cons hf
    rw [Queue.handles_advance hd, Queue.handles_remove_behind hq hne, hq]
    have hm : d ∈ hs := List.mem_of_ne_of_mem hne (hq ▸ hd)
    cases visible <;> exact .advance hp hm hne
  | keepOpen =>
    rw [Queue.handles_setStaysOpen]
    exact .stay (by simp) (by simp) (by simp)
  | @leaveFront d hf =>
    obtain ⟨hs, hq⟩ := Queue.exists_handles_eq_cons hf
    have hrem := Queue.handles_remove_front hq
    rw [Reaction.calls, List.filterMap_append, Queue.calls_callFront, Queue.front?, hrem, hq]
    cases hs <;> exact .leaveFront
  | @leaveBehind d hd hf =>
    obtain ⟨f, hs, hq⟩ := List.exists_cons_of_ne_nil (List.ne_nil_of_mem hd)
    have hne : d ≠ f := by
      rintro rfl
      exact hf (by rw [Queue.front?, hq]; rfl)
    rw [Queue.handles_remove_behind hq hne, hq]
    exact .leaveBehind (List.mem_of_ne_of_mem hne (hq ▸ hd)) hne
  | @followHost b =>
    rw [Reaction.calls, Queue.calls_callFront, Queue.front?]
    cases hq : q.handles with
    | nil => exact .stay (by simp) (by simp) (fun _ _ => rfl)
    | cons f hs => cases b <;> exact .turn
  | clear hc he _ _ =>
    rw [Queue.handles_eq_nil.mpr he, Reaction.calls, drawn_closingMoments]
    exact .clear hc
  | closeFront | focus | redirectInput =>
    rw [Reaction.calls, drawn_callFront _ rfl]
    exact .stay (by simp) (by simp) (by simp)
  | shownTwice _ hp => exact .stay (by simp) (by simp [hp]) (by simp)
  | frontAgain hf _ =>
    refine .stay (by simp) ?_ (by simp)
    rintro d ⟨⟩ -
    exact hf
  | strayClose hd =>
    refine .stay ?_ (by simp) (by simp)
    rintro d ⟨⟩
    exact hd
  | keepUnknown | setVisible | remain | focusNone => exact .stay (by simp) (by simp) (by simp)

lemma Shifts.front_turned {policy : Policy} {visible b : Bool} {hs hs' : List H} {ds calls : List (Call H)}
    {f : H} (h : Shifts policy visible hs (.followHost b) hs' ds) (hf : hs'.head? = some f) :
    onScreen (calls ++ ds) f = b := by
  cases h with
  | stay _ _ ht =>
    rw [ht b rfl] at hf
    cases hf
  | turn =>
    cases hf
    cases b
    · exact onScreen_hidden calls f
    · exact onScreen_displayed calls f
  | clear => cases hf

/-- One more command shifts the dialogs and appends the calls that draw them. -/
lemma shifts_run (policy : Policy) (visible : Bool) (cs : List (Command H)) (c : Command H) :
    ∃ ds, Shifts policy ((Host.fresh policy visible).run cs).visible
        ((Host.fresh policy visible).run cs).queue.handles c
        ((Host.fresh policy visible).run (cs ++ [c])).queue.handles ds ∧
      ∀ d, onScreen ((Host.fresh policy visible).calls (cs ++ [c])) d =
        onScreen ((Host.fresh policy visible).calls cs ++ ds) d := by
  have hs := shifts_of_reacts (Host.reacts_run policy visible cs c)
  rw [Host.policy_run] at hs
  rw [Host.run_concat, Host.calls_concat]
  exact ⟨_, hs, fun d => (onScreen_append_drawn _ _ d).symm⟩

end BrowserTab.Dialog
