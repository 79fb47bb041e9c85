import Mathlib.Tactic.Lemma
import BrowserTab.Dialog.Host

/-!
# The reactions of a host

`Reacts` lists what can happen on a command, with all effects, so that a statement about reactions is
proved by going through its cases. Closing everything is a loop over the queue; `closingMoments` gives
its effects in closed form.
-/

namespace BrowserTab.Dialog

variable {H : Type}

namespace Effect

@[simp]
lemma call?_call (c : Call H) : (Effect.call c).call? = some c :=
  rfl

@[simp]
lemma call?_block (b : Bool) : (Effect.block b : Effect H).call? = none :=
  rfl

@[simp]
lemma call?_note (n : Note H) : (Effect.note n).call? = none :=
  rfl

@[simp]
lemma block?_call (c : Call H) : (Effect.call c).block? = none :=
  rfl

@[simp]
lemma block?_block (b : Bool) : (Effect.block b : Effect H).block? = some b :=
  rfl

@[simp]
lemma block?_note (n : Note H) : (Effect.note n).block? = none :=
  rfl

end Effect

namespace Queue

@[simp]
lemma entries_now (q : Queue H) (e : Effect H) : (q.now e).entries = q.entries :=
  rfl

@[simp]
lemma effect_now (q : Queue H) (e : Effect H) : (q.now e).effect = e :=
  rfl

lemma handles_eq_nil {q : Queue H} : q.handles = [] ↔ q.entries = [] :=
  List.map_eq_nil_iff

lemma isOccupied_eq_true {q : Queue H} : q.isOccupied = true ↔ q.handles ≠ [] := by
  simp [isOccupied, handles_eq_nil]

lemma nodup_handles (q : Queue H) : q.handles.Nodup :=
  q.distinct

lemma exists_handles_eq_cons {q : Queue H} {f : H} (hf : q.front? = some f) :
    ∃ hs, q.handles = f :: hs :=
  List.head?_eq_some_iff.mp hf

lemma calls_callFront (q : Queue H) (verb : Verb) :
    (q.callFront verb).filterMap (·.effect.call?) = q.front?.toList.map (⟨verb, ·⟩) := by
  cases hf : q.front? <;> simp [callFront, hf]

/-- The effects of closing a list of entries from the front on, each report following its request. -/
def closingMoments : List (Entry H) → List (Moment H)
  | [] => []
  | e :: es =>
    [⟨e :: es, .call ⟨.close, e.handle⟩⟩, ⟨es, .block !es.isEmpty⟩,
      ⟨es, .note (.closed e.handle es.length)⟩] ++ closingMoments es

lemma calls_closingMoments (es : List (Entry H)) :
    (closingMoments es).filterMap (·.effect.call?) = es.map fun e => ⟨.close, e.handle⟩ := by
  induction es with
  | nil => rfl
  | cons e es ih =>
    rw [closingMoments, List.filterMap_append, ih]
    rfl

variable [DecidableEq H]

lemma handles_remove_behind {q : Queue H} {f d : H} {hs : List H} (h : q.handles = f :: hs)
    (hne : d ≠ f) : (q.remove d).handles = f :: hs.filter fun a => !decide (a = d) := by
  rw [handles_remove, h, List.filter_cons_of_pos (by simp [Ne.symm hne])]

lemma entries_remove_head {q : Queue H} {e : Entry H} {es : List (Entry H)}
    (h : q.entries = e :: es) : (q.remove e.handle).entries = es := by
  have hd := q.distinct
  rw [h, List.map_cons, List.nodup_cons] at hd
  have hk : ∀ x ∈ es, (!decide (x.handle = e.handle)) = true := by
    intro x hx
    simp only [Bool.not_eq_true', decide_eq_false_iff_not]
    intro he
    exact hd.1 (he ▸ List.mem_map_of_mem hx)
  change q.entries.filter (fun x => !decide (x.handle = e.handle)) = es
  rw [h, List.filter_cons_of_neg (by simp), List.filter_eq_self.mpr hk]

lemma handles_remove_front {q : Queue H} {f : H} {hs : List H} (h : q.handles = f :: hs) :
    (q.remove f).handles = hs := by
  obtain ⟨e, es, he, rfl, rfl⟩ := List.map_eq_cons_iff.mp h
  rw [handles, entries_remove_head he]

/-- A queue that is being closed loses its dialogs front to back and shows none of them. -/
lemma drain_spec (q : Queue H) (h : q.closingAll = true) :
    q.drain.moments = closingMoments q.entries ∧ q.drain.queue.entries = [] ∧
      q.drain.queue.policy = q.policy := by
  induction hn : q.entries generalizing q with
  | nil =>
    have hf : q.front? = none := by simp [front?, handles, hn]
    rw [drain]
    split <;> rename_i hd
    · exact ⟨rfl, hn, rfl⟩
    · rw [hf] at hd
      cases hd
  | cons e es ih =>
    have hf : q.front? = some e.handle := by simp [front?, handles, hn]
    have hm : e.handle ∈ q.handles := mem_handles_of_front? hf
    have hr := entries_remove_head hn
    have hl : (q.leave e.handle).moments =
        [⟨es, .block !es.isEmpty⟩, ⟨es, .note (.closed e.handle es.length)⟩] := by
      simp [leave, hm, h, now, isOccupied, size, hr]
    obtain ⟨hmom, hent, hpol⟩ := ih (q.remove e.handle) h hr
    rw [drain]
    split <;> rename_i hd
    · rw [hf] at hd
      cases hd
    · rw [hf] at hd
      cases hd
      simp only [hl, queue_leave hm, hmom, hent, hpol]
      refine ⟨?_, trivial, rfl⟩
      simp [callFront, hf, now, hn, closingMoments]

lemma closeAll_eq (q : Queue H) : q.closeAll = ⟨q.closeAll.queue, closingMoments q.entries, none⟩ := by
  have h : q.closeAll.moments = closingMoments q.entries := (drain_spec (q.setClosingAll true) rfl).1
  rw [← h]
  rfl

lemma entries_closeAll (q : Queue H) : q.closeAll.queue.entries = [] :=
  (drain_spec (q.setClosingAll true) rfl).2.1

lemma policy_closeAll (q : Queue H) : q.closeAll.queue.policy = q.policy :=
  (drain_spec (q.setClosingAll true) rfl).2.2

end Queue

/-! ### Everything that can happen on a command -/

open Queue

variable [DecidableEq H]

/-- The reactions of a queue that is not being closed to the commands of its host. -/
inductive Reacts (q : Queue H) (visible : Bool) : Command H → Reaction H → Prop
  | joinAlone {d : H} (hd : d ∉ q.handles) (he : q.entries = []) :
    Reacts q visible (.present d)
      ⟨q.join d hd, (q.join d hd).now (.call ⟨.manage, d⟩) ::
        (if visible then [(q.join d hd).now (.call ⟨.display, d⟩)] else []) ++
        [(q.join d hd).now (.block true), (q.join d hd).now (.note (.queued d (q.join d hd).size))], none⟩
  | joinBehind {d : H} (hd : d ∉ q.handles) (he : q.entries ≠ []) :
    Reacts q visible (.present d)
      ⟨q.join d hd, [(q.join d hd).now (.call ⟨.manage, d⟩),
        (q.join d hd).now (.note (.queued d (q.join d hd).size))], none⟩
  | shownTwice {d : H} (hd : d ∈ q.handles) (hp : q.policy = .ignore) :
    Reacts q visible (.present d) ⟨q, [q.now (.note (.shownTwice d))], none⟩
  | frontAgain {d : H} (hf : q.front? = some d) (hp : q.policy = .moveToFront) :
    Reacts q visible (.present d) ⟨q, [], none⟩
  | advance {d f : H} (hf : q.front? = some f) (hd : d ∈ q.handles) (hne : d ≠ f)
    (hp : q.policy = .moveToFront) :
    Reacts q visible (.present d)
      ⟨q.advance d, (if visible then [q.now (.call ⟨.hide, f⟩),
        (q.advance d).now (.call ⟨.display, d⟩)] else []) ++
        [(q.advance d).now (.note (.movedToFront d))], none⟩
  | keepOpen {d : H} {stays : Bool} (hd : d ∈ q.handles) :
    Reacts q visible (.keepOpen d stays) ⟨q.setStaysOpen d stays, [], none⟩
  | keepUnknown {d : H} {stays : Bool} (hd : d ∉ q.handles) :
    Reacts q visible (.keepOpen d stays)
      ⟨q, [q.now (.note (.unknownDialog d))], some (.unknownDialog d)⟩
  | leaveFront {d : H} (hf : q.front? = some d) :
    Reacts q visible (.leave d)
      ⟨q.remove d, (q.remove d).callFront .display ++ [(q.remove d).now (.block (q.remove d).isOccupied),
        (q.remove d).now (.note (.closed d (q.remove d).size))], none⟩
  | leaveBehind {d : H} (hd : d ∈ q.handles) (hf : q.front? ≠ some d) :
    Reacts q visible (.leave d)
      ⟨q.remove d, [(q.remove d).now (.block (q.remove d).isOccupied),
        (q.remove d).now (.note (.closed d (q.remove d).size))], none⟩
  | strayClose {d : H} (hd : d ∉ q.handles) :
    Reacts q visible (.leave d) ⟨q, [q.now (.note (.strayClose d))], none⟩
  | followHost {b : Bool} :
    Reacts q visible (.followHost b) ⟨q, q.callFront (if b then .display else .hide), none⟩
  | setVisible {b : Bool} : Reacts q visible (.setVisible b) ⟨q, [], none⟩
  | closeFront {e : Entry H} {es : List (Entry H)} (he : q.entries = e :: es)
    (hs : e.staysOpen = false) : Reacts q visible .navigate ⟨q, q.callFront .close, none⟩
  | remain (hs : ∀ e ∈ q.entries.head?, e.staysOpen = true) :
    Reacts q visible .navigate ⟨q, [], none⟩
  | clear {c : Command H} {q' : Queue H} (hc : c = .closeAll ∨ c = .destroy) (he : q'.entries = [])
    (hp : q'.policy = q.policy) (hn : q'.closingAll = false) :
    Reacts q visible c ⟨q', closingMoments q.entries, none⟩
  | focus (he : q.entries ≠ []) : Reacts q visible .focus ⟨q, q.callFront .focus, none⟩
  | focusNone (he : q.entries = []) :
    Reacts q visible .focus ⟨q, [q.now (.note .noDialog)], some .noDialog⟩
  | redirectInput : Reacts q visible .redirectInput ⟨q, q.callFront .focus, none⟩

lemma reacts_present {q : Queue H} {visible : Bool} (d : H) :
    Reacts q visible (.present d) (q.present visible d) := by
  unfold Queue.present
  by_cases hd : d ∈ q.handles
  · rw [dif_pos hd]
    cases hp : q.policy with
    | ignore => exact .shownTwice hd hp
    | moveToFront =>
      cases hf : q.front? with
      | none =>
        rw [front?, List.head?_eq_none_iff] at hf
        simp [hf] at hd
      | some f =>
        unfold bringForward
        by_cases hdf : d = f
        · rw [if_pos (by rw [hf, hdf])]
          exact .frontAgain (hdf ▸ hf) hp
        · rw [if_neg (by rw [hf]; exact fun h => hdf (Option.some.inj h).symm)]
          have hc : q.callFront .hide = [q.now (.call ⟨.hide, f⟩)] := by simp [callFront, hf]
          simp only [hc, List.singleton_append]
          exact .advance hf hd hdf hp
  · rw [dif_neg hd]
    by_cases he : q.entries = []
    · have ho : q.isOccupied = false := by simp [isOccupied, he]
      simp only [enroll, ho, Bool.false_eq_true, if_false]
      cases visible <;> exact .joinAlone hd he
    · have ho : q.isOccupied = true := by simpa [isOccupied] using he
      simp only [enroll, ho, if_true]
      exact .joinBehind hd he

lemma reacts_react {h : Host H} (hc : h.queue.closingAll = false) (c : Command H) :
    Reacts h.queue h.visible c (h.react c) := by
  cases c with
  | present d => exact reacts_present d
  | keepOpen d stays =>
    simp only [Host.react, Queue.keepOpen]
    split <;> rename_i hd
    · exact .keepOpen hd
    · exact .keepUnknown hd
  | leave d =>
    simp only [Host.react, leave]
    by_cases hd : d ∈ h.queue.handles
    · rw [if_pos hd]
      by_cases hf : h.queue.front? = some d
      · simp only [hf, hc, and_self, if_true]
        exact .leaveFront hf
      · simp only [hf, false_and, if_false]
        exact .leaveBehind hd hf
    · rw [if_neg hd]
      exact .strayClose hd
  | followHost b => exact .followHost
  | setVisible b => exact .setVisible
  | navigate =>
    simp only [Host.react, navigate]
    split <;> rename_i he
    · exact .remain (by simp [he])
    · split <;> rename_i hs
      · exact .remain (by simpa [he] using hs)
      · exact .closeFront he (by simpa using hs)
  | closeAll =>
    rw [Host.react, closeAll_eq]
    exact .clear (.inl rfl) h.queue.entries_closeAll h.queue.policy_closeAll rfl
  | focus =>
    simp only [Host.react, Queue.focus]
    split <;> rename_i he
    · exact .focus (by simpa [isOccupied] using he)
    · exact .focusNone (by simpa [isOccupied] using he)
  | redirectInput => exact .redirectInput
  | destroy =>
    rw [Host.react, closeAll_eq]
    exact .clear (.inr rfl) h.queue.entries_closeAll h.queue.policy_closeAll rfl

/-- Whether an effect is right at its moment: a call is about the front dialog unless it is the one for
a joining dialog, and the host's input is blocked if there are dialogs. -/
def Moment.Lawful {H : Type} (m : Moment H) : Prop :=
  match m.effect with
  | .call x => x.verb = .manage ∨ (m.entries.map Entry.handle).head? = some x.dialog
  | .block b => b = !m.entries.isEmpty
  | .note _ => True

lemma lawful_callFront {H : Type} (q : Queue H) (verb : Verb) : ∀ m ∈ q.callFront verb, m.Lawful := by
  intro m hm
  obtain ⟨d, hd, rfl⟩ := List.mem_map.mp hm
  exact .inr (Option.mem_toList.mp hd)

lemma lawful_closingMoments {H : Type} (es : List (Entry H)) :
    ∀ m ∈ closingMoments es, m.Lawful := by
  induction es with
  | nil => simp [closingMoments]
  | cons e es ih =>
    rw [closingMoments, List.forall_mem_append]
    exact ⟨by simp [Moment.Lawful], ih⟩

lemma lawful_of_reacts {q : Queue H} {visible : Bool} {c : Command H} {r : Reaction H}
    (hr : Reacts q visible c r) : ∀ m ∈ r.moments, m.Lawful := by
  cases hr with
  | joinAlone hd he => cases visible <;> simp [Moment.Lawful, join, he]
  | @advance d f hf hd _ _ =>
    have hhide : (q.now (.call ⟨.hide, f⟩)).Lawful := .inr hf
    have hshow : ((q.advance d).now (.call ⟨.display, d⟩)).Lawful := by
      refine .inr ?_
      rw [entries_now, ← handles, handles_advance hd]
      rfl
    have hnote : ((q.advance d).now (.note (.movedToFront d))).Lawful := trivial
    cases visible
    · simpa using hnote
    · simpa using ⟨hhide, hshow, hnote⟩
  | leaveFront =>
    rw [List.forall_mem_append]
    exact ⟨lawful_callFront _ _, by simp [Moment.Lawful, isOccupied]⟩
  | followHost | closeFront | focus | redirectInput => exact lawful_callFront _ _
  | clear => exact lawful_closingMoments _
  | _ => simp [Moment.Lawful, isOccupied]

end BrowserTab.Dialog
