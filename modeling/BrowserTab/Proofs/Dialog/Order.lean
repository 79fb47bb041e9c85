import Mathlib.Data.List.DropRight
import BrowserTab.Proofs.Dialog.History

/-!
# The order of the dialogs

Which dialogs are in the queue, and in which order, follows from the history alone. A dialog counts from
the first time it was presented since it was last taken out; being presented again matters only to a
queue that moves dialogs to the front.
-/

namespace BrowserTab.Dialog

variable {H : Type} [DecidableEq H]

/-- Whether a command takes a dialog out of the queue. -/
def Command.removes (d : H) : Command H → Bool
  | .leave a => a = d
  | .closeAll | .destroy => true
  | _ => false

/-- The times at which a dialog was presented since it was last taken out. The time of a command is the
number of commands before it. -/
def showings (cs : List (Command H)) (d : H) : List Nat :=
  ((cs.zipIdx.rtakeWhile fun c => !c.1.removes d).filter (·.1 = .present d)).map (·.2)

/-- The time at which a dialog joined the queue that it is in. -/
def joinedAt (cs : List (Command H)) (d : H) : Nat :=
  (showings cs d).headD 0

/-- The time at which a dialog of the queue was last presented. -/
def shownAt (cs : List (Command H)) (d : H) : Nat :=
  (showings cs d).getLastD 0

/-- Whether a dialog of the queue was presented again after it had joined. -/
def ShownAgain (cs : List (Command H)) (d : H) : Prop :=
  1 < (showings cs d).length

variable {cs cs' : List (Command H)} {c : Command H} {d : H}

lemma showings_concat : showings (cs ++ [c]) d =
    if c.removes d then [] else if c = .present d then showings cs d ++ [cs.length]
      else showings cs d := by
  rw [showings, List.zipIdx_append, List.zipIdx_singleton, List.rtakeWhile_concat]
  cases hr : c.removes d with
  | true => simp
  | false =>
    by_cases hp : c = .present d
    · simp [showings, hp]
    · simp [showings, hp]

lemma showings_presented : showings (cs ++ [.present d]) d = showings cs d ++ [cs.length] := by
  rw [showings_concat]
  simp [Command.removes]

lemma showings_other (hr : c.removes d = false) (hp : c ≠ .present d) :
    showings (cs ++ [c]) d = showings cs d := by
  rw [showings_concat, if_neg (by simp [hr]), if_neg hp]

lemma lt_length_of_mem_showings {n : Nat} (h : n ∈ showings cs d) : n < cs.length := by
  induction cs using List.reverseRecOn with
  | nil => simp [showings] at h
  | append_singleton cs c ih =>
    rw [List.length_append, List.length_singleton]
    rw [showings_concat] at h
    split at h
    · cases h
    · split at h
      · rcases List.mem_append.mp h with h | h
        · have := ih h
          omega
        · rw [List.mem_singleton.mp h]
          omega
      · have := ih h
        omega

lemma pairwise_showings : (showings cs d).Pairwise (· < ·) := by
  induction cs using List.reverseRecOn with
  | nil => exact .nil
  | append_singleton cs c ih =>
    rw [showings_concat]
    split
    · exact .nil
    · split
      · rw [List.pairwise_append]
        refine ⟨ih, List.pairwise_singleton _ _, ?_⟩
        intro m hm n hn
        rw [List.mem_singleton.mp hn]
        exact lt_length_of_mem_showings hm
      · exact ih

lemma joinedAt_le_of_mem {n : Nat} (h : n ∈ showings cs d) : joinedAt cs d ≤ n := by
  have hs : (showings cs d).Pairwise (· < ·) := pairwise_showings
  unfold joinedAt
  cases hd : showings cs d with
  | nil =>
    rw [hd] at h
    cases h
  | cons m ms =>
    rw [hd] at h hs
    rw [List.headD_cons]
    rcases List.mem_cons.mp h with rfl | h
    · exact Nat.le_refl _
    · exact Nat.le_of_lt ((List.pairwise_cons.mp hs).1 n h)

lemma mem_showings {p q : List (Command H)} (h : ∀ c ∈ q, c.removes d = false) :
    p.length ∈ showings (p ++ .present d :: q) d := by
  induction q using List.reverseRecOn with
  | nil =>
    rw [showings_presented]
    exact List.mem_append_right _ (List.mem_singleton_self _)
  | append_singleton q c ih =>
    have hq := ih fun x hx => h x (List.mem_append_left _ hx)
    rw [← List.cons_append, ← List.append_assoc, showings_concat,
      if_neg (by simp [h c (List.mem_append_right _ (List.mem_singleton_self c))])]
    split
    · exact List.mem_append_left _ hq
    · exact hq

lemma showings_ne_nil_iff : showings cs d ≠ [] ↔
    ∃ p q, cs = p ++ .present d :: q ∧ ∀ c ∈ q, c.removes d = false := by
  constructor
  · intro h
    induction cs using List.reverseRecOn with
    | nil => exact absurd rfl h
    | append_singleton cs c ih =>
      rw [showings_concat] at h
      split at h
      · exact absurd rfl h
      · rename_i hr
        split at h
        · rename_i hp
          exact ⟨cs, [], by rw [hp], by simp⟩
        · obtain ⟨p, q, rfl, hq⟩ := ih h
          refine ⟨p, q ++ [c], by simp, ?_⟩
          intro x hx
          rcases List.mem_append.mp hx with hx | hx
          · exact hq x hx
          · rw [List.mem_singleton.mp hx]
            simpa using hr
  · rintro ⟨p, q, rfl, hq⟩
    exact List.ne_nil_of_mem (mem_showings hq)

/-- The dialogs of a queue after a command. -/
def Command.rearrange (policy : Policy) (hs : List H) : Command H → List H
  | .present d =>
    if d ∈ hs then
      match policy with
      | .ignore => hs
      | .moveToFront => d :: hs.filter fun a => !decide (a = d)
    else hs ++ [d]
  | .leave d => hs.filter fun a => !decide (a = d)
  | .closeAll | .destroy => []
  | .keepOpen .. | .followHost _ | .setVisible _ | .navigate | .focus | .redirectInput => hs

lemma handles_of_reacts {q : Queue H} {visible : Bool} {r : Reaction H}
    (hr : Reacts q visible c r) : r.queue.handles = c.rearrange q.policy q.handles := by
  cases hr with
  | joinAlone hd | joinBehind hd => simp only [Queue.handles_join, Command.rearrange, if_neg hd]
  | shownTwice hd hp => simp only [Command.rearrange, if_pos hd, hp]
  | @frontAgain d hf hp =>
    obtain ⟨hs, hq⟩ := Queue.exists_handles_eq_cons hf
    have hrem := Queue.handles_remove_front hq
    rw [Queue.handles_remove] at hrem
    have hd := Queue.mem_handles_of_front? hf
    simp only [Command.rearrange, if_pos hd, hp, hrem]
    exact hq
  | advance _ hd _ hp =>
    simp only [Queue.handles_advance hd, Queue.handles_remove, Command.rearrange, if_pos hd, hp]
  | keepOpen => exact Queue.handles_setStaysOpen _ _ _
  | leaveFront | leaveBehind => exact Queue.handles_remove _ _
  | @strayClose d hd =>
    rw [Command.rearrange, eq_comm, List.filter_eq_self]
    intro a ha
    simp only [Bool.not_eq_true', decide_eq_false_iff_not]
    rintro rfl
    exact hd ha
  | clear hc he _ _ =>
    rw [Queue.handles_eq_nil.mpr he]
    rcases hc with rfl | rfl <;> rfl
  | _ => rfl

lemma handles_run_concat (policy : Policy) (visible : Bool) (cs : List (Command H)) (c : Command H) :
    ((Host.fresh policy visible).run (cs ++ [c])).queue.handles =
      c.rearrange policy ((Host.fresh policy visible).run cs).queue.handles := by
  have h := handles_of_reacts (Host.reacts_run policy visible cs c)
  rw [Host.policy_run] at h
  rw [Host.run_concat]
  exact h

lemma mem_rearrange {policy : Policy} {hs : List H} : d ∈ c.rearrange policy hs ↔
    c = .present d ∨ c.removes d = false ∧ d ∈ hs := by
  cases c with
  | present a =>
    simp only [Command.rearrange, Command.removes]
    split <;> rename_i ha
    · cases policy with
      | ignore =>
        have hda : a = d → d ∈ hs := fun h => h ▸ ha
        simpa using hda
      | moveToFront =>
        by_cases had : a = d
        · simp [had]
        · simp [had, Ne.symm had]
    · simp [or_comm, eq_comm (a := a)]
  | leave a => simp [Command.rearrange, Command.removes, and_comm, eq_comm (a := a)]
  | _ => simp [Command.rearrange, Command.removes]

lemma mem_handles_run_iff (policy : Policy) (visible : Bool) (cs : List (Command H)) (d : H) :
    d ∈ ((Host.fresh policy visible).run cs).queue.handles ↔ showings cs d ≠ [] := by
  induction cs using List.reverseRecOn with
  | nil => simp [Host.run, Host.fresh, Queue.empty, Queue.handles, showings]
  | append_singleton cs c ih =>
    rw [handles_run_concat, mem_rearrange, ih, showings_concat]
    cases hr : c.removes d with
    | true =>
      have hp : c ≠ .present d := by
        rintro rfl
        cases hr
      simp [hp]
    | false => by_cases hp : c = .present d <;> simp [hp]

/-! ### The order under each policy -/

lemma showings_congr (hr : c.removes d = false) (hp : c ≠ .present d) :
    joinedAt (cs ++ [c]) d = joinedAt cs d ∧ shownAt (cs ++ [c]) d = shownAt cs d ∧
      (ShownAgain (cs ++ [c]) d ↔ ShownAgain cs d) := by
  simp only [joinedAt, shownAt, ShownAgain, showings_other hr hp, and_self]

lemma joinedAt_concat (hd : showings cs d ≠ []) (hr : c.removes d = false) :
    joinedAt (cs ++ [c]) d = joinedAt cs d := by
  by_cases hp : c = .present d
  · obtain ⟨n, ns, hn⟩ := List.exists_cons_of_ne_nil hd
    rw [joinedAt, joinedAt, hp, showings_presented, hn]
    rfl
  · exact (showings_congr hr hp).1

lemma joinedAt_lt_length (hd : showings cs d ≠ []) : joinedAt cs d < cs.length := by
  obtain ⟨n, ns, hn⟩ := List.exists_cons_of_ne_nil hd
  rw [joinedAt, hn]
  exact lt_length_of_mem_showings (by rw [hn]; exact List.mem_cons_self ..)

lemma joinedAt_joined (hd : showings cs d = []) : joinedAt (cs ++ [.present d]) d = cs.length := by
  rw [joinedAt, showings_presented, hd]
  rfl

lemma shownAt_lt_length (hd : showings cs d ≠ []) : shownAt cs d < cs.length := by
  have hl := List.getLast_mem hd
  rw [shownAt, List.getLastD_eq_getLast?, List.getLast?_eq_some_getLast hd]
  exact lt_length_of_mem_showings hl

lemma shownAt_presented : shownAt (cs ++ [.present d]) d = cs.length := by
  rw [shownAt, showings_presented, List.getLastD_concat]

lemma pairwise_joinedAt_concat {hs hs' : List H}
    (h : hs.Pairwise fun a b => joinedAt cs a < joinedAt cs b) (hs_shown : ∀ d ∈ hs, showings cs d ≠ [])
    (hsub : hs'.Sublist hs) (hr : ∀ d ∈ hs', c.removes d = false) :
    hs'.Pairwise fun a b => joinedAt (cs ++ [c]) a < joinedAt (cs ++ [c]) b := by
  refine (h.sublist hsub).imp_of_mem fun {a b} ha hb hab => ?_
  rw [joinedAt_concat (hs_shown a (hsub.mem ha)) (hr a ha),
    joinedAt_concat (hs_shown b (hsub.mem hb)) (hr b hb)]
  exact hab

lemma pairwise_joinedAt_rearrange {hs : List H} (hm : ∀ d, d ∈ hs ↔ showings cs d ≠ [])
    (h : hs.Pairwise fun a b => joinedAt cs a < joinedAt cs b) :
    (c.rearrange .ignore hs).Pairwise fun a b => joinedAt (cs ++ [c]) a < joinedAt (cs ++ [c]) b := by
  have hs_shown := fun d hd => (hm d).mp hd
  cases c with
  | present d =>
    have hkept := pairwise_joinedAt_concat (c := .present d) h hs_shown (List.Sublist.refl _)
      fun _ _ => rfl
    simp only [Command.rearrange]
    split <;> rename_i hd
    · exact hkept
    · rw [List.pairwise_append]
      refine ⟨hkept, List.pairwise_singleton _ _, ?_⟩
      intro a ha b hb
      rw [List.mem_singleton.mp hb, joinedAt_concat (hs_shown a ha) rfl,
        joinedAt_joined (not_not.mp (mt (hm d).mpr hd))]
      exact joinedAt_lt_length (hs_shown a ha)
  | leave d =>
    refine pairwise_joinedAt_concat h hs_shown List.filter_sublist fun a ha => ?_
    have hne : a ≠ d := by simpa using (List.mem_filter.mp ha).2
    simp [Command.removes, hne.symm]
  | closeAll | destroy => exact .nil
  | keepOpen | followHost | setVisible | navigate | focus | redirectInput =>
    exact pairwise_joinedAt_concat h hs_shown (List.Sublist.refl _) fun _ _ => rfl

/-- A queue that leaves its dialogs where they are holds them in the order in which they joined. -/
lemma pairwise_joinedAt_run (visible : Bool) (cs : List (Command H)) :
    ((Host.fresh .ignore visible).run cs).queue.handles.Pairwise
      fun a b => joinedAt cs a < joinedAt cs b := by
  induction cs using List.reverseRecOn with
  | nil => exact .nil
  | append_singleton cs c ih =>
    rw [handles_run_concat]
    exact pairwise_joinedAt_rearrange (mem_handles_run_iff .ignore visible cs) ih

/-- Dialogs of which some were presented again, the latest first, and the others were not, the earliest
to join first. -/
structure Ranked (cs : List (Command H)) (again once : List H) : Prop where
  shownAgain : ∀ d ∈ again, ShownAgain cs d
  notShownAgain : ∀ d ∈ once, ¬ShownAgain cs d
  latest_first : again.Pairwise fun a b => shownAt cs b < shownAt cs a
  earliest_first : once.Pairwise fun a b => joinedAt cs a < joinedAt cs b

lemma Ranked.concat {again once again' once' : List H} (h : Ranked cs again once)
    (ha : again'.Sublist again) (ho : once'.Sublist once)
    (hr : ∀ d ∈ again' ++ once', c.removes d = false ∧ c ≠ .present d) :
    Ranked (cs ++ [c]) again' once' := by
  have hc : ∀ d ∈ again' ++ once', joinedAt (cs ++ [c]) d = joinedAt cs d ∧
      shownAt (cs ++ [c]) d = shownAt cs d ∧ (ShownAgain (cs ++ [c]) d ↔ ShownAgain cs d) :=
    fun d hd => showings_congr (hr d hd).1 (hr d hd).2
  have hca := fun d hd => hc d (List.mem_append_left _ hd)
  have hco := fun d hd => hc d (List.mem_append_right _ hd)
  constructor
  · intro d hd
    exact (hca d hd).2.2.mpr (h.shownAgain d (ha.mem hd))
  · intro d hd
    exact mt (hco d hd).2.2.mp (h.notShownAgain d (ho.mem hd))
  · refine (h.latest_first.sublist ha).imp_of_mem fun {a b} hma hmb hab => ?_
    rw [(hca a hma).2.1, (hca b hmb).2.1]
    exact hab
  · refine (h.earliest_first.sublist ho).imp_of_mem fun {a b} hma hmb hab => ?_
    rw [(hco a hma).1, (hco b hmb).1]
    exact hab

lemma Ranked.join {again once : List H} (h : Ranked cs again once)
    (hm : ∀ a, a ∈ again ++ once ↔ showings cs a ≠ []) (hd : d ∉ again ++ once) :
    Ranked (cs ++ [.present d]) again (once ++ [d]) := by
  have hne : ∀ a ∈ again ++ once, (Command.present d).removes a = false ∧
      Command.present d ≠ .present a := by
    intro a ha
    refine ⟨rfl, ?_⟩
    rintro ⟨⟩
    exact hd ha
  have hk := h.concat (List.Sublist.refl _) (List.Sublist.refl _) hne
  have hnew : showings cs d = [] := not_not.mp (mt (hm d).mpr hd)
  refine ⟨hk.shownAgain, ?_, hk.latest_first, ?_⟩
  · intro a ha
    rcases List.mem_append.mp ha with ha | ha
    · exact hk.notShownAgain a ha
    · rw [List.mem_singleton.mp ha, ShownAgain, showings_presented, hnew]
      exact Nat.lt_irrefl 1
  · rw [List.pairwise_append]
    refine ⟨hk.earliest_first, List.pairwise_singleton _ _, ?_⟩
    intro a ha b hb
    have ha' := List.mem_append_right again ha
    rw [List.mem_singleton.mp hb, joinedAt_joined hnew, joinedAt_concat ((hm a).mp ha') rfl]
    exact joinedAt_lt_length ((hm a).mp ha')

lemma Ranked.advance {again once again' once' : List H} (h : Ranked cs again once)
    (hm : ∀ a, a ∈ again ++ once ↔ showings cs a ≠ []) (hd : d ∈ again ++ once)
    (ha : again'.Sublist again) (ho : once'.Sublist once) (hnd : d ∉ again' ++ once') :
    Ranked (cs ++ [.present d]) (d :: again') once' := by
  have hne : ∀ a ∈ again' ++ once', (Command.present d).removes a = false ∧
      Command.present d ≠ .present a := by
    intro a ha
    refine ⟨rfl, ?_⟩
    rintro ⟨⟩
    exact hnd ha
  have hk := h.concat ha ho hne
  refine ⟨?_, hk.notShownAgain, ?_, hk.earliest_first⟩
  · intro a ha
    rcases List.mem_cons.mp ha with rfl | ha
    · have hl := List.length_pos_of_ne_nil ((hm a).mp hd)
      rw [ShownAgain, showings_presented, List.length_append, List.length_singleton]
      omega
    · exact hk.shownAgain a ha
  · refine List.pairwise_cons.mpr ⟨?_, hk.latest_first⟩
    intro a hma
    have hmem := hne a (List.mem_append_left _ hma)
    rw [(showings_congr hmem.1 hmem.2).2.1, shownAt_presented]
    exact shownAt_lt_length ((hm a).mp (List.mem_append_left _ (ha.mem hma)))

lemma Ranked.rearrange {again once : List H} (h : Ranked cs again once)
    (hm : ∀ a, a ∈ again ++ once ↔ showings cs a ≠ []) :
    ∃ again' once', c.rearrange .moveToFront (again ++ once) = again' ++ once' ∧
      Ranked (cs ++ [c]) again' once' := by
  cases c with
  | present d =>
    simp only [Command.rearrange]
    split <;> rename_i hd
    · rw [List.filter_append]
      refine ⟨_, _, (List.cons_append ..).symm,
        h.advance hm hd List.filter_sublist List.filter_sublist ?_⟩
      simp
    · exact ⟨again, once ++ [d], List.append_assoc .., h.join hm hd⟩
  | leave d =>
    refine ⟨_, _, List.filter_append .., h.concat List.filter_sublist List.filter_sublist ?_⟩
    intro a ha
    have hne : a ≠ d := by
      rintro rfl
      simp at ha
    exact ⟨by simp [Command.removes, hne.symm], by simp⟩
  | closeAll | destroy => exact ⟨[], [], rfl, ⟨by simp, by simp, .nil, .nil⟩⟩
  | keepOpen | followHost | setVisible | navigate | focus | redirectInput =>
    exact ⟨again, once, rfl,
      h.concat (List.Sublist.refl _) (List.Sublist.refl _) fun _ _ => ⟨rfl, by simp⟩⟩

/-- A queue that moves dialogs to the front holds them by rank. -/
lemma ranked_run (visible : Bool) (cs : List (Command H)) :
    ∃ again once, ((Host.fresh .moveToFront visible).run cs).queue.handles = again ++ once ∧
      Ranked cs again once := by
  induction cs using List.reverseRecOn with
  | nil => exact ⟨[], [], rfl, ⟨by simp, by simp, .nil, .nil⟩⟩
  | append_singleton cs c ih =>
    obtain ⟨again, once, hq, h⟩ := ih
    rw [handles_run_concat, hq]
    refine h.rearrange fun a => ?_
    rw [← hq]
    exact mem_handles_run_iff .moveToFront visible cs a

lemma exists_removes_of_front (visible : Bool) {cs : List (Command H)} {f a : H}
    (hf : ((Host.fresh .ignore visible).run cs).queue.front? = some f) (ha : a ≠ f)
    {p q : List (Command H)} (hp : cs = p ++ .present a :: q) (hlt : p.length < joinedAt cs f) :
    ∃ c ∈ q, c.removes a = true := by
  by_contra hno
  have hq : ∀ c ∈ q, c.removes a = false := by
    intro c hc
    by_contra hr
    exact hno ⟨c, hc, by simpa using hr⟩
  have hmem : p.length ∈ showings cs a := by
    rw [hp]
    exact mem_showings hq
  have hin := (mem_handles_run_iff .ignore visible cs a).mpr (List.ne_nil_of_mem hmem)
  have hsorted := pairwise_joinedAt_run visible cs
  obtain ⟨hs, hh⟩ := Queue.exists_handles_eq_cons hf
  rw [hh] at hin hsorted
  have hfirst := (List.pairwise_cons.mp hsorted).1 a (List.mem_of_ne_of_mem ha hin)
  have hle := joinedAt_le_of_mem hmem
  omega

/-- The dialogs of a queue follow from the history. They are those that were presented after all that
took them out, each once. A queue that leaves them where they are holds them in the order in which they
joined, so that its front dialog had to wait for every other that was presented before it joined. A
queue that moves them to the front holds those that were presented again since they joined before the
others, the one presented last in front, and the others in the order in which they joined. -/
theorem handles_determined (policy : Policy) (visible : Bool) (cs : List (Command H)) :
    (∀ d, d ∈ ((Host.fresh policy visible).run cs).queue.handles ↔
        ∃ p q, cs = p ++ .present d :: q ∧ ∀ c ∈ q, c.removes d = false) ∧
      ((Host.fresh policy visible).run cs).queue.handles.Nodup ∧
      match policy with
      | .ignore =>
        (((Host.fresh .ignore visible).run cs).queue.handles.Pairwise
            fun a b => joinedAt cs a < joinedAt cs b) ∧
          ∀ f a, ((Host.fresh .ignore visible).run cs).queue.front? = some f → a ≠ f →
            ∀ p q, cs = p ++ .present a :: q → p.length < joinedAt cs f → ∃ c ∈ q, c.removes a = true
      | .moveToFront =>
        ∃ again once, ((Host.fresh .moveToFront visible).run cs).queue.handles = again ++ once ∧
          (∀ d ∈ again, ShownAgain cs d) ∧ (∀ d ∈ once, ¬ShownAgain cs d) ∧
          (again.Pairwise fun a b => shownAt cs b < shownAt cs a) ∧
          once.Pairwise fun a b => joinedAt cs a < joinedAt cs b := by
  refine ⟨?_, Queue.nodup_handles _, ?_⟩
  · intro d
    rw [mem_handles_run_iff, showings_ne_nil_iff]
  · cases policy with
    | ignore =>
      refine ⟨pairwise_joinedAt_run visible cs, ?_⟩
      intro f a hf ha p q hp hlt
      exact exists_removes_of_front visible hf ha hp hlt
    | moveToFront =>
      obtain ⟨again, once, hq, h⟩ := ranked_run visible cs
      exact ⟨again, once, hq, h.shownAgain, h.notShownAgain, h.latest_first, h.earliest_first⟩

end BrowserTab.Dialog
