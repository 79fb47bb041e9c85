import BrowserTab.Proofs.Dialog.Blocking
import BrowserTab.Proofs.Dialog.Stay

/-!
# Reports that dialogs have closed

The platform reports in any order which dialogs have closed, some of them more than once and some that are
in no queue. A report takes its dialog out and touches no other, so reports can change places: what they
leave, what is on screen in the end and whether the host's input is freed follows from the set of dialogs
they name.
-/

namespace BrowserTab.Dialog

variable {H : Type}

/-- Reports that dialogs have closed, one after the other. -/
def reports (ds : List H) : List (Command H) :=
  ds.map .leave

lemma reports_concat (ds : List H) (d : H) : reports (ds ++ [d]) = reports ds ++ [.leave d] := by
  rw [reports, List.map_append]
  rfl

lemma Queue.front?_eq_none {q : Queue H} : q.front? = none ↔ q.entries = [] := by
  rw [Queue.front?, List.head?_eq_none_iff, Queue.handles_eq_nil]

variable [DecidableEq H] {q : Queue H} {h : Host H} {f g : H}

lemma Queue.entries_leave (q : Queue H) (d : H) :
    (q.leave d).queue.entries = q.entries.filter fun e => !decide (e.handle = d) := by
  unfold Queue.leave
  split
  · rfl
  · rename_i hd
    symm
    rw [List.filter_eq_self]
    intro e he
    simp only [Bool.not_eq_true', decide_eq_false_iff_not]
    rintro rfl
    exact hd (List.mem_map_of_mem he)

lemma Queue.front?_leave (hf : q.front? = some f) {d : H} (hne : d ≠ f) :
    (q.leave d).queue.front? = some f := by
  obtain ⟨es, hq⟩ := exists_handles_eq_cons hf
  obtain ⟨e, es, he, rfl, -⟩ := List.map_eq_cons_iff.mp hq
  rw [Queue.front?, Queue.handles, entries_leave, he, List.filter_cons_of_pos (by simpa using Ne.symm hne)]
  rfl

lemma Queue.calls_leave (hq : q.closingAll = false) (d : H) : (q.leave d).calls =
    if q.front? = some d then (q.leave d).queue.front?.toList.map (⟨.display, ·⟩) else [] := by
  by_cases hd : d ∈ q.handles
  · rw [queue_leave hd, Queue.leave, if_pos hd, Reaction.calls, List.filterMap_append]
    by_cases hf : q.front? = some d
    · rw [if_pos ⟨hf, hq⟩, if_pos hf, calls_callFront]
      simp
    · rw [if_neg (fun h => hf h.1), if_neg hf]
      rfl
  · rw [if_neg (mt mem_handles_of_front? hd), Queue.leave, if_neg hd]
    rfl

lemma Host.closingAll_leave (hq : h.queue.closingAll = false) (d : H) :
    (h.perform (.leave d)).queue.closingAll = false :=
  closingAll_eq_of_reacts hq (reacts_react hq (.leave d))

namespace Host

lemma closingAll_reports (hq : h.queue.closingAll = false) (ds : List H) :
    (h.run (reports ds)).queue.closingAll = false := by
  induction ds using List.reverseRecOn with
  | nil => exact hq
  | append_singleton ds d ih =>
    rw [reports_concat, run_concat]
    exact closingAll_leave ih d

lemma entries_reports (h : Host H) (ds : List H) :
    (h.run (reports ds)).queue.entries = h.queue.entries.filter (·.handle ∉ ds) := by
  induction ds using List.reverseRecOn with
  | nil => simp [reports, run]
  | append_singleton ds d ih =>
    rw [reports_concat, run_concat, perform, react, Queue.entries_leave, ih, List.filter_filter]
    apply List.filter_congr
    intro e _
    by_cases hd : e.handle = d <;> simp [hd]

lemma front?_reports (hf : h.queue.front? = some f) {ds : List H} (hds : f ∉ ds) :
    (h.run (reports ds)).queue.front? = some f := by
  induction ds using List.reverseRecOn with
  | nil => exact hf
  | append_singleton ds d ih =>
    rw [List.mem_append, List.mem_singleton, not_or] at hds
    rw [reports_concat, run_concat]
    exact Queue.front?_leave (ih hds.1) (Ne.symm hds.2)

lemma calls_reports_of_notMem (hq : h.queue.closingAll = false) {ds : List H}
    (hds : ∀ f ∈ h.queue.front?, f ∉ ds) : h.calls (reports ds) = [] := by
  induction ds using List.reverseRecOn with
  | nil => rfl
  | append_singleton ds d ih =>
    have hbefore : ∀ f ∈ h.queue.front?, f ∉ ds := by
      intro f hf hd
      exact hds f hf (List.mem_append_left _ hd)
    have hfront : (h.run (reports ds)).queue.front? ≠ some d := by
      cases hf : h.queue.front? with
      | none =>
        have hempty : (h.run (reports ds)).queue.entries = [] := by
          rw [entries_reports, Queue.front?_eq_none.mp hf, List.filter_nil]
        rw [Queue.front?_eq_none.mpr hempty]
        simp
      | some f =>
        rw [front?_reports hf (hbefore f hf), ne_eq, Option.some.injEq]
        rintro rfl
        exact hds f hf (List.mem_append_right _ (List.mem_singleton_self f))
    rw [reports_concat, calls_concat, ih hbefore, react,
      Queue.calls_leave (closingAll_reports hq ds), if_neg hfront, List.append_nil]

lemma getLast?_calls_reports (hq : h.queue.closingAll = false) (hf : h.queue.front? = some f)
    {ds : List H} (hds : f ∈ ds) (hg : (h.run (reports ds)).queue.front? = some g) :
    (h.calls (reports ds)).getLast? = some ⟨.display, g⟩ := by
  induction ds using List.reverseRecOn with
  | nil => cases hds
  | append_singleton ds d ih =>
    have hcalls := Queue.calls_leave (closingAll_reports hq ds) d
    rw [reports_concat, run_concat, perform, react] at hg
    rw [hg] at hcalls
    rw [reports_concat, calls_concat, react, hcalls]
    by_cases hd : (h.run (reports ds)).queue.front? = some d
    · rw [if_pos hd]
      exact List.getLast?_concat
    · rw [if_neg hd, List.append_nil]
      -- The last report is not about the front dialog, so an earlier one was, and the front has stayed.
      have hmem : f ∈ ds := by
        by_contra hn
        have hkept := front?_reports hf hn
        rcases List.mem_append.mp hds with h | h
        · exact hn h
        · rw [List.mem_singleton.mp h] at hkept
          exact hd hkept
      apply ih hmem
      cases hfront : (h.run (reports ds)).queue.front? with
      | none =>
        have hempty := Queue.entries_leave (h.run (reports ds)).queue d
        rw [Queue.front?_eq_none.mp hfront, List.filter_nil] at hempty
        rw [Queue.front?_eq_none.mpr hempty] at hg
        cases hg
      | some g' =>
        have hne : d ≠ g' := by
          rintro rfl
          exact hd hfront
        rw [← Queue.front?_leave hfront hne, hg]

lemma isOccupied_reports (h : Host H) (ds : List H) :
    (h.run (reports ds)).queue.isOccupied = true ↔ ∃ d ∈ h.queue.handles, d ∉ ds := by
  simp [Queue.isOccupied, entries_reports, Queue.handles]

lemma count_false_reports (hq : h.queue.closingAll = false) (ds : List H) :
    (h.blocks (reports ds)).count false =
      if h.queue.isOccupied ∧ ∀ d ∈ h.queue.handles, d ∈ ds then 1 else 0 := by
  have hempty (ds : List H) :
      (∀ d ∈ h.queue.handles, d ∈ ds) ↔ (h.run (reports ds)).queue.isOccupied = false := by
    rw [← Bool.not_eq_true, isOccupied_reports]
    push Not
    rfl
  simp only [hempty]
  induction ds using List.reverseRecOn with
  | nil =>
    simp [reports, run, blocks, moments, reactions]
  | append_singleton ds d ih =>
    have hstep := count_false_blocks (reacts_react (closingAll_reports hq ds) (.leave d))
    have hmono : (h.run (reports (ds ++ [d]))).queue.isOccupied = true →
        (h.run (reports ds)).queue.isOccupied = true := by
      simp only [isOccupied_reports, List.mem_append, not_or]
      rintro ⟨a, ha, hds, -⟩
      exact ⟨a, ha, hds⟩
    have hfirst : (h.run (reports ds)).queue.isOccupied = true → h.queue.isOccupied = true := by
      rw [isOccupied_reports, Queue.isOccupied_eq_true]
      rintro ⟨a, ha, -⟩
      exact List.ne_nil_of_mem ha
    rw [reports_concat, run_concat] at hmono
    rw [reports_concat, blocks_concat, run_concat, List.count_append, ih, hstep]
    change _ + (if _ && !((h.run (reports ds)).perform (.leave d)).queue.isOccupied then 1 else 0) = _
    grind

end Host

/-- After every history the order of reports that dialogs have closed does not matter, and neither does it
that some come more than once or name dialogs outside the queue. What they leave is the entries of which
none speaks, as they were. If the front dialog stays then the platform is told nothing; if it goes while
another one stays then the last that the platform is told is to display the new front dialog. The host's
input is freed once if the last dialog goes, and otherwise not. -/
theorem reports_commute (policy : Policy) (visible : Bool) (cs : List (Command H)) (ds : List H) :
    let h := (Host.fresh policy visible).run cs
    (h.run (reports ds)).queue.entries = h.queue.entries.filter (·.handle ∉ ds) ∧
      (∀ ds' : List H, ds'.Perm ds →
        (h.run (reports ds')).queue.entries = (h.run (reports ds)).queue.entries) ∧
      ((∀ f ∈ h.queue.front?, f ∉ ds) → h.calls (reports ds) = []) ∧
      (∀ f ∈ h.queue.front?, f ∈ ds → ∀ g ∈ (h.run (reports ds)).queue.front?,
        (h.calls (reports ds)).getLast? = some ⟨.display, g⟩) ∧
      (h.blocks (reports ds)).count false =
        if h.queue.isOccupied ∧ ∀ d ∈ h.queue.handles, d ∈ ds then 1 else 0 := by
  intro h
  have hq : h.queue.closingAll = false := Host.closingAll_run policy visible cs
  refine ⟨h.entries_reports ds, ?_, Host.calls_reports_of_notMem hq, ?_, Host.count_false_reports hq ds⟩
  · intro ds' hperm
    rw [h.entries_reports, h.entries_reports]
    apply List.filter_congr
    intro e _
    simp only [hperm.mem_iff]
  · intro f hf hds g hg
    exact Host.getLast?_calls_reports hq hf hds hg

end BrowserTab.Dialog
