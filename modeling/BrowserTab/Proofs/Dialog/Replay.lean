import BrowserTab.Proofs.Dialog.Order
import BrowserTab.Proofs.Dialog.Record

/-!
# Replaying the journal

The notes that a queue keeps for debugging say what became of its dialogs. Whoever follows them from the
first one on has the row of dialogs at every time, and finds each number in them right. The notes at the
other levels say what was odd about a command, and change nothing.
-/

namespace BrowserTab.Dialog

variable {H : Type}

namespace Effect

@[simp]
lemma note?_call (c : Call H) : (Effect.call c).note? = none :=
  rfl

@[simp]
lemma note?_block (b : Bool) : (Effect.block b : Effect H).note? = none :=
  rfl

@[simp]
lemma note?_note (n : Note H) : (Effect.note n).note? = some n :=
  rfl

end Effect

namespace Note

/-- The number of dialogs that a note gives. -/
def count? : Note H → Option Nat
  | .queued _ n | .closed _ n => some n
  | .movedToFront _ | .shownTwice _ | .strayClose _ | .unknownDialog _ | .noDialog => none

variable [DecidableEq H]

/-- The row of dialogs after a note, if it was the given one before. -/
def replay (hs : List H) : Note H → List H
  | .queued d _ => hs ++ [d]
  | .closed d _ => hs.erase d
  | .movedToFront d => d :: hs.erase d
  | .shownTwice _ | .strayClose _ | .unknownDialog _ | .noDialog => hs

lemma replay_of_level_ne {n : Note H} (h : n.level ≠ .debug) (hs : List H) : n.replay hs = hs := by
  cases n with
  | queued | closed | movedToFront => exact absurd rfl h
  | shownTwice | strayClose | unknownDialog | noDialog => rfl

/-- Notes that lead from one row of dialogs to another, each giving the right number if it gives one. -/
inductive Tracks : List H → List (Note H) → List H → Prop
  | nil {hs : List H} : Tracks hs [] hs
  | cons {hs hs' : List H} {n : Note H} {ns : List (Note H)}
    (hn : ∀ k ∈ n.count?, k = (n.replay hs).length) (h : Tracks (n.replay hs) ns hs') :
    Tracks hs (n :: ns) hs'

namespace Tracks

variable {hs hs' hs'' : List H} {ns ms : List (Note H)}

lemma single {n : Note H} (hr : n.replay hs = hs') (hn : ∀ k ∈ n.count?, k = hs'.length) :
    Tracks hs [n] hs' := by
  subst hr
  exact .cons hn .nil

lemma append (h : Tracks hs ns hs') (h' : Tracks hs' ms hs'') : Tracks hs (ns ++ ms) hs'' := by
  induction h with
  | nil => exact h'
  | cons hn _ ih => exact .cons hn (ih h')

lemma foldl_eq (h : Tracks hs ns hs') : ns.foldl replay hs = hs' := by
  induction h with
  | nil => rfl
  | cons _ _ ih => exact ih

lemma count_eq {before after : List (Note H)} {n : Note H} (h : Tracks hs (before ++ n :: after) hs') :
    ∀ k ∈ n.count?, k = ((before ++ [n]).foldl replay hs).length := by
  induction before generalizing hs with
  | nil =>
    cases h with
    | cons hn _ => exact hn
  | cons m before ih =>
    cases h with
    | cons _ h => exact ih h

lemma filter_debug (h : Tracks hs ns hs') : Tracks hs (ns.filter (·.level = .debug)) hs' := by
  induction h with
  | nil => exact .nil
  | @cons hs hs' n ns hn _ ih =>
    by_cases hl : n.level = .debug
    · rw [List.filter_cons_of_pos (by simpa using hl)]
      exact .cons hn ih
    · rw [List.filter_cons_of_neg (by simpa using hl)]
      rwa [replay_of_level_ne hl] at ih

end Tracks

end Note

open Note Queue

lemma notes_callFront (q : Queue H) (verb : Verb) :
    (q.callFront verb).filterMap (·.effect.note?) = [] := by
  cases hf : q.front? <;> simp [callFront, hf]

lemma exists_record_iff [ToString H] {r : Reaction H} {l : Journal.Level} :
    (∃ x ∈ r.records, x.level = l) ↔ ∃ n ∈ r.notes, n.level = l := by
  simp [Reaction.records, Note.record]

lemma size_eq_length_handles (q : Queue H) : q.size = q.handles.length :=
  (List.length_map Entry.handle).symm

lemma level_closingMoments (es : List (Entry H)) :
    ∀ n ∈ (closingMoments es).filterMap (·.effect.note?), n.level = .debug := by
  induction es with
  | nil => simp [closingMoments]
  | cons e es ih =>
    rw [closingMoments, List.filterMap_append, List.forall_mem_append]
    exact ⟨by simp [level], ih⟩

variable [DecidableEq H]

lemma handles_remove_eq_erase (q : Queue H) (d : H) : (q.remove d).handles = q.handles.erase d := by
  rw [handles_remove, (nodup_handles q).erase_eq_filter]
  exact List.filter_congr fun a _ => by simp [bne, Bool.beq_eq_decide_eq]

lemma tracks_closingMoments (es : List (Entry H)) :
    Tracks (es.map Entry.handle) ((closingMoments es).filterMap (·.effect.note?)) [] := by
  induction es with
  | nil => exact .nil
  | cons e es ih =>
    have hclosed : Tracks ((e :: es).map Entry.handle) [.closed e.handle es.length]
        (es.map Entry.handle) := by
      refine .single (List.erase_cons_head ..) ?_
      rintro _ ⟨⟩
      exact (List.length_map _).symm
    rw [closingMoments, List.filterMap_append]
    exact hclosed.append ih

lemma tracks_queued (q : Queue H) {d : H} (hd : d ∉ q.handles) :
    Tracks q.handles [.queued d (q.join d hd).size] (q.join d hd).handles := by
  refine .single (handles_join q d hd).symm ?_
  rintro _ ⟨⟩
  exact size_eq_length_handles _

lemma tracks_closed (q : Queue H) (d : H) :
    Tracks q.handles [.closed d (q.remove d).size] (q.remove d).handles := by
  refine .single (handles_remove_eq_erase q d).symm ?_
  rintro _ ⟨⟩
  exact size_eq_length_handles _

lemma tracks_movedToFront {q : Queue H} {d : H} (hd : d ∈ q.handles) :
    Tracks q.handles [.movedToFront d] (q.advance d).handles := by
  refine .single ?_ (by simp [count?])
  rw [handles_advance hd, handles_remove_eq_erase]
  rfl

variable {q : Queue H} {visible : Bool} {c : Command H} {r : Reaction H}

lemma tracks_of_reacts (hr : Reacts q visible c r) : Tracks q.handles r.notes r.queue.handles := by
  cases hr with
  | joinAlone hd => cases visible <;> exact tracks_queued q hd
  | joinBehind hd => exact tracks_queued q hd
  | advance _ hd => cases visible <;> exact tracks_movedToFront hd
  | keepOpen =>
    rw [handles_setStaysOpen]
    exact .nil
  | leaveFront =>
    rw [Reaction.notes, List.filterMap_append, notes_callFront]
    exact tracks_closed q _
  | leaveBehind => exact tracks_closed q _
  | clear _ he =>
    rw [handles_eq_nil.mpr he]
    exact tracks_closingMoments q.entries
  | shownTwice | keepUnknown | strayClose | focusNone => exact .single rfl (by simp [count?])
  | followHost | closeFront | focus | redirectInput =>
    rw [Reaction.notes, notes_callFront]
    exact .nil
  | frontAgain | setVisible | remain => exact .nil

/-- The notes on what is odd about a command. -/
def Queue.oddities (q : Queue H) : Command H → List (Note H)
  | .present d => if d ∈ q.handles ∧ q.policy = .ignore then [.shownTwice d] else []
  | .keepOpen d _ => if d ∈ q.handles then [] else [.unknownDialog d]
  | .leave d => if d ∈ q.handles then [] else [.strayClose d]
  | .focus => if q.handles = [] then [.noDialog] else []
  | .followHost _ | .setVisible _ | .navigate | .closeAll | .redirectInput | .destroy => []

lemma oddities_of_clear (hc : c = .closeAll ∨ c = .destroy) : q.oddities c = [] := by
  rcases hc with rfl | rfl <;> rfl

lemma filter_notes_of_reacts (hr : Reacts q visible c r) :
    r.notes.filter (·.level ≠ .debug) = q.oddities c := by
  cases hr with
  | joinAlone hd => cases visible <;> simp [Reaction.notes, oddities, level, hd]
  | joinBehind hd => simp [Reaction.notes, oddities, level, hd]
  | shownTwice hd hp => simp [Reaction.notes, oddities, level, hd, hp]
  | frontAgain _ hp => simp [Reaction.notes, oddities, hp]
  | advance _ _ _ hp => cases visible <;> simp [Reaction.notes, oddities, level, hp]
  | keepOpen hd => simp [Reaction.notes, oddities, hd]
  | keepUnknown hd => simp [Reaction.notes, oddities, level, hd]
  | leaveFront hf =>
    rw [Reaction.notes, List.filterMap_append, notes_callFront]
    simp [oddities, level, mem_handles_of_front? hf]
  | leaveBehind hd => simp [Reaction.notes, oddities, level, hd]
  | strayClose hd => simp [Reaction.notes, oddities, level, hd]
  | clear hc =>
    rw [oddities_of_clear hc, List.filter_eq_nil_iff]
    intro n hn
    simpa using level_closingMoments q.entries n hn
  | focus he => simp [Reaction.notes, notes_callFront, oddities, handles_eq_nil, he]
  | focusNone he => simp [Reaction.notes, oddities, level, handles_eq_nil, he]
  | followHost | closeFront | redirectInput =>
    rw [Reaction.notes, notes_callFront]
    rfl
  | setVisible | remain => rfl

lemma exists_note_iff (hr : Reacts q visible c r) {l : Journal.Level} (hl : l ≠ .debug) :
    (∃ n ∈ r.notes, n.level = l) ↔ ∃ n ∈ q.oddities c, n.level = l := by
  rw [← filter_notes_of_reacts hr]
  refine exists_congr fun n => ?_
  rw [List.mem_filter, decide_eq_true_eq]
  constructor
  · rintro ⟨hn, rfl⟩
    exact ⟨⟨hn, hl⟩, rfl⟩
  · rintro ⟨⟨hn, -⟩, rfl⟩
    exact ⟨hn, rfl⟩

lemma exists_warn_iff (q : Queue H) (c : Command H) : (∃ n ∈ q.oddities c, n.level = .warn) ↔
    q.policy = .ignore ∧ ∃ d ∈ q.handles, c = .present d := by
  cases c <;> simp [oddities, level, and_comm]

lemma exists_trace_iff (q : Queue H) (c : Command H) : (∃ n ∈ q.oddities c, n.level = .trace) ↔
    ∃ d, d ∉ q.handles ∧ c = .leave d := by
  cases c <;> simp [oddities, level]

lemma exists_error_iff (hr : Reacts q visible c r) : (∃ n ∈ q.oddities c, n.level = .error) ↔
    r.refusal.isSome = true := by
  cases hr with
  | clear hc => simp [oddities_of_clear hc]
  | focus he => simp [oddities, handles_eq_nil, he]
  | focusNone he => simp [oddities, level, handles_eq_nil, he]
  | _ => simp [oddities, level, *]

/-! ### The journal of a history -/

namespace Host

def notes (h : Host H) (cs : List (Command H)) : List (Note H) :=
  (h.moments cs).filterMap (·.effect.note?)

def records [ToString H] (h : Host H) (cs : List (Command H)) : List Journal.Record :=
  (h.reactions cs).flatMap (·.records)

lemma notes_concat (h : Host H) (cs : List (Command H)) (c : Command H) :
    h.notes (cs ++ [c]) = h.notes cs ++ ((h.run cs).react c).notes := by
  rw [notes, moments_concat, List.filterMap_append]
  rfl

lemma records_eq [ToString H] (h : Host H) (cs : List (Command H)) :
    h.records cs = (h.notes cs).map Note.record := by
  rw [notes, moments, List.filterMap_flatMap, List.map_flatMap]
  rfl

lemma filter_records [ToString H] (h : Host H) (cs : List (Command H)) :
    (h.records cs).filter (·.level = .debug) =
      ((h.notes cs).filter (·.level = .debug)).map Note.record := by
  rw [records_eq, List.filter_map]
  rfl

/-- The notes of each history lead from an empty queue to the one that it leaves. -/
lemma tracks_run (policy : Policy) (visible : Bool) (cs : List (Command H)) :
    Tracks [] ((fresh policy visible).notes cs) ((fresh policy visible).run cs).queue.handles := by
  induction cs using List.reverseRecOn with
  | nil => exact .nil
  | append_singleton cs c ih =>
    rw [notes_concat, run_concat]
    exact ih.append (tracks_of_reacts (reacts_run policy visible cs c))

end Host

/-- The journal of every history is faithful. The records kept for debugging are those of the notes at that
level, and of no other notes if no two dialogs are printed alike. To replay these notes gives the row of
dialogs, which at each number in them is as long as the number says. The next command leaves a warning if it
presents a dialog of a queue that ignores that, an error if it is refused, a trace if it reports a dialog
closed that is not in the queue, and none of these otherwise. -/
theorem foldl_replay_run [ToString H] (policy : Policy) (visible : Bool) (cs : List (Command H)) :
    let h := Host.fresh policy visible
    let ns := (h.notes cs).filter (·.level = .debug)
    let records := (h.records cs).filter (·.level = .debug)
    (ns.map Note.record = records ∧
        (Function.Injective (toString : H → String) →
          ∀ ms : List (Note H), ms.map Note.record = records → ms = ns)) ∧
      ns.foldl Note.replay [] = (h.run cs).queue.handles ∧
      (∀ before n after, ns = before ++ n :: after →
        ∀ k ∈ n.count?, k = ((before ++ [n]).foldl Note.replay []).length) ∧
      ∀ c, let r := (h.run cs).react c
        ((∃ x ∈ r.records, x.level = .warn) ↔
            policy = .ignore ∧ ∃ d ∈ (h.run cs).queue.handles, c = .present d) ∧
          ((∃ x ∈ r.records, x.level = .error) ↔ r.refusal.isSome = true) ∧
          ((∃ x ∈ r.records, x.level = .trace) ↔
            ∃ d, d ∉ (h.run cs).queue.handles ∧ c = .leave d) := by
  intro h ns records
  have hrecords : records = ns.map Note.record := h.filter_records cs
  have hlevel : ∀ n ∈ ns, n.level = .debug := by
    intro n hn
    simpa using (List.mem_filter.mp hn).2
  have htracks : Tracks [] ns (h.run cs).queue.handles :=
    (Host.tracks_run policy visible cs).filter_debug
  refine ⟨⟨hrecords.symm, fun hinj ms hms => ?_⟩, htracks.foldl_eq, ?_, ?_⟩
  · rw [hrecords] at hms
    exact Note.map_record_inj hinj hlevel hms
  · intro before n after hsplit
    rw [hsplit] at htracks
    exact htracks.count_eq
  · intro c
    have hr := Host.reacts_run policy visible cs c
    have hpolicy : (h.run cs).queue.policy = policy := Host.policy_run policy visible cs
    simp only [exists_record_iff]
    rw [exists_note_iff hr (by decide), exists_note_iff hr (by decide), exists_note_iff hr (by decide),
      exists_warn_iff, exists_error_iff hr, exists_trace_iff, hpolicy]
    exact ⟨Iff.rfl, Iff.rfl, Iff.rfl⟩

/-- A dialog that moves to the front, and one that leaves and joins again. -/
theorem foldl_replay_run_joined :
    let h : Host Nat := .fresh .moveToFront true
    let cs : List (Command Nat) :=
      [.present 1, .present 2, .present 3, .present 2, .leave 1, .present 1]
    let ns : List (Note Nat) :=
      [.queued 1 1, .queued 2 2, .queued 3 3, .movedToFront 2, .closed 1 2, .queued 1 3]
    (h.records cs).filter (·.level = .debug) = ns.map Note.record ∧
      ns.foldl Note.replay [] = [2, 3, 1] ∧ (ns.foldl Note.replay []).length = 3 ∧
      ∃ x ∈ ((h.run cs).react (.leave 4)).records, x.level = .trace := by
  intro h cs ns
  obtain ⟨⟨hrecords, hunique⟩, hreplay, hcount, hlevels⟩ := foldl_replay_run (H := Nat) .moveToFront true cs
  have hmap : ns.map Note.record = (h.records cs).filter (·.level = .debug) := by decide
  have hns : ns = (h.notes cs).filter (·.level = .debug) := hunique toString_nat_injective ns hmap
  rw [← hns] at hreplay hcount
  have hlength := hcount [.queued 1 1, .queued 2 2, .queued 3 3, .movedToFront 2, .closed 1 2]
    (.queued 1 3) [] rfl 3 rfl
  obtain ⟨-, -, htrace⟩ := hlevels (.leave 4)
  exact ⟨hmap.symm, hreplay.trans (by decide), hlength.symm, htrace.mpr ⟨4, by decide, rfl⟩⟩

end BrowserTab.Dialog
