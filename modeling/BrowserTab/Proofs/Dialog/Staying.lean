import BrowserTab.Proofs.Dialog.Stay

/-!
# Dialogs that stay open

Whether a dialog stays open when the host navigates is kept in its entry, and entries change place and
go while commands speak of dialogs by name. What an entry says is nevertheless what was said last of its
dialog since the dialog joined, and by that a navigation closes the front dialog or leaves it.
-/

namespace BrowserTab.Dialog

variable {H : Type}

lemma effects_navigate (q : Queue H) : q.navigate.queue = q ∧
    q.navigate.moments.map (·.effect) =
      match q.entries.head? with
      | some e => if e.staysOpen then [] else [.call ⟨.close, e.handle⟩]
      | none => [] := by
  unfold Queue.navigate
  cases hq : q.entries with
  | nil => exact ⟨rfl, rfl⟩
  | cons e es =>
    have hf : q.front? = some e.handle := by rw [Queue.front?, Queue.handles, hq]; rfl
    cases hs : e.staysOpen <;> simp [Queue.callFront, hf, hs]

variable [DecidableEq H] {q : Queue H} {policy : Policy} {visible : Bool} {cs : List (Command H)}
  {c : Command H} {r : Reaction H} {d : H} {e : Entry H}

/-- What a command says on whether a dialog stays open. -/
def Command.stays? (d : H) : Command H → Option Bool
  | .keepOpen a stays => if a = d then some stays else none
  | _ => none

/-- Whether a dialog of the queue stays open: what was said last of it since it joined, and if nothing
was said, that it does not. -/
def staysOpen (cs : List (Command H)) (d : H) : Bool :=
  ((cs.drop (joinedAt cs d)).filterMap (Command.stays? d)).getLastD false

/-- An entry is that of a dialog which joins, and then says nothing yet, or an entry that was there
before, with what the command says. -/
lemma entry_of_reacts (hr : Reacts q visible c r) (he : e ∈ r.queue.entries) :
    (c = .present e.handle ∧ e.handle ∉ q.handles ∧ e.staysOpen = false) ∨
      ∃ e₀ ∈ q.entries, e₀.handle = e.handle ∧
        e.staysOpen = (c.stays? e.handle).getD e₀.staysOpen := by
  cases hr with
  | joinAlone hd | joinBehind hd =>
    rcases List.mem_append.mp he with he | he
    · exact .inr ⟨e, he, rfl, rfl⟩
    · rw [List.mem_singleton] at he
      subst he
      exact .inl ⟨rfl, hd, rfl⟩
  | advance =>
    rcases List.mem_append.mp he with he | he
    · exact .inr ⟨e, List.mem_of_mem_filter he, rfl, rfl⟩
    · exact .inr ⟨e, List.mem_of_mem_filter he, rfl, rfl⟩
  | @keepOpen d stays =>
    obtain ⟨e₀, he₀, rfl⟩ := List.mem_map.mp he
    refine .inr ⟨e₀, he₀, ?_⟩
    split <;> rename_i hd
    · simp [Command.stays?, hd]
    · simp [Command.stays?, Ne.symm hd]
  | @keepUnknown d stays hd =>
    have hne : d ≠ e.handle := by
      rintro rfl
      exact hd (List.mem_map_of_mem he)
    refine .inr ⟨e, he, rfl, ?_⟩
    simp [Command.stays?, hne]
  | leaveFront | leaveBehind => exact .inr ⟨e, List.mem_of_mem_filter he, rfl, rfl⟩
  | clear _ hn =>
    rw [hn] at he
    cases he
  | _ => exact .inr ⟨e, he, rfl, rfl⟩

lemma staysOpen_join (hd : d ∉ ((Host.fresh policy visible).run cs).queue.handles) :
    staysOpen (cs ++ [.present d]) d = false := by
  rw [staysOpen, joinedAt_join hd, List.drop_left]
  rfl

lemma staysOpen_remain (hb : d ∈ ((Host.fresh policy visible).run cs).queue.handles)
    (hd : d ∈ ((Host.fresh policy visible).run (cs ++ [c])).queue.handles) :
    staysOpen (cs ++ [c]) d = (c.stays? d).getD (staysOpen cs d) := by
  rw [staysOpen, joinedAt_remain hb hd, List.drop_append_of_le_length (Nat.le_of_lt (joinedAt_lt hb)),
    List.filterMap_append]
  cases hc : c.stays? d with
  | none => simp [hc, staysOpen]
  | some stays => simp [hc]

lemma staysOpen_run (policy : Policy) (visible : Bool) (cs : List (Command H)) :
    ∀ e ∈ ((Host.fresh policy visible).run cs).queue.entries, e.staysOpen = staysOpen cs e.handle := by
  induction cs using List.reverseRecOn with
  | nil => exact List.forall_mem_nil _
  | append_singleton cs c ih =>
    intro e he
    have hd : e.handle ∈ ((Host.fresh policy visible).run (cs ++ [c])).queue.handles :=
      List.mem_map_of_mem he
    rw [Host.run_concat] at he
    rcases entry_of_reacts (Host.reacts_run policy visible cs c) he with
      ⟨rfl, hb, hs⟩ | ⟨e₀, he₀, hh, hs⟩
    · rw [staysOpen_join hb, hs]
    · have hb : e.handle ∈ ((Host.fresh policy visible).run cs).queue.handles :=
        hh ▸ List.mem_map_of_mem he₀
      rw [staysOpen_remain hb hd, hs, ih e₀ he₀, hh]

/-- After every history an entry says of its dialog what was said last since the dialog joined, and that
it does not stay open if nothing was said. To say something of a dialog that is not in the queue is
refused, changes nothing and makes no call; nothing else that is said is refused. A navigation changes
nothing, and its one effect is a request to close the front dialog if there is one that by the history
does not stay open. -/
theorem staysOpen_determined (policy : Policy) (visible : Bool) (cs : List (Command H)) :
    let h := (Host.fresh policy visible).run cs
    (∀ e ∈ h.queue.entries, e.staysOpen = staysOpen cs e.handle) ∧
      (∀ d stays, (h.react (.keepOpen d stays)).refusal =
        if d ∈ h.queue.handles then none else some (.unknownDialog d)) ∧
      (∀ d stays, d ∉ h.queue.handles → h.perform (.keepOpen d stays) = h ∧
        (h.react (.keepOpen d stays)).calls = [] ∧ (h.react (.keepOpen d stays)).blocks = []) ∧
      h.perform .navigate = h ∧
      (h.react .navigate).moments.map (·.effect) =
        match h.queue.front? with
        | some f => if staysOpen cs f then [] else [.call ⟨.close, f⟩]
        | none => [] := by
  intro h
  have hentries := staysOpen_run policy visible cs
  obtain ⟨hqueue, heffects⟩ := effects_navigate h.queue
  refine ⟨hentries, ?_, ?_, ?_, ?_⟩
  · intro d stays
    simp only [Host.react, Queue.keepOpen]
    split <;> rfl
  · intro d stays hd
    simp only [Host.perform, Host.react, Queue.keepOpen, if_neg hd]
    exact ⟨rfl, rfl, rfl⟩
  · rw [Host.perform, Host.react, hqueue]
    rfl
  · rw [Host.react, heffects, Queue.front?, Queue.handles, List.head?_map]
    cases hf : h.queue.entries.head? with
    | none => rfl
    | some e =>
      rw [Option.map_some]
      simp only [hentries e (List.mem_of_mem_head? hf)]

/-- A dialog that was told to stay open is moved to the front, and the host navigates. -/
theorem staysOpen_determined_moved :
    let h := (Host.fresh .moveToFront true).run
      [Command.present 1, .present 2, .keepOpen 2 true, .present 3, .present 2]
    (∃ e ∈ h.queue.entries, e.handle = 2 ∧ e.staysOpen = true) ∧
      (h.react .navigate).moments.map (·.effect) = [] := by
  intro h
  obtain ⟨hentries, -, -, -, hnavigate⟩ := staysOpen_determined .moveToFront true
    [Command.present 1, .present 2, .keepOpen 2 true, .present 3, .present 2]
  have he : (⟨2, true⟩ : Entry Nat) ∈ h.queue.entries := by decide
  exact ⟨⟨_, he, rfl, (hentries _ he).trans (by decide)⟩, hnavigate.trans (by decide)⟩

/-- What was said of a dialog is forgotten when it leaves, and does not count when it joins again. -/
example : staysOpen [.present 1, .keepOpen 1 true, .leave 1, .present 1] 1 = false := by decide

end BrowserTab.Dialog
