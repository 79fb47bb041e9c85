import Mathlib.Data.List.Infix
import BrowserTab.Proofs.Dialog.Screen

/-!
# Hidden hosts

A hidden host is meant to display no dialog until it comes on screen. Every command keeps to that but
one: when the front dialog leaves, the one behind it is displayed without a look at the host.
-/

namespace BrowserTab.Dialog

variable {H : Type}

lemma display_mem_drawn {calls : List (Call H)} {d : H} :
    ⟨.display, d⟩ ∈ drawn calls ↔ ⟨.display, d⟩ ∈ calls := by
  rw [drawn, List.mem_filter]
  exact and_iff_left rfl

variable [DecidableEq H] {policy : Policy} {hs hs' : List H} {c : Command H} {ds : List (Call H)}

lemma Shifts.display_mem_iff (h : Shifts policy false hs c hs' ds) (hc : c ≠ .followHost true) {d : H} :
    ⟨.display, d⟩ ∈ ds ↔ ∃ f rest, c = .leave f ∧ hs = f :: d :: rest := by
  cases h with
  | stay hl _ _ =>
    constructor
    · intro hd
      cases hd
    · rintro ⟨f, rest, hcf, rfl⟩
      exact absurd (List.mem_cons_self ..) (hl f hcf)
  | @leaveFront f =>
    cases hs' with
    | nil => simp
    | cons g gs =>
      constructor
      · intro hd
        have hdg : d = g := by simpa using hd
        exact ⟨f, gs, rfl, by rw [hdg]⟩
      · rintro ⟨a, rest, -, ha⟩
        simp only [List.cons.injEq] at ha
        simp [ha.2.1]
  | leaveBehind _ hne =>
    constructor
    · intro hd
      cases hd
    · rintro ⟨f, rest, hcf, hf⟩
      cases hcf
      cases hf
      exact absurd rfl hne
  | @turn f hs b =>
    have hb : b = false := by simpa using hc
    simp [hb]
  | clear hc =>
    constructor
    · intro hd
      cases hd
    · rintro ⟨f, rest, rfl, -⟩
      simp at hc
  | joinAlone => simp
  | joinBehind => simp
  | advance => simp

lemma Coherent.visible_of_followHost {h : Host H} {cs p : List (Command H)} {b : Bool}
    (hc : Coherent cs) (hp : p ++ [.followHost b] <+: cs) : (h.run p).visible = b := by
  induction hc with
  | start => simp at hp
  | @turn cs b' _ ih =>
    have hp' : p ++ [.followHost b] <+: cs ++ [.setVisible b'] ++ [.followHost b'] := by simpa using hp
    rw [List.prefix_concat_iff, List.prefix_concat_iff] at hp'
    rcases hp' with hp | hp | hp
    · obtain ⟨rfl, hb⟩ := List.append_inj' hp rfl
      cases hb
      rw [Host.run_concat]
      rfl
    · cases (List.append_inj' hp rfl).2
    · exact ih hp
  | @other cs c hct _ ih =>
    rw [List.prefix_concat_iff] at hp
    rcases hp with hp | hp
    · cases (List.append_inj' hp rfl).2
      cases hct
    · exact ih hp

lemma display_mem_calls_iff {visible : Bool} {cs p : List (Command H)} (hcs : Coherent cs)
    (hp : p ++ [c] <+: cs) (hv : ((Host.fresh policy visible).run p).visible = false) {d : H} :
    ⟨.display, d⟩ ∈ (((Host.fresh policy visible).run p).react c).calls ↔
      ∃ f rest, c = .leave f ∧
        ((Host.fresh policy visible).run p).queue.handles = f :: d :: rest := by
  have hc : c ≠ .followHost true := by
    rintro rfl
    rw [hcs.visible_of_followHost hp] at hv
    cases hv
  have hs := shifts_of_reacts (Host.reacts_run policy visible p c)
  rw [hv] at hs
  rw [← display_mem_drawn, hs.display_mem_iff hc]

/-- In a coherent history no dialog is displayed on a hidden host if and only if no front dialog leaves
the hidden host while another one waits. A host that reports that it came on screen is not hidden any
more, so that report needs no exception. -/
theorem hidden_displays_nothing_iff (policy : Policy) (visible : Bool) (cs : List (Command H))
    (hcs : Coherent cs) :
    (∀ p c, p ++ [c] <+: cs → ((Host.fresh policy visible).run p).visible = false →
        ∀ d, ⟨.display, d⟩ ∉ (((Host.fresh policy visible).run p).react c).calls) ↔
      ¬∃ p f d rest, p ++ [.leave f] <+: cs ∧ ((Host.fresh policy visible).run p).visible = false ∧
        ((Host.fresh policy visible).run p).queue.handles = f :: d :: rest := by
  constructor
  · rintro hn ⟨p, f, d, rest, hp, hv, hq⟩
    apply hn p (.leave f) hp hv d
    exact (display_mem_calls_iff hcs hp hv).mpr ⟨f, rest, rfl, hq⟩
  · intro hno p c hp hv d hd
    obtain ⟨f, rest, rfl, hq⟩ := (display_mem_calls_iff hcs hp hv).mp hd
    exact hno ⟨p, f, d, rest, hp, hv, hq⟩

/-- While the host is hidden a waiting dialog leaves, another joins, and the last one leaves. -/
theorem hidden_displays_nothing_iff_held :
    let cs : List (Command Nat) := [.present 1, .present 2, .setVisible false, .followHost false,
      .present 3, .leave 2, .setVisible true, .followHost true, .leave 1, .setVisible false,
      .followHost false, .leave 3, .present 4]
    Coherent cs ∧ ∀ p c, p ++ [c] <+: cs → ((Host.fresh .moveToFront true).run p).visible = false →
      ∀ d, ⟨.display, d⟩ ∉ (((Host.fresh .moveToFront true).run p).react c).calls := by
  intro cs
  have h : Coherent [Command.present 1, .present 2, .setVisible false, .followHost false, .present 3,
      .leave 2] := .other rfl (.other rfl (.turn false (.other rfl (.other rfl .start))))
  have hc : Coherent cs := .other rfl (.other rfl (.turn false (.other rfl (.turn true h))))
  refine ⟨hc, (hidden_displays_nothing_iff .moveToFront true cs hc).mpr ?_⟩
  rintro ⟨p, f, d, rest, hp, hv, hq⟩
  have hleft : ∀ p ∈ cs.inits, ((Host.fresh .moveToFront true).run p).visible = false →
      ∀ f ∈ ((Host.fresh .moveToFront true).run p).queue.handles.head?,
        p ++ [.leave f] ∈ cs.inits →
        ((Host.fresh .moveToFront true).run p).queue.handles.tail = [] := by
    decide
  have ht := hleft p ((List.mem_inits p cs).mpr ((List.prefix_append p _).trans hp)) hv f (by rw [hq]; rfl)
    ((List.mem_inits _ cs).mpr hp)
  rw [hq] at ht
  cases ht

/-- The second dialog is displayed on a hidden host because the first one leaves. -/
theorem displayed_on_hidden_host :
    ¬∀ (policy : Policy) (visible : Bool) (cs : List (Command Nat)), Coherent cs → ∀ p c,
      p ++ [c] <+: cs → ((Host.fresh policy visible).run p).visible = false →
        ∀ d, ⟨.display, d⟩ ∉ (((Host.fresh policy visible).run p).react c).calls := by
  intro hn
  have hc : Coherent [Command.present 1, .present 2, .leave 1] :=
    .other rfl (.other rfl (.other rfl .start))
  exact hn .ignore false _ hc [.present 1, .present 2] (.leave 1) (List.prefix_refl _) rfl 2 (by decide)

end BrowserTab.Dialog
