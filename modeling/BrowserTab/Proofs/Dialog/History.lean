import Mathlib.Data.List.Induction
import BrowserTab.Proofs.Dialog.Reaction

/-!
# Histories of a host

A history is a list of commands. Its effects are those of the reactions one after the other, and one
more command adds its reaction at the end, so what each reaction keeps holds after every history.
-/

namespace BrowserTab.Dialog

namespace Host

variable {H : Type} [DecidableEq H]

/-- The effects of a history in their order. -/
def moments (h : Host H) (cs : List (Command H)) : List (Moment H) :=
  (h.reactions cs).flatMap (·.moments)

def calls (h : Host H) (cs : List (Command H)) : List (Call H) :=
  (h.moments cs).filterMap (·.effect.call?)

/-- The arguments with which the host's input was blocked or freed in a history. -/
def blocks (h : Host H) (cs : List (Command H)) : List Bool :=
  (h.moments cs).filterMap (·.effect.block?)

lemma run_concat (h : Host H) (cs : List (Command H)) (c : Command H) :
    h.run (cs ++ [c]) = (h.run cs).perform c := by
  simp [run]

lemma reactions_concat (h : Host H) (cs : List (Command H)) (c : Command H) :
    h.reactions (cs ++ [c]) = h.reactions cs ++ [(h.run cs).react c] := by
  induction cs generalizing h with
  | nil => rfl
  | cons d cs ih =>
    rw [List.cons_append, reactions, ih, reactions, List.cons_append]
    rfl

lemma moments_concat (h : Host H) (cs : List (Command H)) (c : Command H) :
    h.moments (cs ++ [c]) = h.moments cs ++ ((h.run cs).react c).moments := by
  simp [moments, reactions_concat]

lemma calls_concat (h : Host H) (cs : List (Command H)) (c : Command H) :
    h.calls (cs ++ [c]) = h.calls cs ++ ((h.run cs).react c).calls := by
  rw [calls, moments_concat, List.filterMap_append]
  rfl

lemma blocks_concat (h : Host H) (cs : List (Command H)) (c : Command H) :
    h.blocks (cs ++ [c]) = h.blocks cs ++ ((h.run cs).react c).blocks := by
  rw [blocks, moments_concat, List.filterMap_append]
  rfl

lemma policy_eq_of_reacts {q : Queue H} {visible : Bool} {c : Command H} {r : Reaction H}
    (hr : Reacts q visible c r) : r.queue.policy = q.policy := by
  cases hr with
  | clear _ _ hp _ => exact hp
  | _ => rfl

lemma closingAll_eq_of_reacts {q : Queue H} (hq : q.closingAll = false) {visible : Bool}
    {c : Command H} {r : Reaction H} (hr : Reacts q visible c r) : r.queue.closingAll = false := by
  cases hr with
  | clear _ _ _ hn => exact hn
  | _ => exact hq

lemma closingAll_run (policy : Policy) (visible : Bool) (cs : List (Command H)) :
    ((fresh policy visible).run cs).queue.closingAll = false := by
  induction cs using List.reverseRecOn with
  | nil => rfl
  | append_singleton cs c ih =>
    rw [run_concat]
    exact closingAll_eq_of_reacts ih (reacts_react ih c)

/-- After every history the next reaction is one of those listed. -/
lemma reacts_run (policy : Policy) (visible : Bool) (cs : List (Command H)) (c : Command H) :
    Reacts ((fresh policy visible).run cs).queue ((fresh policy visible).run cs).visible c
      (((fresh policy visible).run cs).react c) :=
  reacts_react (closingAll_run policy visible cs) c

lemma lawful_run (policy : Policy) (visible : Bool) (cs : List (Command H)) :
    ∀ m ∈ (fresh policy visible).moments cs, m.Lawful := by
  induction cs using List.reverseRecOn with
  | nil => simp [moments, reactions]
  | append_singleton cs c ih =>
    rw [moments_concat, List.forall_mem_append]
    exact ⟨ih, lawful_of_reacts (reacts_run policy visible cs c)⟩

lemma policy_run (policy : Policy) (visible : Bool) (cs : List (Command H)) :
    ((fresh policy visible).run cs).queue.policy = policy := by
  induction cs using List.reverseRecOn with
  | nil => rfl
  | append_singleton cs c ih =>
    rw [run_concat]
    exact (policy_eq_of_reacts (reacts_run policy visible cs c)).trans ih

end Host

/-- Whether a command changes what a host answers on whether it is on screen, or reports that. -/
def Command.turns {H : Type} : Command H → Bool
  | .setVisible _ | .followHost _ => true
  | _ => false

lemma Host.visible_perform {H : Type} [DecidableEq H] (h : Host H) {c : Command H}
    (hc : c.turns = false) : (h.perform c).visible = h.visible := by
  cases c with
  | setVisible => cases hc
  | _ => rfl

/-- The histories in which a host reports each change of its answer at once, and reports nothing
else. -/
inductive Coherent {H : Type} : List (Command H) → Prop
  | start : Coherent []
  | turn {cs : List (Command H)} (b : Bool) (h : Coherent cs) :
    Coherent (cs ++ [.setVisible b, .followHost b])
  | other {cs : List (Command H)} {c : Command H} (hc : c.turns = false) (h : Coherent cs) :
    Coherent (cs ++ [c])

lemma Coherent.of_prefix {H : Type} {cs p : List (Command H)} {c : Command H} (h : Coherent cs)
    (hp : p ++ [c] <+: cs) (hc : c.turns = false) : Coherent p := by
  induction h with
  | start => simp at hp
  | @turn cs b _ ih =>
    have hp' : p ++ [c] <+: cs ++ [.setVisible b] ++ [.followHost b] := by simpa using hp
    rw [List.prefix_concat_iff, List.prefix_concat_iff] at hp'
    rcases hp' with hp' | hp' | hp'
    · cases (List.append_inj' hp' rfl).2
      cases hc
    · cases (List.append_inj' hp' rfl).2
      cases hc
    · exact ih hp'
  | @other cs c' _ h ih =>
    rw [List.prefix_concat_iff] at hp
    rcases hp with hp | hp
    · rw [(List.append_inj' hp rfl).1]
      exact h
    · exact ih hp

end BrowserTab.Dialog
