import Mathlib.Tactic.Lemma
import BrowserTab.Dialog.Effect
import BrowserTab.Proofs.Text.Scanning

/-!
# Records of changes

A record is a line of text, and a dialog is printed in the middle of it in whatever way dialogs are printed,
perhaps with spaces. The last word of the line still tells what kind of note it was made of, and the words
before it tell the rest, as long as no two dialogs are printed alike.
-/

namespace BrowserTab.Dialog

lemma append_space_inj {a b v w : String} (hv : ' ' ∉ v.toList) (hw : ' ' ∉ w.toList)
    (h : a ++ " " ++ v = b ++ " " ++ w) : a = b ∧ v = w := by
  have hstop : ∀ {a v : String}, ' ' ∉ v.toList →
      (a ++ " " ++ v).toList.reverse.takeWhile (· ≠ ' ') = v.toList.reverse := by
    intro a v hv
    rw [String.toList_append, List.reverse_append, String.toList_append, List.reverse_append]
    refine Text.takeWhile_append_stop ?_ (by simp)
    intro c hc
    rw [decide_eq_true_eq]
    rintro rfl
    exact hv (List.mem_reverse.mp hc)
  have hword : v = w := by
    rw [← String.toList_inj, ← List.reverse_inj, ← hstop (a := a) hv, h, hstop hw]
  rw [hword, String.append_left_inj, String.append_left_inj] at h
  exact ⟨h, hword⟩

lemma append_of_eq_append_space {a b c w : String} (h : c = b ++ " ") :
    a ++ c ++ w = a ++ b ++ " " ++ w := by
  rw [h, ← String.append_assoc]

lemma isDigit_of_mem_toString {n : Nat} {c : Char} (h : c ∈ (toString n).toList) : c.isDigit = true := by
  rw [Nat.toString_eq_repr, Nat.toList_repr] at h
  exact Nat.isDigit_of_mem_toDigits (by decide) (by decide) h

lemma toString_nat_injective : Function.Injective (toString : Nat → String) :=
  fun _ _ h => Nat.repr_inj.mp h

lemma toString_ne_word {n : Nat} {w : String} (hw : 'r' ∈ w.toList) : toString n ≠ w := by
  rintro rfl
  exact absurd (isDigit_of_mem_toString hw) (by decide)

lemma space_notMem_toString (n : Nat) : ' ' ∉ (toString n).toList := by
  intro h
  exact absurd (isDigit_of_mem_toString h) (by decide)

namespace Note

variable {H : Type} [ToString H]

lemma message_queued (d : H) (n : Nat) : (queued d n).message =
    "modal dialog " ++ toString d ++ " queued at depth" ++ " " ++ toString n :=
  append_of_eq_append_space (by decide)

lemma message_closed (d : H) (n : Nat) : (closed d n).message =
    "modal dialog " ++ toString d ++ " closed," ++ " " ++ toString n ++ " " ++ "remaining" :=
  calc
    (closed d n).message
      = "modal dialog " ++ toString d ++ " closed, " ++ toString n ++ (" " ++ "remaining") :=
        congrArg ("modal dialog " ++ toString d ++ " closed, " ++ toString n ++ ·) (by decide)
    _ = "modal dialog " ++ toString d ++ " closed, " ++ toString n ++ " " ++ "remaining" :=
        String.append_assoc.symm
    _ = _ := congrArg (· ++ " " ++ "remaining") (append_of_eq_append_space (by decide))

lemma message_movedToFront (d : H) : (movedToFront d).message =
    "modal dialog " ++ toString d ++ " moved to" ++ " " ++ "front" :=
  calc
    (movedToFront d).message = "modal dialog " ++ toString d ++ (" moved to " ++ "front") :=
        congrArg ("modal dialog " ++ toString d ++ ·) (by decide)
    _ = "modal dialog " ++ toString d ++ " moved to " ++ "front" := String.append_assoc.symm
    _ = _ := append_of_eq_append_space (by decide)

lemma message_queued_ne_closed (d e : H) (m n : Nat) :
    (queued d m).message ≠ (closed e n).message := by
  rw [message_queued, message_closed]
  intro h
  exact toString_ne_word (by decide) (append_space_inj (space_notMem_toString m) (by decide) h).2

lemma message_queued_ne_movedToFront (d e : H) (m : Nat) :
    (queued d m).message ≠ (movedToFront e).message := by
  rw [message_queued, message_movedToFront]
  intro h
  exact toString_ne_word (by decide) (append_space_inj (space_notMem_toString m) (by decide) h).2

lemma message_closed_ne_movedToFront (d e : H) (m : Nat) :
    (closed d m).message ≠ (movedToFront e).message := by
  rw [message_closed, message_movedToFront]
  intro h
  exact absurd (append_space_inj (by decide) (by decide) h).2 (by decide)

lemma dialog_inj (hinj : Function.Injective (toString : H → String)) {a b : String} {d e : H}
    (h : a ++ toString d ++ b = a ++ toString e ++ b) : d = e :=
  hinj ((String.append_right_inj a).mp ((String.append_left_inj b).mp h))

lemma record_inj (hinj : Function.Injective (toString : H → String)) {n n' : Note H}
    (hn : n.level = .debug) (h : n.record = n'.record) : n = n' := by
  have hn' : n'.level = .debug := (congrArg Journal.Record.level h).symm.trans hn
  have hmessage : n.message = n'.message := congrArg Journal.Record.message h
  cases n with
  | queued d k =>
    cases n' with
    | queued e l =>
      rw [message_queued, message_queued] at hmessage
      obtain ⟨hd, hk⟩ := append_space_inj (space_notMem_toString k) (space_notMem_toString l) hmessage
      rw [dialog_inj hinj hd, toString_nat_injective hk]
    | closed => exact absurd hmessage (message_queued_ne_closed _ _ _ _)
    | movedToFront => exact absurd hmessage (message_queued_ne_movedToFront _ _ _)
    | shownTwice | strayClose | unknownDialog | noDialog => cases hn'
  | closed d k =>
    cases n' with
    | queued => exact absurd hmessage.symm (message_queued_ne_closed _ _ _ _)
    | closed e l =>
      rw [message_closed, message_closed] at hmessage
      obtain ⟨hfront, -⟩ := append_space_inj (by decide) (by decide) hmessage
      obtain ⟨hd, hk⟩ := append_space_inj (space_notMem_toString k) (space_notMem_toString l) hfront
      rw [dialog_inj hinj hd, toString_nat_injective hk]
    | movedToFront => exact absurd hmessage (message_closed_ne_movedToFront _ _ _)
    | shownTwice | strayClose | unknownDialog | noDialog => cases hn'
  | movedToFront d =>
    cases n' with
    | queued => exact absurd hmessage.symm (message_queued_ne_movedToFront _ _ _)
    | closed => exact absurd hmessage.symm (message_closed_ne_movedToFront _ _ _)
    | movedToFront e =>
      rw [message_movedToFront, message_movedToFront] at hmessage
      rw [dialog_inj hinj (append_space_inj (by decide) (by decide) hmessage).1]
    | shownTwice | strayClose | unknownDialog | noDialog => cases hn'
  | shownTwice | strayClose | unknownDialog | noDialog => cases hn

lemma map_record_inj (hinj : Function.Injective (toString : H → String)) {ns ms : List (Note H)}
    (hns : ∀ n ∈ ns, n.level = .debug) (h : ms.map record = ns.map record) : ms = ns := by
  induction ns generalizing ms with
  | nil => exact List.map_eq_nil_iff.mp h
  | cons n ns ih =>
    obtain ⟨m, ms, rfl, hm, hms⟩ := List.map_eq_cons_iff.mp h
    obtain ⟨hn, hns⟩ := List.forall_mem_cons.mp hns
    rw [record_inj hinj hn hm.symm, ih hns hms]

end Note

end BrowserTab.Dialog
