import BrowserTab.Proofs.Dialog.LateReport
import BrowserTab.Proofs.Dialog.Leaving

/-!
# Closing all dialogs

To close all its dialogs a queue asks for each to close and takes its report for granted. Meanwhile no dialog
behind another is to appear, so the queue is put in a mode of its own. The mode ends with the command: when
a dialog leaves later on, the one behind it is displayed again.
-/

namespace BrowserTab.Dialog

variable {H : Type} [DecidableEq H]

lemma Host.react_of_closesAll (h : Host H) {c : Command H} (hc : c.closesAll = true) :
    h.react c = h.queue.closeAll := by
  cases c with
  | closeAll | destroy => rfl
  | _ => cases hc

namespace Queue

lemma calls_closeAll (q : Queue H) : q.closeAll.calls = q.handles.map (⟨.close, ·⟩) := by
  rw [closeAll_eq, Reaction.calls, calls_closingMoments, handles, List.map_map]
  rfl

lemma blocks_closeAll (q : Queue H) : q.closeAll.blocks =
    List.replicate (q.size - 1) true ++ if q.isOccupied then [false] else [] := by
  rw [closeAll_eq, Reaction.blocks, size, isOccupied]
  cases q.entries with
  | nil => rfl
  | cons e es => exact blocks_closingMoments e es

end Queue

lemma display_of_leave (policy : Policy) (visible : Bool) (cs : List (Command H)) {f g : H} {hs : List H}
    (hq : ((Host.fresh policy visible).run cs).queue.handles = f :: g :: hs) :
    (((Host.fresh policy visible).run cs).react (.leave f)).calls = [⟨.display, g⟩] ∧
      ((Host.fresh policy visible).run (cs ++ [.leave f])).queue.handles = g :: hs := by
  have hf : ((Host.fresh policy visible).run cs).queue.front? = some f := by
    rw [Queue.front?, hq]
    rfl
  have hleft : (((Host.fresh policy visible).run cs).queue.leave f).queue.handles = g :: hs := by
    rw [Queue.queue_leave (Queue.mem_handles_of_front? hf)]
    exact Queue.handles_remove_front hq
  have hfront : (((Host.fresh policy visible).run cs).queue.leave f).queue.front? = some g := by
    rw [Queue.front?, hleft]
    rfl
  constructor
  · rw [Host.react, Queue.calls_leave (Host.closingAll_run policy visible cs), if_pos hf, hfront]
    rfl
  · rw [Host.run_concat]
    exact hleft

/-- When all dialogs are closed, after any history, none is left. The platform is told to close each of
them from the front on and nothing else; the host is told with each that its input is blocked, and with the
last that it is free. However things go on, a front dialog that leaves while another waits gives way to that
one, which is displayed. -/
theorem closesAll_clears (policy : Policy) (visible : Bool) (cs : List (Command H)) (c : Command H)
    (hc : c.closesAll = true) :
    let h := (Host.fresh policy visible).run cs
    (h.perform c).queue.entries = [] ∧
      (h.react c).calls = h.queue.handles.map (⟨.close, ·⟩) ∧
      (h.react c).blocks =
        List.replicate (h.queue.size - 1) true ++ (if h.queue.isOccupied then [false] else []) ∧
      ∀ (more : List (Command H)) (f g : H) (hs : List H),
        ((h.perform c).run more).queue.handles = f :: g :: hs →
          (((h.perform c).run more).react (.leave f)).calls = [⟨.display, g⟩] ∧
            (((h.perform c).run more).perform (.leave f)).queue.front? = some g := by
  intro h
  have hreact := h.react_of_closesAll hc
  refine ⟨?_, ?_, ?_, ?_⟩
  · rw [Host.perform, hreact]
    exact h.queue.entries_closeAll
  · rw [hreact]
    exact h.queue.calls_closeAll
  · rw [hreact]
    exact h.queue.blocks_closeAll
  · intro more f g hs hq
    have hrun : (h.perform c).run more = (Host.fresh policy visible).run (cs ++ [c] ++ more) := by
      rw [Host.run_append, Host.run_concat]
    rw [hrun] at hq ⊢
    obtain ⟨hcalls, hleft⟩ := display_of_leave policy visible _ hq
    refine ⟨hcalls, ?_⟩
    rw [Host.run_concat] at hleft
    rw [Queue.front?, hleft]
    rfl

/-- Three dialogs are closed, one of them moved to the front before; two join again, and the first of them
leaves. -/
theorem closesAll_clears_moved :
    let h := (Host.fresh .moveToFront true).run [Command.present 1, .present 2, .present 3, .present 2]
    (h.react .destroy).calls = [⟨.close, 2⟩, ⟨.close, 1⟩, ⟨.close, 3⟩] ∧
      (h.react .destroy).blocks = [true, true, false] ∧
      (((h.perform .destroy).run [.present 1, .present 3]).react (.leave 1)).calls = [⟨.display, 3⟩] := by
  intro h
  obtain ⟨-, hcalls, hblocks, hlater⟩ := closesAll_clears .moveToFront true
    [Command.present 1, .present 2, .present 3, .present 2] .destroy rfl
  have hhandles : h.queue.handles = [2, 1, 3] := by decide
  have hjoined : ((h.perform .destroy).run [.present 1, .present 3]).queue.handles = [1, 3] := by
    decide +kernel
  refine ⟨hcalls.trans ?_, hblocks.trans ?_, (hlater _ 1 3 [] hjoined).1⟩
  · rw [show ((Host.fresh .moveToFront true).run _).queue.handles = _ from hhandles]
    rfl
  · decide

end BrowserTab.Dialog
