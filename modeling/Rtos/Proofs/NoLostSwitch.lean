/-
Module: Rtos.Proofs.NoLostSwitch
Purpose: Exactly one task is marked running, the chosen one; and a choice that is not yet on the CPU
  is never forgotten.
Main statements: `Execution.one_running_and_no_lost_switch`
-/
import Rtos.Proofs.Execution

namespace Rtos

namespace Execution

variable {C : Type} [Machine C] {admits : Step C → Prop} {config : Configuration}
  {steps : List (Step C)} {kernel : Kernel C}

/-- In every state of an execution exactly one task is running, and it is the chosen one.  From the
launch on, as long as no switch is pending, the chosen task is the one on the CPU, and its registers
are live there. -/
theorem one_running_and_no_lost_switch (execution : Execution admits config steps kernel) :
    (∀ id, (kernel.sched.slot id).state = .running ↔ id = kernel.sched.selected) ∧
      (steps ≠ [] → kernel.line.pending = false →
        kernel.sched.selected = kernel.current ∧
          (kernel.sched.slot kernel.current).context = .onCpu) := by
  obtain ⟨sound, situation⟩ := execution.invariant
  refine ⟨sound.running, ?_⟩
  intro launched idle
  exact (situation launched).settled idle

/-- A more urgent task is activated, dispatched and ended, and the switch back is carried out. -/
def thereAndBack : List (Operation FrameIndex) :=
  [.launch ⟨0⟩, .request (.activateTask 2), .dispatch ⟨1⟩, .request .terminateTask, .dispatch ⟨2⟩]

set_option maxRecDepth 4000 in
theorem one_running_there_and_back :
    ∃ (steps : List (Step FrameIndex)) (kernel : Kernel FrameIndex),
      Execution (fun _ => True) (Configuration.pair 2) steps kernel ∧ steps ≠ [] ∧
        kernel.line.pending = false ∧ (kernel.sched.slot 1).state = .running ∧
        kernel.sched.selected = kernel.current ∧
        (kernel.sched.slot kernel.current).context = .onCpu := by
  have execution : Execution (fun _ => True) (Configuration.pair 2) (pairSteps 2 thereAndBack)
      (pairReached 2 thereAndBack) := by
    refine of_pair (by decide) (by decide) ?_
    exact ⟨by decide, trivial, by decide, trivial, by decide, trivial, by decide, trivial,
      by decide, trivial, trivial⟩
  obtain ⟨running, settled⟩ := one_running_and_no_lost_switch execution
  have launched : pairSteps 2 thereAndBack ≠ [] := nofun
  have idle : (pairReached 2 thereAndBack).line.pending = false := by decide
  refine ⟨_, _, execution, launched, idle, ?_, settled launched idle⟩
  rw [running]
  decide

end Execution

end Rtos
