/-
Module: Rtos.Proofs.Urgency
Purpose: How urgent tasks are.  The priority of every task is the most urgent of its base priority
  and the ceilings that it holds, and no task that can run is more urgent than the chosen one.
Main statements: `Execution.priority_isLeast`, `Execution.selected_most_urgent`
-/
import Mathlib.Order.Bounds.Defs
import Rtos.Proofs.Execution

namespace Rtos

/-- The effective priority is the least of the base priority and the held ceilings. -/
theorem IsEffective.isLeast {held : Priority → Prop} {base priority : Priority}
    (effective : IsEffective held base priority) :
    IsLeast {level | level = base ∨ held level} priority where
  left := effective.attained
  right := by
    rintro level (rfl | holds)
    · exact effective.le_base
    · exact effective.le_ceiling level holds

namespace Execution

variable {C : Type} [Machine C] {admits : Step C → Prop} {config : Configuration}
  {steps : List (Step C)} {kernel : Kernel C}

/-- In every state of an execution every slot, vacant ones included, has the least of its base
priority and the ceilings of all resources that it owns just then.  So no owner is less urgent than
a ceiling that it holds, and a task that owns nothing is back at its base priority. -/
theorem priority_isLeast (execution : Execution admits config steps kernel) :
    ∀ state ∈ visited steps kernel, ∀ id,
      IsLeast {level | level = (state.sched.slot id).basePriority ∨ state.core.HoldsAt id level}
          (state.sched.slot id).priority ∧
        (∀ resource ∈ state.core.resources, resource.owner = some id →
          (state.sched.slot id).priority ≤ resource.ceiling) ∧
        ((∀ place, ¬ state.core.owns id place) →
          (state.sched.slot id).priority = (state.sched.slot id).basePriority) := by
  intro state visited id
  have effective := ((execution.sound_of_visited visited).fits id).effective
  refine ⟨effective.isLeast, ?_, ?_⟩
  · intro resource member owner
    obtain ⟨place, found⟩ := Array.mem_iff_getElem?.mp member
    exact effective.le_ceiling resource.ceiling ⟨place, resource, found, owner, rfl⟩
  · intro nothing
    refine effective.attained.resolve_right ?_
    rintro ⟨place, resource, found, owner, -⟩
    exact nothing place (Core.owns_iff.mpr ⟨resource, found, owner⟩)

end Execution

/-- A pair of tasks that share two resources, one with a more urgent ceiling than the other. -/
def Configuration.twoCeilings : Configuration :=
  { Configuration.pair 4 with ceilings := [4, 3] }

theorem Configuration.built_twoCeilings : Configuration.twoCeilings.Built :=
  (Configuration.built_pair 4).addResource rfl

namespace Execution

/-- Two resources are taken one inside the other, and the outer one is given up first. -/
def crossed : List (Operation FrameIndex) :=
  [.launch ⟨0⟩, .request (.getResource 0), .request (.getResource 1),
    .request (.releaseResource 0)]

set_option maxRecDepth 4000 in
theorem priority_crossed :
    ∃ (steps : List (Step FrameIndex)) (kernel : Kernel FrameIndex),
      Execution (fun _ => True) Configuration.twoCeilings steps kernel ∧
        kernel.core.owns 1 0 = false ∧ kernel.core.owns 1 1 ∧
        (kernel.sched.slot 1).basePriority = 5 ∧ (kernel.sched.slot 1).priority = 3 ∧
        IsLeast {level | level = (kernel.sched.slot 1).basePriority ∨ kernel.core.HoldsAt 1 level}
          (kernel.sched.slot 1).priority := by
  let kernel : Kernel FrameIndex := booted Configuration.twoCeilings Hosted.console
  have execution : Execution (fun _ => True) Configuration.twoCeilings (replay kernel [] crossed)
      (reached kernel crossed) :=
    of_replay Configuration.built_twoCeilings (by decide) (by decide) (by decide)
  obtain ⟨least, -⟩ := execution.priority_isLeast _ List.mem_cons_self 1
  exact ⟨_, _, execution, by decide, by decide, by decide, by decide, least⟩

/-! ### The chosen task -/

variable {C : Type} [Machine C] {admits : Step C → Prop} {config : Configuration}
  {steps : List (Step C)} {kernel : Kernel C}

/-- In every state of an execution, whether or not the operation before it was refused, the chosen
task is running, and no ready task is more urgent. -/
theorem selected_most_urgent (execution : Execution admits config steps kernel) :
    ∀ state ∈ visited steps kernel,
      (state.sched.slot state.sched.selected).state = .running ∧
        ∀ id, (state.sched.slot id).state = .ready →
          (state.sched.slot state.sched.selected).priority ≤ (state.sched.slot id).priority := by
  intro state visited
  have sound := execution.sound_of_visited visited
  refine ⟨(sound.running _).mpr rfl, ?_⟩
  intro id ready
  have runnable : (state.sched.slot id).state.isRunnable := by
    rw [ready]
    rfl
  exact sound.mostUrgent id runnable

/-- A more urgent task is held off by the ceiling of a resource, and asking to activate it once more
is refused. -/
def heldOff : List (Operation FrameIndex) :=
  [.launch ⟨0⟩, .request (.getResource 0), .request (.activateTask 2), .request (.activateTask 2)]

set_option maxRecDepth 4000 in
theorem selected_held_off :
    ∃ (step : Step FrameIndex) (steps : List (Step FrameIndex)) (kernel : Kernel FrameIndex),
      Execution (fun _ => True) (Configuration.pair 1) (step :: steps) kernel ∧
        step.done.result = .error .alreadyActive ∧ kernel.sched.selected = 1 ∧
        (kernel.sched.slot 2).state = .ready ∧
        (kernel.sched.slot 2).priority < (kernel.sched.slot 1).basePriority ∧
        (kernel.sched.slot 1).priority ≤ (kernel.sched.slot 2).priority := by
  have execution : Execution (fun _ => True) (Configuration.pair 1) (pairSteps 1 heldOff)
      (pairReached 1 heldOff) :=
    of_pair (by decide) (by decide) (by decide)
  obtain ⟨-, urgent⟩ := execution.selected_most_urgent _ List.mem_cons_self
  exact ⟨_, _, _, execution, rfl, by decide, by decide, by decide, urgent 2 (by decide)⟩

end Execution

end Rtos
