/-
Module: Rtos.Proofs.IdleTask
Purpose: The idle task never leaves the race.  Each service that could hold up its caller looks
  whether the caller is the idle task, and that is enough: in whatever order operations come, the
  idle task can be chosen, so that a decision always finds a task.
Main definitions: Core.IdleContends
Main statements: `Core.Edit.idleContends`, `Core.IdleContends.exists_decide`,
  `Lifetime.idle_in_race`
-/
import Rtos.Proofs.Bounds
import Rtos.Proofs.Redecision

namespace Rtos

/-- The idle task can be chosen, and it does not queue for any resource.  Its slot is found by its
id, as every other slot is. -/
structure Core.IdleContends {C : Type} (core : Core C) : Prop extends core.InRange where
  runnable : (core.sched.slot idleTask).state.isRunnable
  unqueued : ∀ (id : ResourceId) (resource : Resource),
    core.resources[id]? = some resource → idleTask ∉ resource.waiters

/-- An edit leaves the idle task runnable.  Some edits take a task out of the race, and those are not
made of the idle task. -/
theorem Task.Edited.idle_runnable {C : Type} [Machine C] {task fresh : Task C}
    (edited : task.Edited idleTask fresh) (runnable : task.state.isRunnable) :
    fresh.state.isRunnable := by
  cases edited with
  | declared spec free =>
      rw [free] at runnable
      cases runnable
  | activated activates =>
      rw [Task.suspended_of_activate activates] at runnable
      cases runnable
  | terminated declared notIdle | queued declared notIdle => exact absurd rfl notIdle
  | awaiting mask notIdle => exact absurd rfl notIdle
  | woken | received => rfl
  | delivered | cleared | reprioritized | switched => exact runnable

namespace Core

variable {C : Type} {core first last : Core C} {seen : Trace} {id : ResourceId}

/-- As long as the idle task is in the race, a decision finds a task, and that one is declared and
runnable. -/
theorem IdleContends.exists_decide (contends : core.IdleContends) :
    ∃ next task, core.sched.decide = some next ∧ core.sched.findTask next = .ok task ∧
      task.isRunnable := by
  obtain ⟨next, chosen⟩ := Scheduler.exists_decide contends.runnable
  have runnable := (Scheduler.decide_spec contends.ids chosen).1
  exact ⟨next, _, chosen, findTask_eq (TaskState.ne_free_of_isRunnable runnable), runnable⟩

/-- A decision moves the running mark, and both tasks that it moves between stay in the race. -/
theorem IdleContends.decided (contends : core.IdleContends) : core.decided.IdleContends := by
  refine ⟨contends.toInRange.decided, ?_, contends.unqueued⟩
  obtain ⟨next, chosen⟩ := Scheduler.exists_decide contends.runnable
  have runnable := (Scheduler.decide_spec contends.ids chosen).1
  change (core.sched.decided.slot idleTask).state.isRunnable
  rw [Scheduler.decided_eq chosen, Scheduler.slot_settle (contends.decide_lt chosen)]
  split
  · rfl
  · split
    · exact (Task.isRunnable_demote _).trans contends.runnable
    · exact contends.runnable

/-- One resource may change as long as the idle task does not come to queue for it. -/
theorem IdleContends.modifyResource {f : Resource → Resource} (contends : core.IdleContends)
    (inRange : (core.modifyResource id f).InRange)
    (changed : ∀ resource, idleTask ∈ (f resource).waiters → idleTask ∈ resource.waiters) :
    (core.modifyResource id f).IdleContends := by
  refine ⟨inRange, contends.runnable, ?_⟩
  intro other resource found
  obtain ⟨before, was, rfl | rfl⟩ := exists_of_found_modifyResource found
  · exact contends.unqueued other _ was
  · exact fun queued => contends.unqueued other before was (changed before queued)

variable [Machine C]

/-- No edit takes the idle task out of the race. -/
theorem Edit.idleContends (edit : first.Edit last) (contends : first.IdleContends) :
    last.IdleContends := by
  have inRange := edit.inRange contends.toInRange
  cases edit with
  | task edited =>
      refine ⟨inRange, ?_, contends.unqueued⟩
      rw [slot_modifyTask]
      split
      · rename_i here
        obtain ⟨rfl, -⟩ := here
        exact edited.idle_runnable contends.runnable
      · exact contends.runnable
  | taken declared => exact contends.modifyResource inRange fun _ queued => queued
  | freed => exact contends.modifyResource inRange fun _ queued => List.mem_of_mem_tail queued
  | joined declared notIdle =>
      refine contends.modifyResource inRange fun resource queued => ?_
      rcases List.mem_append.mp queued with before | last
      · exact before
      · exact absurd (List.mem_singleton.mp last).symm notIdle
  | entered => exact ⟨inRange, contends.runnable, contends.unqueued⟩

theorem Course.idleContends (way : first.Course seen last) (contends : first.IdleContends) :
    last.IdleContends :=
  way.keeps IdleContends Edit.idleContends IdleContends.decided contends

end Core

/-- A kernel boots with the idle task in the race. -/
theorem Kernel.boot_idleContends {C : Type} [Machine C] {config : Configuration} {console : Console}
    {kernel : Kernel C} {seen : Trace} (built : config.Built)
    (booted : boot config console = .ok (kernel, seen)) : kernel.core.IdleContends := by
  refine ⟨boot_inRange built booted, (boot_sound built booted).steady.idle, ?_⟩
  intro id resource found
  rw [(boot_unowned booted id resource found).2]
  exact List.not_mem_nil

namespace Lifetime

variable {C : Type} [Machine C] {config : Configuration} {steps : List (Step C)}
  {kernel : Kernel C}

theorem idleContends (lifetime : Lifetime config steps kernel) : kernel.core.IdleContends :=
  lifetime.keeps Core.IdleContends (Kernel.boot_idleContends lifetime.built)
    Core.Edit.idleContends Core.IdleContends.decided

/-- Whatever operations are performed on a kernel in whatever order, the idle task is ready or
running and queues for no resource, so that a decision always chooses a task, a declared and runnable
one.  The same is true in the middle of an operation, wherever the kernel may come to decide. -/
theorem idle_in_race (lifetime : Lifetime config steps kernel) (seen : Trace) (core : Core C)
    (way : kernel.core.Course seen core) :
    ((core.sched.slot idleTask).state = .ready ∨ (core.sched.slot idleTask).state = .running) ∧
    (∀ (id : ResourceId) (resource : Resource),
      core.resources[id]? = some resource → idleTask ∉ resource.waiters) ∧
    ∃ next task, core.sched.decide = some next ∧ core.sched.findTask next = .ok task ∧
      task.isRunnable := by
  have contends := way.idleContends lifetime.idleContends
  have alive : (core.sched.slot idleTask).state = .ready ∨
      (core.sched.slot idleTask).state = .running := by
    have runnable := contends.runnable
    cases state : (core.sched.slot idleTask).state with
    | ready => exact .inl rfl
    | running => exact .inr rfl
    | waiting | suspended | free =>
        rw [state] at runnable
        cases runnable
  exact ⟨alive, contends.unqueued, contends.exists_decide⟩

/-- The idle task tries to wait, to end and to give way to another task before anything is launched.
The first task takes the resource and waits, and the second one ends.  Left alone, the idle task asks
for the resource and tries to wait and to end once more. -/
def standstill : List (Operation FrameIndex) :=
  [.request (.waitEvent 1), .request .terminateTask, .request (.chainTask 2), .switch ⟨0⟩,
    .request (.activateTask 2), .request (.getResource 0), .request (.waitEvent 1), .switch ⟨1⟩,
    .request .terminateTask, .switch ⟨2⟩, .request (.getResource 0), .request (.waitEvent 1),
    .request .terminateTask]

/-- The kernel after that. -/
def stalled : Kernel FrameIndex :=
  Execution.reached (Execution.booted unruly Hosted.console) standstill

set_option maxRecDepth 8000 in
/-- The only task that is left runs and does not queue for the resource that it asked for. -/
theorem idle_in_race_stalled :
    ∃ steps, Lifetime unruly steps stalled ∧
      (stalled.core.sched.slot 1).state = .waiting ∧ (stalled.core.sched.slot 2).state = .suspended ∧
      stalled.core.resources[0]? = some { ceiling := 2, owner := some 1 } ∧
      ((stalled.core.sched.slot idleTask).state = .ready ∨
        (stalled.core.sched.slot idleTask).state = .running) ∧
      ∃ next task, stalled.core.sched.decide = some next ∧
        stalled.core.sched.findTask next = .ok task ∧ task.isRunnable := by
  have lifetime := Lifetime.of_boots (Configuration.built_assemble _ _)
    (show (Kernel.boot unruly Hosted.console : Except Refusal (Kernel FrameIndex × Trace)).isOk
      by decide +kernel) standstill
  obtain ⟨alive, -, chosen⟩ := lifetime.idle_in_race [] stalled.core (.nil _)
  exact ⟨_, lifetime, by decide +kernel, by decide +kernel, by decide +kernel, alive, chosen⟩

end Lifetime

end Rtos
