/-
Module: Rtos.Proofs.WaitExit
Purpose: Which waits for events can be ended.  Whoever waits for events asked for just these, and a
  delivery can wake it unless it asked for none: a wait for no event at all is accepted, and lasts
  for good.
Main definitions: Execution.WaitsSince
Main statements: `Step.Ready.asleep_before`, `Execution.waitsSince_of_asleep`,
  `Execution.asleep_for_good`, `Execution.wait_ended_iff`
-/
import Rtos.Proofs.Delivery

namespace Rtos

/-! ### Boot -/

theorem Task.started_ne_waiting {C : Type} [Machine C] {task : Task C}
    (moving : task.state ≠ .waiting) : task.started.state ≠ .waiting := by
  unfold started
  split
  · rename_i fresh activated
    unfold activate at activated
    split at activated <;> cases activated
    nofun
  · exact moving

/-- Nobody waits for anything when the kernel has booted. -/
theorem Kernel.boot_ne_waiting {C : Type} [Machine C] {config : Configuration} {console : Console}
    {kernel : Kernel C} {seen : Trace} (built : config.Built)
    (booted : boot config console = .ok (kernel, seen)) (id : TaskId) :
    (kernel.core.sched.slot id).state ≠ .waiting := by
  obtain ⟨core, decided, consistent, slot⟩ := boot_consistent built booted
  obtain ⟨state, same, marks⟩ := consistent.slot_decided id
  rw [decided, same]
  rcases marks with kept | ⟨runnable, -⟩
  · dsimp only
    rw [kept, slot]
    unfold bootTask
    cases config.tasks[id]? with
    | none => nofun
    | some spec =>
        dsimp only
        split
        · exact Task.started_ne_waiting nofun
        · nofun
  · exact TaskState.ne_waiting_of_isRunnable runnable

/-! ### Who waits for events -/

namespace Move

variable {C : Type} [Machine C] {core : Core C} {move : Move} {task : TaskId}
  {mask flags : EventMask}

/-- A task that joins the queue of a resource does not wait for events. -/
theorem Allowed.queued_of_queue {id : ResourceId} (allowed : Allowed core (queue id)) :
    core.sched.current ∈ ((queue id).apply core).queueOf id := by
  obtain ⟨resource, found, -⟩ := allowed.permitted
  obtain ⟨after, foundAfter, change⟩ := allowed.resourceChange found
  rw [Core.queueOf_of_found foundAfter]
  cases change with
  | kept same other => exact absurd rfl other
  | taken asked => cases asked
  | joined asked owned joined =>
      rw [joined]
      exact List.mem_append_right _ List.mem_cons_self
  | passed gives => cases gives

/-- Whoever waits for events after a move did so before, or has just asked for them, unless it was
still in a queue. -/
theorem Allowed.asleep_before (allowed : move.Allowed core) (sound : core.Sound)
    (asleep : (move.apply core).Asleep task mask flags) :
    (∃ had, core.Asleep task mask had) ∨ (∃ id, task ∈ core.queueOf id) ∨
      task = core.sched.current ∧ move = .await mask := by
  rcases allowed.waiting_apply sound asleep.waiting with waiting | ⟨caller, blocks⟩
  · by_cases queued : ∃ id, task ∈ core.queueOf id
    · exact .inr (.inl queued)
    · have before : core.Asleep task (core.sched.slot task).eventWait
          (core.sched.slot task).eventFlags :=
        ⟨waiting, rfl, rfl, fun id member => queued ⟨id, member⟩⟩
      by_cases missed : move.delivered task &&& (core.sched.slot task).eventWait = 0
      · have same := (allowed.asleep_apply sound before missed).awaited
        rw [asleep.awaited] at same
        rw [← same] at before
        exact .inl ⟨_, before⟩
      · have woken := (allowed.woken_apply sound before missed).runnable
        exact absurd asleep.waiting (TaskState.ne_waiting_of_isRunnable woken)
  · subst caller
    cases move with
    | await awaited =>
        have same := (allowed.asleep_of_await sound).awaited
        rw [asleep.awaited] at same
        rw [same]
        exact .inr (.inr ⟨rfl, rfl⟩)
    | queue id => exact absurd allowed.queued_of_queue (asleep.unqueued id)
    | _ => cases blocks

end Move

/-! ### Who can be woken -/

namespace Kernel

variable {C : Type} [Machine C] {kernel : Kernel C} {task : TaskId} {mask flags : EventMask}

omit [Machine C] in
/-- Active tasks can be sent events. -/
theorem setEvent_succeeds (active : (kernel.core.sched.slot task).state.isActive)
    (events : EventMask) : ((setEvent task events).run kernel).result = .ok () := by
  have done := Scheduler.run_setEvent active events
  unfold setEvent
  split at done
  · rw [Action.run_bind_of_ok (run_onScheduler done), if_pos rfl]
    exact (neverRefused_reschedule _).choose_spec
  · rw [Action.run_bind_of_ok (run_onScheduler done)]
    rfl

/-- The events that end a wait are those that are awaited. -/
theorem runnable_of_setEvent_iff (sound : kernel.core.Sound)
    (asleep : kernel.core.Asleep task mask flags) (events : EventMask) :
    (((setEvent task events).run kernel).state.sched.slot task).state.isRunnable ↔
      events &&& mask ≠ 0 := by
  have active : (kernel.core.sched.slot task).state.isActive := by
    rw [asleep.waiting]
    rfl
  let made : CallAt C := ⟨kernel, .setEvent task events⟩
  have succeeds : made.done.result = .ok () := setEvent_succeeds active events
  have delivered : made.delivered task = events := by
    unfold CallAt.delivered
    rw [succeeds]
    exact if_pos ⟨rfl, rfl⟩
  constructor
  · intro runnable missed
    rw [← delivered] at missed
    have still := (CallAt.asleep_after sound asleep missed).waiting
    exact TaskState.ne_waiting_of_isRunnable runnable still
  · intro hit
    rw [← delivered] at hit
    exact (CallAt.woken_after sound asleep hit).runnable

end Kernel

namespace Step

variable {C : Type} [Machine C] {step : Step C} {task : TaskId} {mask flags : EventMask}

/-- Whoever is asleep after a step was so before it, or falls asleep in it. -/
theorem Ready.asleep_before (ready : step.Ready) (asleep : step.after.core.Asleep task mask flags) :
    (∃ had, step.before.core.Asleep task mask had) ∨ ∃ had, step.FallsAsleep task mask had := by
  have kept : ∀ flags, step.after.core.Asleep task mask flags →
      (∃ had, step.before.core.Asleep task mask had) ∨
        step.before.current = task ∧ step.operation.request? = some (.waitEvent mask) := by
    refine ready.preserves
      (fun core => ∀ flags, core.Asleep task mask flags →
        (∃ had, step.before.core.Asleep task mask had) ∨
          step.before.current = task ∧ step.operation.request? = some (.waitEvent mask))
      ?switched ?interrupted ?served ?holds
    case holds => exact fun flags before => .inl ⟨flags, before⟩
    case switched =>
      exact fun outgoing flags after =>
        .inl ⟨flags, (ready.sound.asleep_switched_iff outgoing).mp after⟩
    case interrupted =>
      intro core move sound allowed interrupt holds flags after
      rcases allowed.asleep_before sound after with ⟨had, before⟩ | ⟨id, queued⟩ | ⟨-, rfl⟩
      · exact holds had before
      · rw [Core.queueOf, ← Move.resources_apply_of_isInterrupt interrupt core] at queued
        exact absurd queued (after.unqueued id)
      · cases interrupt
    case served =>
      intro request move asked serves allowed core flags after
      rcases allowed.asleep_before ready.sound after with before | ⟨id, queued⟩ | ⟨caller, rfl⟩
      · exact .inl before
      · rw [← core] at after
        rcases ready.queued_or_handedOver queued with still | handed
        · exact absurd still (after.unqueued id)
        · exact absurd after.waiting (TaskState.ne_waiting_of_isRunnable handed.runnable)
      · cases serves
        exact .inr ⟨caller.symm, asked⟩
  rcases kept flags asleep with before | ⟨caller, asked⟩
  · exact .inl before
  · exact .inr ⟨_, caller, asked, rfl, asleep.waiting⟩

end Step

namespace Execution

variable {C : Type} [Machine C] {admits : Step C → Prop} {config : Configuration}
  {steps later earlier : List (Step C)} {step : Step C} {kernel : Kernel C} {task : TaskId}
  {mask flags : EventMask}

/-- The task asked to wait for these events and was blocked, and has waited for them ever since. -/
structure WaitsSince (steps : List (Step C)) (task : TaskId) (mask : EventMask)
    (step : Step C) : Prop where
  falls : ∃ flags, step.FallsAsleep task mask flags
  still : ∃ later earlier, steps = later ++ step :: earlier ∧
    ∀ past ∈ later, ∃ flags, past.before.core.Asleep task mask flags

/-- One more step in which the task has slept before. -/
theorem WaitsSince.cons {steps : List (Step C)} {first step : Step C}
    (waits : WaitsSince steps task mask first)
    (asleep : step.before.core.Asleep task mask flags) :
    WaitsSince (step :: steps) task mask first := by
  obtain ⟨falls, later, earlier, rfl, still⟩ := waits
  refine ⟨falls, step :: later, earlier, rfl, ?_⟩
  exact List.forall_mem_cons.mpr ⟨⟨flags, asleep⟩, still⟩

/-- Whoever waits for events was blocked when it asked for just these. -/
theorem waitsSince_of_asleep (execution : Execution admits config steps kernel)
    (asleep : kernel.core.Asleep task mask flags) :
    ∃ step ∈ steps, WaitsSince steps task mask step := by
  induction steps generalizing kernel flags with
  | nil =>
      cases execution with
      | boot built booted heap =>
          exact absurd asleep.waiting (Kernel.boot_ne_waiting built booted task)
  | cons step earlier ih =>
      obtain ⟨latest, rfl⟩ := execution.latest
      rcases latest.ready.asleep_before asleep with ⟨had, before⟩ | ⟨had, falls⟩
      · obtain ⟨first, member, waits⟩ := ih latest.earlier before
        exact ⟨first, List.mem_cons_of_mem _ member, waits.cons before⟩
      · exact ⟨step, List.mem_cons_self, ⟨had, falls⟩, [], earlier, rfl, nofun⟩

/-- A task that asked to wait for no event at all is asleep from then on, whatever happens. -/
theorem asleep_for_good (execution : Execution admits config (later ++ step :: earlier) kernel)
    (falls : step.FallsAsleep task 0 flags) :
    kernel.core.Asleep task 0 (flags ||| CallAt.allDelivered task (calls later)) := by
  obtain ⟨sound, asleep, way⟩ := execution.trail_of_fallsAsleep falls
  exact way.asleep sound asleep fun _ _ => UInt32.and_zero

/-- A task that is blocked, and not on a resource, was blocked when it asked for the events that it
waits for, and has waited for them ever since.  It can be woken, by the delivery of some events to
it, exactly if it asked for any. -/
theorem wait_ended_iff (execution : Execution admits config steps kernel)
    (waiting : (kernel.sched.slot task).state = .waiting)
    (unqueued : ∀ id, task ∉ kernel.core.queueOf id) :
    ((∃ events,
        (((Kernel.setEvent task events).run kernel).state.sched.slot task).state.isRunnable) ↔
          (kernel.sched.slot task).eventWait ≠ 0) ∧
      ∃ step ∈ steps, WaitsSince steps task (kernel.sched.slot task).eventWait step := by
  have asleep : kernel.core.Asleep task (kernel.sched.slot task).eventWait
      (kernel.sched.slot task).eventFlags := ⟨waiting, rfl, rfl, unqueued⟩
  have sound := execution.core_sound
  refine ⟨⟨?_, ?_⟩, execution.waitsSince_of_asleep asleep⟩
  · rintro ⟨events, runnable⟩ none
    have hit := (Kernel.runnable_of_setEvent_iff sound asleep events).mp runnable
    rw [none, UInt32.and_zero] at hit
    exact hit rfl
  · intro some_awaited
    refine ⟨(kernel.sched.slot task).eventWait, ?_⟩
    rw [Kernel.runnable_of_setEvent_iff sound asleep, UInt32.and_self]
    exact some_awaited

set_option maxRecDepth 4000 in
theorem wait_ended_by_awaited :
    ∃ (steps : List (Step FrameIndex)) (kernel : Kernel FrameIndex),
      Execution (fun _ => True) (Configuration.pair 2) steps kernel ∧
        (kernel.sched.slot 1).state = .waiting ∧ (∀ id, 1 ∉ kernel.core.queueOf id) ∧
        (kernel.sched.slot 1).eventWait = 6 ∧ (∃ step ∈ steps, WaitsSince steps 1 6 step) ∧
        ∃ events,
          (((Kernel.setEvent 1 events).run kernel).state.sched.slot 1).state.isRunnable := by
  let operations : List (Operation FrameIndex) := [.launch ⟨0⟩, .request (.waitEvent 6)]
  have execution : Execution (fun _ => True) (Configuration.pair 2) (pairSteps 2 operations)
      (pairReached 2 operations) :=
    of_pair (by decide) (by decide) (by decide)
  have waiting : ((pairReached 2 operations).sched.slot 1).state = .waiting := by decide
  have awaited : ((pairReached 2 operations).sched.slot 1).eventWait = 6 := by decide
  have unqueued : ∀ id, 1 ∉ (pairReached 2 operations).core.queueOf id :=
    Core.unqueued_iff.mpr (by decide)
  obtain ⟨ended, asked⟩ := execution.wait_ended_iff waiting unqueued
  rw [awaited] at ended asked
  exact ⟨_, _, execution, waiting, unqueued, awaited, asked, ended.mpr (by decide)⟩

set_option maxRecDepth 4000 in
/-- A request to wait for no event is not refused, and nothing that is delivered ends the wait. -/
theorem wait_for_none_not_ended :
    ∃ (step : Step FrameIndex) (steps : List (Step FrameIndex)) (kernel : Kernel FrameIndex),
      Execution (fun _ => True) (Configuration.pair 2) (step :: steps) kernel ∧
        step.operation.request? = some (.waitEvent 0) ∧ step.done.result.isOk ∧
        (kernel.sched.slot 1).state = .waiting ∧ (∀ id, 1 ∉ kernel.core.queueOf id) ∧
        ¬ ∃ events,
          (((Kernel.setEvent 1 events).run kernel).state.sched.slot 1).state.isRunnable := by
  let operations : List (Operation FrameIndex) := [.launch ⟨0⟩, .request (.waitEvent 0)]
  have execution : Execution (fun _ => True) (Configuration.pair 2) (pairSteps 2 operations)
      (pairReached 2 operations) :=
    of_pair (by decide) (by decide) (by decide)
  have asleep : (pairReached 2 operations).core.Asleep 1 0 0 :=
    ⟨by decide, by decide, by decide, Core.unqueued_iff.mpr (by decide)⟩
  refine ⟨_, _, _, execution, rfl, by decide, asleep.waiting, asleep.unqueued, ?_⟩
  rintro ⟨events, runnable⟩
  have hit := (Kernel.runnable_of_setEvent_iff execution.core_sound asleep events).mp runnable
  rw [UInt32.and_zero] at hit
  exact hit rfl

end Execution

end Rtos
