/-
Module: Rtos.Events
Purpose: Event flags.  Each task owns a set of delivered events and blocks until one of a set of its
  choice is delivered; a delivered event stays until its task clears it.
Main definitions: Scheduler.setEvent, Scheduler.clearEvent, Scheduler.eventsOf, Scheduler.waitEvent
-/
import Rtos.Scheduler

namespace Rtos

namespace Task

variable {C : Type}

/-- Add events to those delivered. -/
def deliver (mask : EventMask) (task : Task C) : Task C :=
  { task with eventFlags := task.eventFlags ||| mask }

/-- The task is blocked and one of the events it waits for is there. -/
def hasAwaited (task : Task C) : Bool :=
  task.state = .waiting && task.eventWait &&& task.eventFlags ≠ 0

/-- The task waits for nothing any more and competes for the CPU. -/
def wake (task : Task C) : Task C :=
  { task with eventWait := 0, state := .ready }

/-- Block the task until one of these events is delivered. -/
def await (mask : EventMask) (task : Task C) : Task C :=
  { task with eventWait := mask, state := .waiting }

end Task

namespace Scheduler

variable {C : Type}

/-- The slot of a task that can hold events: active, and not a vacant or suspended one. -/
def eventTarget (sched : Scheduler C) (target : TaskId) : Except Refusal (Task C) := do
  let task ← sched.findSlot target
  if task.state.isActive then pure task else throw .wrongState

/-- Deliver events to a task.  The answer tells whether the task was waiting for one of them and is
ready now. -/
def setEvent (target : TaskId) (mask : EventMask) : Action (Scheduler C) Bool := do
  let _ ← Action.ofExcept ((← Action.get).eventTarget target)
  Action.modify (·.modify target (Task.deliver mask))
  if ((← Action.get).slot target).hasAwaited then
    Action.modify (·.modify target Task.wake)
    pure true
  else pure false

/-- Remove events from those delivered to the calling task. -/
def clearEvent (mask : EventMask) (sched : Scheduler C) : Scheduler C :=
  sched.modify sched.current fun task => { task with eventFlags := task.eventFlags &&& ~~~mask }

/-- The events delivered to an active task. -/
def eventsOf (sched : Scheduler C) (target : TaskId) : Except Refusal EventMask := do
  let task ← sched.eventTarget target
  pure task.eventFlags

/-- Block the calling task until one of these events is delivered, unless one is already.  The
answer tells whether it was blocked; the idle task must not be. -/
def waitEvent (mask : EventMask) : Action (Scheduler C) Bool := do
  let sched ← Action.get
  if sched.currentTask.eventFlags &&& mask ≠ 0 then pure false
  else if sched.current = idleTask then Action.refuse .notPermitted
  else
    Action.modify (·.modify sched.current (Task.await mask))
    pure true

end Scheduler

end Rtos
