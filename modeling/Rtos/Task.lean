/-
Module: Rtos.Task
Purpose: The record that the kernel keeps for each task, and the steps of a task's life: declared,
  activated, ended.
Main definitions: TaskState, Context, TaskSpec, Task, Task.declare, Task.activate, Task.terminate
-/
import Rtos.Stack
import Rtos.Status

namespace Rtos

/-- Position of a task in the task table. -/
abbrev TaskId := Nat

/-- Urgency of a task, from 0 to 255.  A smaller number is more urgent. -/
abbrev Priority := Nat

/-- A set of events, one bit for each. -/
abbrev EventMask := UInt32

/-- Slots in the task table, the idle task's included. -/
def maxTasks : Nat := 8

/-- The least urgent priority, at which the idle task normally runs. -/
def leastUrgent : Priority := 255

/-- The idle task, which always has the first slot and never blocks. -/
def idleTask : TaskId := 0

/-- Scheduling state of a task. -/
inductive TaskState where
  /-- On the CPU, or chosen to be there next. -/
  | running
  /-- Blocked on a resource or on its events. -/
  | waiting
  /-- Able to run, and competing by priority. -/
  | ready
  /-- Declared but not active. -/
  | suspended
  /-- The slot holds no task. -/
  | free
deriving DecidableEq, Repr, Inhabited

namespace TaskState

/-- The word that reports the state to a caller. -/
def word : TaskState → Nat
  | running => 0
  | waiting => 1
  | ready => 2
  | suspended => 3
  | free => 4

/-- The state that a word reports. -/
def ofWord? : Nat → Option TaskState
  | 0 => some running
  | 1 => some waiting
  | 2 => some ready
  | 3 => some suspended
  | 4 => some free
  | _ => none

@[simp] theorem ofWord?_word (state : TaskState) : ofWord? state.word = some state := by
  cases state <;> rfl

/-- A task in this state may be chosen to run. -/
def isRunnable : TaskState → Bool
  | running | ready => true
  | waiting | suspended | free => false

/-- A task in this state has been activated and has not ended. -/
def isActive : TaskState → Bool
  | running | ready | waiting => true
  | suspended | free => false

end TaskState

/-- Where the registers of a task live.  `C` is the handle by which the machine finds them again;
the kernel never looks inside it. -/
inductive Context (C : Type) where
  /-- Never activated, or ended: there is nothing to resume. -/
  | dormant
  /-- Primed by an activation and not yet run. -/
  | primed (handle : C)
  /-- The registers are live on the CPU. -/
  | onCpu
  /-- Switched away from; the handle restores the registers. -/
  | saved (handle : C)
deriving DecidableEq, Repr, Inhabited

/-- What a task runs and on which stack. -/
structure TaskImage where
  entry : Entry
  argument : Int32
  stack : Stack
deriving DecidableEq, Repr, Inhabited

/-- Description of a task, from which a slot is filled. -/
structure TaskSpec where
  priority : Priority
  image : TaskImage
  /-- Activate the task when the kernel boots. -/
  autostart : Bool := false
deriving DecidableEq, Repr, Inhabited

/-- One slot of the task table. -/
structure Task (C : Type) where
  id : TaskId
  state : TaskState
  /-- Current priority, more urgent than the base while resources are held. -/
  priority : Priority
  basePriority : Priority
  /-- Events that the task is blocked on; none unless it waits for events. -/
  eventWait : EventMask
  /-- Events delivered to the task and not yet cleared. -/
  eventFlags : EventMask
  context : Context C
  /-- Absent in a slot that was never declared. -/
  image : Option TaskImage
deriving DecidableEq, Repr

/-- How a machine prepares a stack so that resuming the handle it returns starts the entry with
the argument. -/
abbrev Primer (C : Type) := Stack → Entry → Int32 → Stack × C

namespace Task

variable {C : Type}

/-- A slot that holds no task. -/
def vacant (id : TaskId) : Task C :=
  { id
    state := .free
    priority := leastUrgent
    basePriority := leastUrgent
    eventWait := 0
    eventFlags := 0
    context := .dormant
    image := none }

instance : Inhabited (Task C) := ⟨vacant idleTask⟩

/-- Fill the slot from a description.  The task starts suspended. -/
def declare (spec : TaskSpec) (task : Task C) : Task C :=
  { task with
    state := .suspended
    priority := spec.priority
    basePriority := spec.priority
    eventWait := 0
    eventFlags := 0
    context := .dormant
    image := some spec.image }

/-- Make a suspended task ready at its base priority, with no events and a freshly primed stack.
An active task is refused as such, and a slot without a task as unknown. -/
def activate (prime : Primer C) (task : Task C) : Except Refusal (Task C) :=
  match task.state, task.image with
  | .suspended, some image =>
      let primed := prime image.stack image.entry image.argument
      .ok
        { task with
          state := .ready
          priority := task.basePriority
          eventWait := 0
          eventFlags := 0
          context := .primed primed.2
          image := some { image with stack := primed.1 } }
  | .suspended, none => .error .unknownId
  | .free, _ => .error .unknownId
  | _, _ => .error .alreadyActive

/-- Suspend the task, whatever its state.  Its registers are dropped even when they are live, since
nothing will resume them; what it owns is the caller's to release. -/
def terminate (task : Task C) : Task C :=
  { task with
    state := .suspended
    priority := task.basePriority
    eventWait := 0
    eventFlags := 0
    context := .dormant }

/-- The task competes for the CPU. -/
def isRunnable (task : Task C) : Bool := task.state.isRunnable

/-- A running task gives up its mark and competes again. -/
def demote (task : Task C) : Task C :=
  if task.state = .running then { task with state := .ready } else task

end Task

end Rtos
