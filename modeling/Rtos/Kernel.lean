/-
Module: Rtos.Kernel
Purpose: The state of the kernel, and how it boots from a configuration.
Main definitions: Machine, Kernel, Kernel.boot, Kernel.reschedule, Kernel.switchContext
-/
import Rtos.Configuration
import Rtos.Console
import Rtos.Events
import Rtos.StackSource

namespace Rtos

/-- What the kernel asks of a machine whose context handles are of type `C`: a handle that resumes
a task from the frame at a given index of its stack. -/
class Machine (C : Type) where
  atFrame : Nat → C

/-- Prepare a stack for a fresh start: lay an initial frame at its top, and resume from there. -/
def Machine.prime {C : Type} [Machine C] : Primer C := fun stack entry argument =>
  let (primed, start) := stack.prime entry argument
  (primed, Machine.atFrame start)

/-- The state of the kernel. -/
structure Kernel (C : Type) where
  /-- The tasks, and the resources that they share. -/
  core : Core C := {}
  alarms : AlarmTable := {}
  /-- Requests to the machine for a context switch. -/
  line : SwitchLine := {}
  /-- The console of the machine. -/
  console : Console
  /-- Where stacks of tasks declared at run time come from; without it there are none. -/
  heap : Option StackSource := none

namespace Kernel

variable {C : Type} {α : Type}

/-- The scheduler. -/
def sched (kernel : Kernel C) : Scheduler C := kernel.core.sched

/-- The task on the CPU. -/
def current (kernel : Kernel C) : TaskId := kernel.sched.current

/-- Perform an operation on tasks and resources alone. -/
def onCore (action : Action (Core C) α) : Action (Kernel C) α :=
  Action.within Kernel.core (fun core kernel => { kernel with core }) action

/-- Perform an operation on the scheduler alone. -/
def onScheduler (action : Action (Scheduler C) α) : Action (Kernel C) α :=
  onCore (Core.onScheduler action)

/-- Perform an operation on the alarms alone. -/
def onAlarms (action : Action AlarmTable α) : Action (Kernel C) α :=
  Action.within Kernel.alarms (fun alarms kernel => { kernel with alarms }) action

/-- Replace the alarm table, or refuse. -/
def updateAlarms (f : AlarmTable → Except Refusal AlarmTable) : Action (Kernel C) Unit := do
  let kernel ← Action.get
  let alarms ← Action.ofExcept (f kernel.alarms)
  Action.modify fun kernel => { kernel with alarms }

/-- Ask the machine for a context switch. -/
def requestSwitch (kernel : Kernel C) : Kernel C := { kernel with line := kernel.line.request }

/-- Install the source of stacks for tasks declared at run time. -/
def setHeap (heap : StackSource) (kernel : Kernel C) : Kernel C := { kernel with heap := some heap }

/-- Decide which task runs next, and ask for a switch if the decision needs one. -/
def reschedule : Action (Kernel C) Unit := do
  if ← onScheduler Scheduler.reschedule then
    Action.modify requestSwitch

/-- Commit the latest decision.  The machine hands in the registers of the task that leaves the CPU
and gets back those to restore. -/
def switchContext (outgoing : C) : Action (Kernel C) C :=
  onScheduler (Scheduler.switchContext outgoing)

/-- Commit the latest decision if a switch was asked for. -/
def commitPending (outgoing : C) : Action (Kernel C) (Option C) := do
  if (← Action.get).line.pending then
    Action.modify fun kernel => { kernel with line := kernel.line.take }
    let restored ← switchContext outgoing
    pure (some restored)
  else pure none

/-- Fill the slots from `first` on.  Every stack must have room for a frame and to run. -/
def declareAll (sched : Scheduler C) (first : TaskId) :
    List TaskSpec → Except Refusal (Scheduler C)
  | [] => .ok sched
  | spec :: rest =>
      if spec.image.stack.size < minStackWords then .error .badValue
      else if maxTasks ≤ first then .error .exhausted
      else declareAll (sched.modify first (Task.declare spec)) (first + 1) rest

/-- The tasks that a booting kernel activates: the idle task, and those that ask for it. -/
def autostarted (tasks : List TaskSpec) : List TaskId :=
  (List.range tasks.length).filter fun id =>
    id = idleTask || match tasks[id]? with
      | some spec => spec.autostart
      | none => false

/-- Activate one task. -/
def activateIn [Machine C] (sched : Scheduler C) (id : TaskId) : Except Refusal (Scheduler C) := do
  let task ← sched.findTask id
  let task ← task.activate Machine.prime
  pure (sched.modify id fun _ => task)

/-- Build the kernel of a configuration.  The idle task and every autostart task are activated and
the first decision is taken, but no switch is asked for: that is for the machine to do when it
starts. -/
def boot [Machine C] (config : Configuration) (console : Console) :
    Except Refusal (Kernel C × Trace) := do
  let resources ← resourceTable config.ceilings
  let alarms ← AlarmTable.build config.counters config.alarms
  let declared ← declareAll {} 0 config.tasks
  let activated ← (autostarted config.tasks).foldlM activateIn declared
  let decision := Scheduler.reschedule activated
  let sched := decision.state
  let booted := Record.booted config.tasks.length resources.size alarms.alarms.size sched.selected
  pure ({ core := { sched, resources }, alarms, console }, decision.trace ++ [.logged booted])

end Kernel

end Rtos
