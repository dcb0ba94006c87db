/-
Module: Rtos.Kernel.Services
Purpose: The services that tasks ask of the kernel.  They act on behalf of the task on the CPU, and
  those that may change who should run take a scheduling decision before they answer.
Main definitions: Kernel.declare, Kernel.activateTask, Kernel.terminateTask, Kernel.chainTask,
  Kernel.getResource, Kernel.releaseResource, Kernel.setEvent, Kernel.waitEvent, Kernel.serve
-/
import Rtos.Kernel

namespace Rtos.Kernel

variable {C : Type}

/-! ### Tasks -/

/-- Ask the source of stacks for one. -/
def allocStack (words : Nat) : Action (Kernel C) Stack := do
  let heap ← Action.require .notPermitted (← Action.get).heap
  let (stack, heap) := heap.alloc words
  Action.modify fun kernel => { kernel with heap := some heap }
  Action.require .exhausted stack

/-- Give a vacant slot to a new, suspended task with a stack of its own. -/
def declare (entry : Entry) (priority : Priority) (stackWords : Nat) (argument : Int32) :
    Action (Kernel C) TaskId := do
  let kernel ← Action.get
  let _ ← Action.require .notPermitted kernel.heap
  let id ← Action.require .exhausted kernel.sched.freeSlot?
  let stack ← allocStack (max stackWords minStackWords)
  let spec : TaskSpec := { priority, image := { entry, argument, stack } }
  onCore (Action.modify (Core.modifyTask id (Task.declare spec)))
  Action.log (.declared id priority)
  pure id

/-- Change one declared task, or refuse. -/
def updateTask (id : TaskId) (f : Task C → Except Refusal (Task C)) : Action (Kernel C) Unit := do
  let task ← Action.ofExcept ((← Action.get).sched.findTask id)
  let task ← Action.ofExcept (f task)
  onCore (Action.modify (Core.modifyTask id fun _ => task))

/-- Make a suspended task ready from a freshly primed stack, without a decision. -/
def ready [Machine C] (id : TaskId) : Action (Kernel C) Unit :=
  updateTask id (Task.activate Machine.prime)

/-- Make a suspended task ready. -/
def activateTask [Machine C] (id : TaskId) : Action (Kernel C) Unit := do
  ready id
  Action.log (.activated id)
  reschedule

/-- End a task: release everything it owns, then suspend it. -/
def finish (id : TaskId) : Action (Kernel C) Unit := do
  onCore (Core.releaseAll id)
  updateTask id fun task => .ok task.terminate
  Action.log (.terminated id)

/-- The calling task, which must not be the idle task. -/
def callerToEnd : Action (Kernel C) TaskId := do
  let caller := (← Action.get).current
  if caller = idleTask then Action.refuse .notPermitted else pure caller

/-- End the calling task. -/
def terminateTask : Action (Kernel C) Unit := do
  let caller ← callerToEnd
  finish caller
  reschedule

/-- End the calling task and activate another in one step.  The calling task may name itself, and
so start afresh. -/
def chainTask [Machine C] (id : TaskId) : Action (Kernel C) Unit := do
  let caller ← callerToEnd
  let target ← Action.ofExcept ((← Action.get).sched.findTask id)
  if id ≠ caller ∧ target.state ≠ .suspended then Action.refuse .alreadyActive
  else
    finish caller
    ready id
    Action.log (.chained caller id)
    reschedule

/-- The calling task. -/
def taskId : Action (Kernel C) TaskId := do
  pure (← Action.get).current

/-- The state of a task, or of a vacant slot. -/
def taskState (id : TaskId) : Action (Kernel C) TaskState := do
  let task ← Action.ofExcept ((← Action.get).sched.findSlot id)
  pure task.state

/-! ### Resources -/

/-- Take a resource, or queue for it. -/
def getResource (id : ResourceId) : Action (Kernel C) Acquisition := do
  let caller := (← Action.get).current
  let outcome ← onCore (Core.acquire id caller)
  reschedule
  pure outcome

/-- Give up a resource. -/
def releaseResource (id : ResourceId) : Action (Kernel C) Unit := do
  let caller := (← Action.get).current
  let _ ← onCore (Core.release id caller)
  reschedule

/-! ### Events -/

/-- Deliver events to an active task. -/
def setEvent (id : TaskId) (mask : EventMask) : Action (Kernel C) Unit := do
  if ← onScheduler (Scheduler.setEvent id mask) then reschedule

/-- Remove events from those delivered to the calling task. -/
def clearEvent (mask : EventMask) : Action (Kernel C) Unit :=
  onScheduler (Action.modify (Scheduler.clearEvent mask))

/-- The events delivered to an active task. -/
def getEvent (id : TaskId) : Action (Kernel C) EventMask := do
  Action.ofExcept ((← Action.get).sched.eventsOf id)

/-- Block the calling task until one of these events is delivered. -/
def waitEvent (mask : EventMask) : Action (Kernel C) Unit := do
  if ← onScheduler (Scheduler.waitEvent mask) then reschedule

/-! ### Alarms -/

/-- Characteristics of the counter of an alarm. -/
def alarmBase (id : AlarmId) : Action (Kernel C) AlarmBase := do
  Action.ofExcept ((← Action.get).alarms.baseOf id)

/-- Timer ticks since an armed alarm last expired or was armed. -/
def getAlarm (id : AlarmId) : Action (Kernel C) Tick := do
  Action.ofExcept ((← Action.get).alarms.sinceLast id)

/-- Arm an alarm by a delay. -/
def setRelativeAlarm (id : AlarmId) (increment cycle : Tick) : Action (Kernel C) Unit :=
  updateAlarms (·.setRelative id increment cycle)

/-- Arm an alarm by a count. -/
def setAbsoluteAlarm (id : AlarmId) (start cycle : Tick) : Action (Kernel C) Unit :=
  updateAlarms (·.setAbsolute id start cycle)

/-- Disarm an alarm. -/
def cancelAlarm (id : AlarmId) : Action (Kernel C) Unit :=
  updateAlarms (·.cancel id)

/-! ### Console -/

/-- Print a message on the console for the calling task. -/
def print (message : String) : Action (Kernel C) Unit := do
  Action.log (.printed (← Action.get).current message)
  Action.modify fun kernel => { kernel with console := kernel.console.write message }

/-! ### Interrupts -/

/-- Answer an interrupt handler or an alarm. -/
def serve [Machine C] : InterruptCall → Action (Kernel C) Unit
  | .activateTask target => activateTask target
  | .setEvent target mask => setEvent target mask

end Rtos.Kernel
