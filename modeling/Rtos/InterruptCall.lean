/-
Module: Rtos.InterruptCall
Purpose: The kernel services open to interrupt handlers and alarms.  Neither of them blocks.
Main definitions: InterruptCall
-/
import Rtos.Task

namespace Rtos

/-- A service that interrupt handlers and alarms may ask for. -/
inductive InterruptCall where
  /-- Make a suspended task ready. -/
  | activateTask (target : TaskId)
  /-- Deliver events to an active task. -/
  | setEvent (target : TaskId) (mask : EventMask)
deriving DecidableEq, Repr, Inhabited

namespace InterruptCall

/-- The task that the call acts on. -/
def target : InterruptCall → TaskId
  | activateTask target => target
  | setEvent target _ => target

end InterruptCall

end Rtos
