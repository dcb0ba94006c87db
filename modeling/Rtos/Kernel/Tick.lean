/-
Module: Rtos.Kernel.Tick
Purpose: The timer interrupt: expire the alarms that are due, do what they ask for, and advance the
  counters.
Main definitions: Kernel.runHandler, Kernel.runAlarm, Kernel.tick
-/
import Rtos.Kernel.Services

namespace Rtos.Kernel

variable {C : Type} [Machine C]

/-- Run the code of a callback, to its end whatever the services answer. -/
def runHandler (tag : Nat) : Handler → Action (Kernel C) Unit
  | .done => pure ()
  | .call request next => do
      let result ← Action.attempt (serve request)
      Action.emit (.answered tag result)
      runHandler tag (next result)
  | .note severity message next => do
      Action.log (.noted severity message)
      runHandler tag next

/-- Do what an expired alarm asks for.  A service that is refused is logged and dropped. -/
def runAlarm : AlarmAction → Action (Kernel C) Unit
  | .service request => do
      match ← Action.attempt (serve request) with
      | .ok () => pure ()
      | .error reason => Action.log (.alarmRefused request reason)
  | .callback code => do
      Action.emit (.entered code.tag)
      runHandler code.tag code.body

/-- Do what the expired alarms ask for, in turn. -/
def runAlarms : List AlarmAction → Action (Kernel C) Unit
  | [] => pure ()
  | action :: rest => do
      runAlarm action
      runAlarms rest

/-- One timer interrupt.  It never fails. -/
def tick : Action (Kernel C) Unit := do
  let due ← onAlarms AlarmTable.expire
  runAlarms due
  onAlarms (Action.modify AlarmTable.advance)

end Rtos.Kernel
