/-
Module: Rtos.Trap.Stub
Purpose: The task side of the trap boundary.  A stub loads the argument registers of a service and
  turns the registers of the reply back into a typed result.
Main definitions: Stub, Stub.trap, and one stub for each service
-/
import Rtos.Trap

namespace Rtos

/-- A service as a task calls it: what is loaded, what memory is shown, and how the reply is read. -/
structure Stub (α : Type) where
  service : Service
  words : Registers := {}
  memory : Memory := fun _ _ => ByteArray.empty
  read : Registers → Except Refusal α

namespace Stub

/-- The status word of a reply, or the reason for which the call was refused. -/
def readStatus (words : Registers) : Except Refusal Nat := checkStatus words.r0.toNat

/-- A reply without a value. -/
def readDone (words : Registers) : Except Refusal Unit := do
  let _ ← readStatus words

/-- A reply whose value is one word. -/
def readWord {α : Type} (value : Word → α) (words : Registers) : Except Refusal α := do
  let _ ← readStatus words
  pure (value words.r1)

/-- A reply whose value is the state of a task. -/
def readState (words : Registers) : Except Refusal TaskState := do
  let _ ← readStatus words
  match TaskState.ofWord? words.r1.toNat with
  | some state => pure state
  | none => throw .badValue

/-- A reply whose status tells whether the caller had to wait. -/
def readAcquisition (words : Registers) : Except Refusal Acquisition := do
  if (← readStatus words) = statusBlocked then pure .blocked else pure .granted

/-- A reply whose value is the characteristics of a counter. -/
def readBase (words : Registers) : Except Refusal AlarmBase := do
  let _ ← readStatus words
  pure
    { maxAllowedValue := words.r1.toUInt32
      ticksPerBase := words.r2.toUInt32
      minCycle := words.r3.toUInt32 }

/-- Where the text of a message lies while its task shows it to the kernel. -/
def messageAddress : Word := 0x2000

/-- Print a message on the console. -/
def debug (message : String) : Stub Unit where
  service := .debug
  words := { r0 := messageAddress, r1 := UInt64.ofNat message.utf8ByteSize }
  memory _ length := message.toUTF8.extract 0 length.toNat
  read := readDone

/-- Declare a task with a stack from the kernel's source of stacks. -/
def declare (entry : Entry) (priority : UInt8) (stackWords : Word) (argument : Int32) :
    Stub TaskId where
  service := .declare
  words :=
    { r0 := entry, r1 := priority.toUInt64, r2 := stackWords
      r3 := argument.toInt64.toUInt64 }
  read := readWord UInt64.toNat

/-- Make a suspended task ready. -/
def activateTask (task : Word) : Stub Unit where
  service := .activateTask
  words := { r0 := task }
  read := readDone

/-- End the calling task. -/
def terminateTask : Stub Unit where
  service := .terminateTask
  read := readDone

/-- End the calling task and activate another. -/
def chainTask (task : Word) : Stub Unit where
  service := .chainTask
  words := { r0 := task }
  read := readDone

/-- The calling task. -/
def getTaskId : Stub TaskId where
  service := .getTaskId
  read := readWord UInt64.toNat

/-- The state of a task. -/
def getTaskState (task : Word) : Stub TaskState where
  service := .getTaskState
  words := { r0 := task }
  read := readState

/-- Take a resource.  Either way the caller owns it by the time it runs on. -/
def getResource (resource : Word) : Stub Acquisition where
  service := .getResource
  words := { r0 := resource }
  read := readAcquisition

/-- Give up a resource. -/
def releaseResource (resource : Word) : Stub Unit where
  service := .releaseResource
  words := { r0 := resource }
  read := readDone

/-- Deliver events to a task. -/
def setEvent (task : Word) (mask : EventMask) : Stub Unit where
  service := .setEvent
  words := { r0 := task, r1 := mask.toUInt64 }
  read := readDone

/-- Remove events from those delivered to the calling task. -/
def clearEvent (mask : EventMask) : Stub Unit where
  service := .clearEvent
  words := { r0 := mask.toUInt64 }
  read := readDone

/-- The events delivered to a task. -/
def getEvent (task : Word) : Stub EventMask where
  service := .getEvent
  words := { r0 := task }
  read := readWord UInt64.toUInt32

/-- Block until one of these events is delivered to the calling task. -/
def waitEvent (mask : EventMask) : Stub Unit where
  service := .waitEvent
  words := { r0 := mask.toUInt64 }
  read := readDone

/-- Characteristics of the counter of an alarm. -/
def getAlarmBase (alarm : Word) : Stub AlarmBase where
  service := .getAlarmBase
  words := { r0 := alarm }
  read := readBase

/-- Timer ticks since an armed alarm last expired or was armed. -/
def getAlarm (alarm : Word) : Stub Tick where
  service := .getAlarm
  words := { r0 := alarm }
  read := readWord UInt64.toUInt32

/-- Arm an alarm by a delay. -/
def setRelAlarm (alarm : Word) (increment cycle : Tick) : Stub Unit where
  service := .setRelAlarm
  words := { r0 := alarm, r1 := increment.toUInt64, r2 := cycle.toUInt64 }
  read := readDone

/-- Arm an alarm by a count. -/
def setAbsAlarm (alarm : Word) (start cycle : Tick) : Stub Unit where
  service := .setAbsAlarm
  words := { r0 := alarm, r1 := start.toUInt64, r2 := cycle.toUInt64 }
  read := readDone

/-- Disarm an alarm. -/
def cancelAlarm (alarm : Word) : Stub Unit where
  service := .cancelAlarm
  words := { r0 := alarm }
  read := readDone

/-- A stub taken all the way: load, trap, and read the reply. -/
def trap {C α : Type} [Machine C] (stub : Stub α) : Action (Kernel C) α := do
  let words ← Kernel.handleTrap stub.memory stub.service.number stub.words
  Action.ofExcept (stub.read words)

end Stub

end Rtos
