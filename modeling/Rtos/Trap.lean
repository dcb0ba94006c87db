/-
Module: Rtos.Trap
Purpose: The boundary between tasks and the kernel.  A task puts up to four words into R0 to R3 and
  traps with a service number; the reply comes back in the same registers, the status word first.
Main definitions: Service, Registers, Request, Request.decode, Reply, Reply.registers
Main statements: `Service.ofNumber?_number`, a service is read back from its number.
-/
import Rtos.Kernel.Services

namespace Rtos

/-- The services that a task can ask for. -/
inductive Service where
  | debug
  | declare
  | activateTask
  | terminateTask
  | chainTask
  | getTaskId
  | getTaskState
  | getResource
  | releaseResource
  | setEvent
  | clearEvent
  | getEvent
  | waitEvent
  | getAlarmBase
  | getAlarm
  | setRelAlarm
  | setAbsAlarm
  | cancelAlarm
deriving DecidableEq, Repr, Inhabited

namespace Service

/-- All services, in the order of their numbers. -/
def all : List Service :=
  [debug, declare, activateTask, terminateTask, chainTask, getTaskId, getTaskState, getResource,
    releaseResource, setEvent, clearEvent, getEvent, waitEvent, getAlarmBase, getAlarm, setRelAlarm,
    setAbsAlarm, cancelAlarm]

/-- The number by which a task asks for a service. -/
def number (service : Service) : Nat := all.idxOf service

/-- The service with this number. -/
def ofNumber? (number : Nat) : Option Service := all[number]?

@[simp] theorem ofNumber?_number (service : Service) : ofNumber? service.number = some service := by
  cases service <;> rfl

end Service

/-- The argument and result registers R0 to R3. -/
structure Registers where
  r0 : Word := 0
  r1 : Word := 0
  r2 : Word := 0
  r3 : Word := 0
deriving DecidableEq, Repr, Inhabited

namespace Registers

/-- The registers as a list, R0 first. -/
def toList (words : Registers) : List Word := [words.r0, words.r1, words.r2, words.r3]

end Registers

/-- The bytes that a task can show to the kernel, by address and length. -/
abbrev Memory := (address length : Word) → ByteArray

/-- What a task asks for, with its arguments. -/
inductive Request where
  | debug (message : String)
  | declare (entry : Entry) (priority : Priority) (stackWords : Nat) (argument : Int32)
  | activateTask (task : TaskId)
  | terminateTask
  | chainTask (task : TaskId)
  | getTaskId
  | getTaskState (task : TaskId)
  | getResource (resource : ResourceId)
  | releaseResource (resource : ResourceId)
  | setEvent (task : TaskId) (mask : EventMask)
  | clearEvent (mask : EventMask)
  | getEvent (task : TaskId)
  | waitEvent (mask : EventMask)
  | getAlarmBase (alarm : AlarmId)
  | getAlarm (alarm : AlarmId)
  | setRelAlarm (alarm : AlarmId) (increment cycle : Tick)
  | setAbsAlarm (alarm : AlarmId) (start cycle : Tick)
  | cancelAlarm (alarm : AlarmId)
deriving DecidableEq, Repr, Inhabited

namespace Request

/-- The service that is asked for. -/
def service : Request → Service
  | debug .. => .debug
  | declare .. => .declare
  | activateTask .. => .activateTask
  | terminateTask => .terminateTask
  | chainTask .. => .chainTask
  | getTaskId => .getTaskId
  | getTaskState .. => .getTaskState
  | getResource .. => .getResource
  | releaseResource .. => .releaseResource
  | setEvent .. => .setEvent
  | clearEvent .. => .clearEvent
  | getEvent .. => .getEvent
  | waitEvent .. => .waitEvent
  | getAlarmBase .. => .getAlarmBase
  | getAlarm .. => .getAlarm
  | setRelAlarm .. => .setRelAlarm
  | setAbsAlarm .. => .setAbsAlarm
  | cancelAlarm .. => .cancelAlarm

/-- A message to print: not at address zero, and well-formed UTF-8. -/
def decodeMessage (memory : Memory) (address length : Word) : Except Refusal Request :=
  if address = 0 then .error .badValue
  else
    match String.fromUTF8? (memory address length) with
    | some message => .ok (debug message)
    | none => .error .badValue

/-- A task to declare: its entry is not address zero, and its priority is in range.  The stack size
is a full word, and the argument is the low half of its register. -/
def decodeDeclare (words : Registers) : Except Refusal Request :=
  if words.r0 = 0 then .error .badValue
  else if leastUrgent < words.r1.toNat then .error .badValue
  else .ok (declare words.r0 words.r1.toNat words.r2.toNat words.r3.toUInt32.toInt32)

/-- Read a request from its service number and the argument registers.  Ids take the whole word;
event masks, delays and cycles the low half.  An unknown number is not permitted. -/
def decode (memory : Memory) (number : Nat) (words : Registers) : Except Refusal Request :=
  match Service.ofNumber? number with
  | none => .error .notPermitted
  | some .debug => decodeMessage memory words.r0 words.r1
  | some .declare => decodeDeclare words
  | some .activateTask => .ok (activateTask words.r0.toNat)
  | some .terminateTask => .ok terminateTask
  | some .chainTask => .ok (chainTask words.r0.toNat)
  | some .getTaskId => .ok getTaskId
  | some .getTaskState => .ok (getTaskState words.r0.toNat)
  | some .getResource => .ok (getResource words.r0.toNat)
  | some .releaseResource => .ok (releaseResource words.r0.toNat)
  | some .setEvent => .ok (setEvent words.r0.toNat words.r1.toUInt32)
  | some .clearEvent => .ok (clearEvent words.r0.toUInt32)
  | some .getEvent => .ok (getEvent words.r0.toNat)
  | some .waitEvent => .ok (waitEvent words.r0.toUInt32)
  | some .getAlarmBase => .ok (getAlarmBase words.r0.toNat)
  | some .getAlarm => .ok (getAlarm words.r0.toNat)
  | some .setRelAlarm =>
      .ok (setRelAlarm words.r0.toNat words.r1.toUInt32 words.r2.toUInt32)
  | some .setAbsAlarm =>
      .ok (setAbsAlarm words.r0.toNat words.r1.toUInt32 words.r2.toUInt32)
  | some .cancelAlarm => .ok (cancelAlarm words.r0.toNat)

end Request

/-- The answer to a request that was not refused. -/
inductive Reply where
  | done
  | acquired (outcome : Acquisition)
  | task (id : TaskId)
  | state (found : TaskState)
  | events (mask : EventMask)
  | ticks (count : Tick)
  | alarmBase (base : AlarmBase)
deriving DecidableEq, Repr, Inhabited

namespace Reply

/-- A status word. -/
def status (code : Nat) : Word := UInt64.ofNat code

/-- The registers that tell a reply: the status word, then the words of the result. -/
def registers : Reply → Registers
  | done => { r0 := status statusOk }
  | acquired .granted => { r0 := status statusOk }
  | acquired .blocked => { r0 := status statusBlocked }
  | task id => { r0 := status statusOk, r1 := UInt64.ofNat id }
  | state found => { r0 := status statusOk, r1 := UInt64.ofNat found.word }
  | events mask => { r0 := status statusOk, r1 := mask.toUInt64 }
  | ticks count => { r0 := status statusOk, r1 := count.toUInt64 }
  | alarmBase base =>
      { r0 := status statusOk
        r1 := base.maxAllowedValue.toUInt64
        r2 := base.ticksPerBase.toUInt64
        r3 := base.minCycle.toUInt64 }

/-- The registers that tell how a request ended. -/
def resultRegisters : Except Refusal Reply → Registers
  | .ok reply => reply.registers
  | .error reason => { r0 := status reason.code }

end Reply

namespace Kernel

variable {C : Type} [Machine C]

/-- Perform a request on behalf of the calling task. -/
def perform : Request → Action (Kernel C) Reply
  | .debug message => do print message; pure .done
  | .declare entry priority stackWords argument => do
      pure (.task (← declare entry priority stackWords argument))
  | .activateTask task => do activateTask task; pure .done
  | .terminateTask => do terminateTask; pure .done
  | .chainTask task => do chainTask task; pure .done
  | .getTaskId => do pure (.task (← taskId))
  | .getTaskState task => do pure (.state (← taskState task))
  | .getResource resource => do pure (.acquired (← getResource resource))
  | .releaseResource resource => do releaseResource resource; pure .done
  | .setEvent task mask => do setEvent task mask; pure .done
  | .clearEvent mask => do clearEvent mask; pure .done
  | .getEvent task => do pure (.events (← getEvent task))
  | .waitEvent mask => do waitEvent mask; pure .done
  | .getAlarmBase alarm => do pure (.alarmBase (← alarmBase alarm))
  | .getAlarm alarm => do pure (.ticks (← getAlarm alarm))
  | .setRelAlarm alarm increment cycle => do setRelativeAlarm alarm increment cycle; pure .done
  | .setAbsAlarm alarm start cycle => do setAbsoluteAlarm alarm start cycle; pure .done
  | .cancelAlarm alarm => do cancelAlarm alarm; pure .done

/-- Read a request from the registers of a trap and perform it. -/
def performTrap (memory : Memory) (number : Nat) (words : Registers) : Action (Kernel C) Reply := do
  perform (← Action.ofExcept (Request.decode memory number words))

/-- A trap, from the registers at its entry to those at its return. -/
def handleTrap (memory : Memory) (number : Nat) (words : Registers) :
    Action (Kernel C) Registers := do
  pure (Reply.resultRegisters (← Action.attempt (performTrap memory number words)))

end Kernel

end Rtos
