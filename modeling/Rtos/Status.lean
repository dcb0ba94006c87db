/-
Module: Rtos.Status
Purpose: The reasons for which the kernel refuses a request, and the status word by which each
  reason, or success, is told to the caller.
Main definitions: Refusal, Refusal.code, Refusal.ofCode?, Refusal.message, checkStatus
Main statements: `Refusal.ofCode?_code`, a reason is read back from its status word.
-/

namespace Rtos

/-- Why a request was refused. -/
inductive Refusal where
  /-- An id outside its table, or a task slot that was never declared. -/
  | unknownId
  /-- The task to activate is already ready, running or waiting. -/
  | alreadyActive
  /-- The caller is not entitled to the operation. -/
  | notPermitted
  /-- The resource is not owned by the caller. -/
  | notOwner
  /-- The events of a suspended task, or an alarm in the wrong state. -/
  | wrongState
  /-- An argument outside the range that the object allows. -/
  | badValue
  /-- A table is full, or no stack memory is left. -/
  | exhausted
deriving DecidableEq, Repr, Inhabited

/-- Status word of a call that succeeded at once. -/
def statusOk : Nat := 0

/-- Status word of a resource request that had to wait before it was granted. -/
def statusBlocked : Nat := 1

namespace Refusal

/-- The status word of a refused call. -/
def code : Refusal → Nat
  | unknownId => 3
  | alreadyActive => 4
  | notPermitted => 5
  | notOwner => 6
  | wrongState => 7
  | badValue => 8
  | exhausted => 9

/-- The reason that a status word stands for; a word of success, or one never used, has none. -/
def ofCode? : Nat → Option Refusal
  | 3 => some unknownId
  | 4 => some alreadyActive
  | 5 => some notPermitted
  | 6 => some notOwner
  | 7 => some wrongState
  | 8 => some badValue
  | 9 => some exhausted
  | _ => none

/-- The wording of a reason in log records. -/
def message : Refusal → String
  | unknownId => "invalid object id"
  | alreadyActive => "task already activated"
  | notPermitted => "operation not permitted"
  | notOwner => "resource not owned by caller"
  | wrongState => "object in wrong state"
  | badValue => "value out of range"
  | exhausted => "kernel table or stack memory exhausted"

/-- Every reason is read back from its status word. -/
@[simp] theorem ofCode?_code (reason : Refusal) : ofCode? reason.code = some reason := by
  cases reason <;> rfl

end Refusal

/-- What a caller makes of a status word: the reason of a refusal, or the word itself. -/
def checkStatus (status : Nat) : Except Refusal Nat :=
  match Refusal.ofCode? status with
  | some reason => .error reason
  | none => .ok status

end Rtos
