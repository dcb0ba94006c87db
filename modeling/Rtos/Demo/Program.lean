/-
Module: Rtos.Demo.Program
Purpose: Code of tasks as a finite program: a task traps, looks at the reply, logs, uses a shared
  counter, and in the end spins for ever.
Main definitions: Program, Program.call
-/
import Rtos.Trap.Stub

namespace Rtos.Demo

/-- The code of a task from some point on. -/
inductive Program where
  /-- Execute a trap and go on with the registers of the reply. -/
  | trap (memory : Memory) (number : Nat) (words : Registers) (next : Registers → Program)
  /-- Write a log record. -/
  | log (severity : Severity) (message : String) (next : Program)
  /-- Read the shared counter of rounds. -/
  | loadRounds (next : Nat → Program)
  /-- Set the shared counter of rounds. -/
  | storeRounds (rounds : Nat) (next : Program)
  /-- Do nothing for ever. -/
  | spin

namespace Program

/-- Call a service through its stub, and go on with the typed result. -/
def call {α : Type} (stub : Stub α) (next : Except Refusal α → Program) : Program :=
  .trap stub.memory stub.service.number stub.words fun reply => next (stub.read reply)

/-- Call a service and ignore how it ends. -/
def call_ {α : Type} (stub : Stub α) (next : Program) : Program := call stub fun _ => next

end Program

end Rtos.Demo
