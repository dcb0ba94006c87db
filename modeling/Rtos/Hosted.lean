/-
Module: Rtos.Hosted
Purpose: The kernel without a processor.  There are no registers to swap: a context is the index of a
  frame in a task's stack, and a switch happens when it is called for.
Main definitions: Hosted, Hosted.launch, Hosted.dispatchPending
-/
import Rtos.Kernel.Tick
import Rtos.Trap

namespace Rtos

/-- Index of a saved frame, or whatever else was handed in as one. -/
structure FrameIndex where
  index : Nat
deriving DecidableEq, Repr, Inhabited

instance : Machine FrameIndex := ⟨FrameIndex.mk⟩

/-- A kernel in an ordinary process. -/
structure Hosted where
  kernel : Kernel FrameIndex
  /-- What the last switch restored; nothing before the first. -/
  onCpu : Option FrameIndex := none

namespace Hosted

/-- Bytes of console text that are kept. -/
def consoleBytes : Nat := 256

/-- The console of a kernel that boots. -/
def console : Console := { capacity := some consoleBytes }

/-- Handed in as the outgoing context of the first switch, when nothing runs yet. -/
def noContext : FrameIndex := ⟨0xFFFFFFFFFFFFFFFF⟩

/-- Boot a kernel.  Nothing runs before it is launched. -/
def boot (config : Configuration) : Except Refusal (Hosted × Trace) := do
  let (kernel, seen) ← Kernel.boot config console
  pure ({ kernel }, seen)

/-- Perform a kernel operation. -/
def onKernel {α : Type} (action : Action (Kernel FrameIndex) α) : Action Hosted α :=
  Action.within Hosted.kernel (fun kernel host => { host with kernel }) action

/-- Carry out the switch that was asked for, if any.  The answer tells whether there was one. -/
def dispatchPending : Action Hosted Bool := do
  let outgoing := (← Action.get).onCpu.getD noContext
  match ← onKernel (Kernel.commitPending outgoing) with
  | some restored =>
      Action.modify fun host => { host with onCpu := some restored }
      pure true
  | none => pure false

/-- Let the first task run. -/
def launch : Action Hosted Unit := do
  onKernel (Action.modify Kernel.requestSwitch)
  let _ ← dispatchPending

end Hosted

end Rtos
