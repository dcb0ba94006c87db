/-
Module: Rtos.Board
Purpose: The kernel on a microcontroller board.  Traps, switches and timer ticks are exceptions that
  reach the kernel through a shared cell; an exception that finds the kernel at work already cannot
  use it.
Main definitions: StackPointer, Signal, Board, Board.start, Board.pendSv, Board.sysTick,
  Board.svcEntry, Board.svc, Board.call
-/
import Rtos.Cell
import Rtos.Kernel.Tick
import Rtos.Trap.Stub

namespace Rtos

/-- The process stack pointer of a task that is not on the CPU. -/
inductive StackPointer where
  /-- At a frame laid out by priming, by its index in the task's stack. -/
  | frame (index : Nat)
  /-- At registers pushed by the switch with this serial number. -/
  | pushed (serial : Nat)
deriving DecidableEq, Repr, Inhabited

instance : Machine StackPointer := ⟨StackPointer.frame⟩

/-- Core clock of the board in Hz. -/
def systemClockHz : Nat := 50000000

/-- Timer interrupts per second. -/
def tickHz : Nat := 100

/-- What starting the kernel does to the processor and its timer. -/
inductive Signal where
  | disableInterrupts
  | switchPriority (level : Nat)
  | tickPriority (level : Nat)
  | timerReload (value : Nat)
  | timerClear
  | timerCoreClock
  | timerEnable
  | timerInterrupt
  | setStackPointer
  | enableInterrupts
deriving DecidableEq, Repr, Inhabited

namespace Signal

/-- The name of a signal in reports. -/
def label : Signal → String
  | disableInterrupts => "cpsid"
  | switchPriority level => s!"priority PendSV {level}"
  | tickPriority level => s!"priority SysTick {level}"
  | timerReload value => s!"reload {value}"
  | timerClear => "clear_current"
  | timerCoreClock => "clock Core"
  | timerEnable => "enable_counter"
  | timerInterrupt => "enable_interrupt"
  | setStackPointer => "psp"
  | enableInterrupts => "cpsie"

/-- The signals of a start that succeeds: switch and tick get the lowest priority, so that neither
preempts another handler, and the timer interrupts at the rate of `tickHz`. -/
def startSequence : List Signal :=
  [disableInterrupts, switchPriority 255, tickPriority 255,
    timerReload (systemClockHz / tickHz - 1), timerClear, timerCoreClock, timerEnable,
    timerInterrupt, setStackPointer, enableInterrupts]

end Signal

/-- A board with a running kernel. -/
structure Board where
  cell : Cell (Kernel StackPointer)
  /-- The process stack pointer that the last switch left. -/
  psp : StackPointer
  /-- Switches so far. -/
  switches : Nat := 0
deriving Inhabited

namespace Board

variable {α : Type}

/-- The console of a board has no limit. -/
def console : Console := { capacity := none }

/-- The kernel, whether or not a handler is at work on it. -/
def kernel? (board : Board) : Option (Kernel StackPointer) := board.cell.contents

/-- Start a kernel: point the stack pointer at the frame of the idle task, so that the first switch
has a harmless place to push to, and ask for that switch.  An idle task that is not primed leaves
the board halted, with interrupts off. -/
def start (kernel : Kernel StackPointer) : List Signal × Option Board :=
  match (kernel.sched.slot idleTask).context with
  | .primed psp =>
      (Signal.startSequence, some { cell := { contents := some kernel.requestSwitch }, psp })
  | _ => ([.disableInterrupts], none)

/-- Work on the kernel from an exception handler.  There is no answer if it is being worked on. -/
def withKernel (action : Action (Kernel StackPointer) α) : Action Board (Option α) := fun board =>
  match board.cell.borrow? with
  | some (kernel, held) =>
      let done := action kernel
      ⟨done.result.map some, { board with cell := held.restore done.state }, done.trace⟩
  | none => ⟨.ok none, board, []⟩

/-- The serial number of the first switch is one above this. -/
def serialBase : Nat := 1000

/-- The switch exception, if one is pending: the registers of the outgoing task are pushed, and the
stack pointer moves to those of the task that the kernel selected. -/
def pendSv : Action Board Unit := do
  let outgoing := StackPointer.pushed (serialBase + (← Action.get).switches + 1)
  match ← withKernel (Kernel.commitPending outgoing) with
  | some (some psp) => Action.modify fun board =>
      { board with psp, switches := board.switches + 1 }
  | _ => pure ()

/-- The timer exception.  A tick that cannot use the kernel is lost. -/
def sysTick : Action Board Unit := do
  let _ ← withKernel Kernel.tick

/-- A device interrupt that asks for a service and ignores the answer. -/
def interrupt (request : InterruptCall) : Action Board Unit := do
  let _ ← withKernel (Action.attempt (Kernel.serve request))

/-- Write words into the stack of a task, as the processor and the trap handler do. -/
def storeInStack (task : TaskId) (position : Nat) (words : List Word) (board : Board) : Board :=
  let store (tcb : Task StackPointer) : Task StackPointer :=
    { tcb with image := tcb.image.map fun image =>
        { image with stack := image.stack.store position words } }
  let update (kernel : Kernel StackPointer) : Kernel StackPointer :=
    { kernel with core := kernel.core.modifyTask task store }
  { board with cell := { board.cell with contents := board.cell.contents.map update } }

/-- The task whose code runs. -/
def current (board : Board) : TaskId :=
  match board.kernel? with
  | some kernel => kernel.current
  | none => idleTask

/-- The trap handler.  The caller's exception frame, which holds the argument words, begins at
`position` of its own stack; the reply is stored over those words.  A trap that cannot use the
kernel is not permitted. -/
def svcEntry (position : Nat) (memory : Memory) (number : Nat) (words : Registers) :
    Action Board Registers := do
  let caller := (← Action.get).current
  let handled ← withKernel (Kernel.handleTrap memory number words)
  let reply := handled.getD (Reply.resultRegisters (.error .notPermitted))
  Action.modify (storeInStack caller position reply.toList)
  pure reply

/-- The words that the hardware stacks at an exception: R0 to R3, then R12, LR, PC and xPSR.  The
kernel looks at none of the latter, and they are taken to be those of a task at address zero. -/
def exceptionFrame (words : Registers) : List Word :=
  words.toList ++ [0, 0, 0, initialXpsr]

/-- Where the exception frame of the running task begins in its stack: below the place of an
initial frame. -/
def trapPosition (board : Board) : Nat :=
  match board.kernel? with
  | some kernel =>
      match kernel.sched.currentTask.image with
      | some image => image.stack.size - frameWords - (exceptionFrame {}).length
      | none => 0
  | none => 0

/-- A trap instruction of the running task: the exception frame is stacked, and the handler runs. -/
def trap (memory : Memory) (number : Nat) (words : Registers) : Action Board Registers := do
  let board ← Action.get
  let position := board.trapPosition
  Action.modify (storeInStack board.current position (exceptionFrame words))
  svcEntry position memory number words

/-- A trap instruction, and the switch that it made pending. -/
def svc (memory : Memory) (number : Nat) (words : Registers) : Action Board Registers := do
  let reply ← trap memory number words
  pendSv
  pure reply

/-- A service called by the running task. -/
def call (stub : Stub α) : Action Board α := do
  let reply ← svc stub.memory stub.service.number stub.words
  Action.ofExcept (stub.read reply)

/-- Timer ticks, each with the switch that it made pending. -/
def ticks : Nat → Action Board Unit
  | 0 => pure ()
  | n + 1 => do
      sysTick
      pendSv
      ticks n

/-- Perform exceptions while a handler is at work on the kernel. -/
def whileBusy (action : Action Board α) : Action Board α := fun board =>
  let done := action { board with cell := { board.cell with borrowed := true } }
  ⟨done.result,
    { done.state with cell := { done.state.cell with borrowed := board.cell.borrowed } },
    done.trace⟩

end Board

end Rtos
