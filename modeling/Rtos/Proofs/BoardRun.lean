/-
Module: Rtos.Proofs.BoardRun
Purpose: Runs of a board.  Exceptions come at any moment, the running task writes to its stack, and
  it traps from wherever its stack pointer is.
Main definitions: Board.Trap, Board.Event, Board.Run, Board.Running
Main statements: `Board.Running.after_handler`, `Board.Running.after_trap`
-/
import Rtos.Proofs.Frame

namespace Rtos

namespace Board

variable {α : Type} {config : Configuration} {board : Board} {kernel : Kernel StackPointer}

/-! ### Events -/

/-- The record of a task. -/
def task (board : Board) (id : TaskId) : Task StackPointer :=
  match board.kernel? with
  | some kernel => kernel.core.sched.slot id
  | none => .vacant id

/-- A switch has been asked for and not been carried out. -/
def pending (board : Board) : Bool :=
  match board.kernel? with
  | some kernel => kernel.line.pending
  | none => false

/-- A trap instruction of the running task. -/
structure Trap where
  /-- Where in its stack the exception frame begins. -/
  position : Nat
  memory : Memory := fun _ _ => ByteArray.empty
  number : Nat
  words : Registers
  /-- What the hardware stacks above the argument words. -/
  others : List Word := [0, 0, 0, initialXpsr]

/-- Words in an exception frame. -/
def exceptionWords : Nat := 8

/-- The exception frame is stacked, and the handler runs. -/
def Trap.perform (trap : Trap) : Action Board Registers := do
  Action.modify fun board =>
    storeInStack board.current trap.position (trap.words.toList ++ trap.others) board
  svcEntry trap.position trap.memory trap.number trap.words

/-- What happens on a board that has been started. -/
inductive Event where
  | switch
  | tick
  | interrupt (request : InterruptCall)
  /-- The running task writes to its own stack. -/
  | write (position : Nat) (words : List Word)
  /-- The running task traps. -/
  | trap (made : Trap)

namespace Event

def perform : Event → Action Board Unit
  | switch => pendSv
  | tick => sysTick
  | interrupt request => Board.interrupt request
  | write position words =>
      Action.modify fun board => storeInStack board.current position words board
  | trap made => do
      let _ ← made.perform

/-- The board after the event. -/
def after (event : Event) (board : Board) : Board := (event.perform.run board).state

/-- The event is the doing of the running task. -/
def isTask : Event → Bool
  | write .. | trap _ => true
  | switch | tick | interrupt _ => false

/-- A task runs only while no switch is pending, and its exception frames lie in its own stack. -/
def Admitted (board : Board) : Event → Prop
  | switch | tick | interrupt _ => True
  | write .. => board.pending = false
  | trap made => board.pending = false ∧
      ∀ image ∈ (board.task board.current).image, made.position + exceptionWords ≤ image.stack.size

instance (board : Board) : (event : Event) → Decidable (event.Admitted board)
  | switch | tick | interrupt _ => inferInstanceAs (Decidable True)
  | write .. => inferInstanceAs (Decidable (board.pending = false))
  | trap made => inferInstanceAs (Decidable (board.pending = false ∧
      ∀ image ∈ (board.task board.current).image,
        made.position + exceptionWords ≤ image.stack.size))

end Event

/-- What has happened on a board since it was started, latest first and each with the board before
it, and where that led. -/
inductive Run (config : Configuration) : List (Board × Event) → Board → Prop where
  | start {console : Console} {kernel : Kernel StackPointer} {seen : Trace} {signals : List Signal}
      {board : Board} (built : config.Built)
      (booted : Kernel.boot config console = .ok (kernel, seen)) (heap : Option StackSource)
      (started : Board.start { kernel with heap } = (signals, some board)) : Run config [] board
  | event {history : List (Board × Event)} {board : Board} {event : Event}
      (earlier : Run config history board) (admitted : event.Admitted board) :
      Run config ((board, event) :: history) (event.after board)

/-! ### The kernel of a board -/

/-- The kernel of the board is in good order, and nobody is at work on it. -/
structure Running (board : Board) (kernel : Kernel StackPointer) : Prop where
  cell : board.cell = { contents := some kernel, borrowed := false }
  sound : kernel.situation.Sound

namespace Running

theorem task_eq (running : board.Running kernel) (id : TaskId) :
    board.task id = kernel.core.sched.slot id := by
  rw [task, kernel?, running.cell]

theorem current_eq (running : board.Running kernel) :
    board.current = kernel.core.sched.current := by
  rw [current, kernel?, running.cell]
  rfl

theorem pending_eq (running : board.Running kernel) : board.pending = kernel.line.pending := by
  rw [pending, kernel?, running.cell]

theorem settled (running : board.Running kernel) (idle : board.pending = false) :
    kernel.core.Settled := by
  rw [running.pending_eq] at idle
  exact running.sound.settled idle

/-- A board starts with a kernel that has a switch to carry out. -/
theorem of_start {console : Console} {seen : Trace} {signals : List Signal}
    (built : config.Built) (booted : Kernel.boot config console = .ok (kernel, seen))
    (heap : Option StackSource)
    (started : Board.start { kernel with heap } = (signals, some board)) :
    board.Running (Kernel.requestSwitch { kernel with heap }) := by
  unfold Board.start at started
  split at started
  · cases started
    have sound := Kernel.boot_sound built booted
    exact ⟨rfl, sound, nofun⟩
  · cases started

/-- Handlers work on the kernel as it is, and leave it to the next one. -/
theorem run_withKernel (running : board.Running kernel)
    (action : Action (Kernel StackPointer) α) :
    (withKernel action).run board =
      ⟨(action.run kernel).result.map some,
        { board with cell := { contents := some (action.run kernel).state } },
        (action.run kernel).trace⟩ := by
  unfold withKernel
  simp only [Action.run, running.cell, Cell.borrow?, Cell.restore]

/-- A handler performs an operation of the kernel. -/
theorem handler (running : board.Running kernel) {action : Action (Kernel StackPointer) α}
    {operation : Operation StackPointer}
    (chosen : operation.isCaller → kernel.core.sched.selected = kernel.core.sched.current)
    (performs : (action.run kernel).state = Step.after ⟨kernel, operation⟩) :
    ((withKernel action).run board).state.Running (Step.after ⟨kernel, operation⟩) where
  cell := by
    rw [running.run_withKernel, performs]
  sound := Step.Ready.situation_sound ⟨running.sound.core, chosen⟩ (.inr running.sound)

/-- Events other than the doings of the running task are operations of the kernel. -/
theorem after_handler (running : board.Running kernel) {event : Event}
    (handler : event.isTask = false) :
    ∃ operation : Operation StackPointer, operation.isCaller = false ∧
      (event.after board).Running (Step.after ⟨kernel, operation⟩) := by
  unfold Event.after
  cases event with
  | switch =>
      let outgoing := StackPointer.pushed (serialBase + board.switches + 1)
      have handled : ((withKernel (Kernel.commitPending outgoing)).run board).state.Running
          (Step.after ⟨kernel, .dispatch outgoing⟩) := running.handler nofun rfl
      refine ⟨_, rfl, ?_, handled.sound⟩
      -- the board keeps the stack pointer and counts the switch, besides
      rw [← handled.cell, Event.perform, pendSv, Action.run_get_bind, Action.run_bind,
        running.run_withKernel]
      rcases (Kernel.commitPending outgoing).run kernel with ⟨_ | _ | _, _, _⟩ <;> rfl
  | tick =>
      refine ⟨.tick, rfl, ?_⟩
      rw [Event.perform, sysTick, Action.state_bind_pure]
      exact running.handler nofun (Action.state_bind_pure Kernel.tick (fun _ => none) kernel).symm
  | interrupt request =>
      refine ⟨.interrupt request, rfl, ?_⟩
      rw [Event.perform, Board.interrupt, Action.state_bind_pure]
      exact running.handler nofun
        (Action.state_bind_pure (Kernel.serve request) (fun _ => none) kernel).symm
  | write | trap => cases handler

/-- The words are written into the stack of the task. -/
theorem storeInStack (running : board.Running kernel) (id : TaskId) (position : Nat)
    (words : List Word) :
    (board.storeInStack id position words).Running (kernel.write id position words) where
  cell := by
    unfold Board.storeInStack
    rw [running.cell]
    rfl
  sound := running.sound.write

theorem after_write (running : board.Running kernel) (position : Nat) (words : List Word) :
    ((Event.write position words).after board).Running
      (kernel.write kernel.core.sched.current position words) := by
  rw [← running.current_eq]
  exact running.storeInStack board.current position words

end Running

/-! ### Traps -/

namespace Trap

variable (trap : Trap)

/-- The kernel when the exception frame has been stacked. -/
def stacked (kernel : Kernel StackPointer) : Kernel StackPointer :=
  kernel.write kernel.core.sched.current trap.position (trap.words.toList ++ trap.others)

/-- What the handler asks of the kernel. -/
def step (kernel : Kernel StackPointer) : Step StackPointer :=
  ⟨trap.stacked kernel, .trap trap.memory trap.number trap.words⟩

/-- The request that is made, if it can be read. -/
def request? : Option Request := (Request.decode trap.memory trap.number trap.words).toOption

/-- The words that are stored over the argument words. -/
def reply (kernel : Kernel StackPointer) : Registers :=
  Reply.resultRegisters
    ((Kernel.performTrap trap.memory trap.number trap.words).run (trap.stacked kernel)).result

theorem decode_of_request? {trap : Trap} {request : Request}
    (asked : trap.request? = some request) :
    Request.decode trap.memory trap.number trap.words = .ok request := by
  unfold request? at asked
  cases read : Request.decode trap.memory trap.number trap.words with
  | error reason =>
      rw [read] at asked
      cases asked
  | ok found =>
      rw [read] at asked
      exact congrArg Except.ok (Option.some.inj asked)

theorem ready_step (running : board.Running kernel) (idle : board.pending = false) :
    (trap.step kernel).Ready :=
  ⟨running.sound.core.write _ _ _, fun _ => (running.settled idle).1⟩

end Trap

/-- The exception frame is stacked, the request is performed, and the reply is stored over the
argument words. -/
theorem Running.after_trap (running : board.Running kernel) (idle : board.pending = false)
    (trap : Trap) :
    ((Event.trap trap).after board).Running
      ((trap.step kernel).after.write kernel.core.sched.current trap.position
        (trap.reply kernel).toList) := by
  let pushed := board.storeInStack board.current trap.position (trap.words.toList ++ trap.others)
  let handle := Kernel.handleTrap (C := StackPointer) trap.memory trap.number trap.words
  have prepared : pushed.Running (trap.stacked kernel) := by
    rw [Trap.stacked, ← running.current_eq]
    exact running.storeInStack board.current trap.position (trap.words.toList ++ trap.others)
  have handled : ((withKernel handle).run pushed).state.Running (trap.step kernel).after :=
    prepared.handler (fun _ => (running.settled idle).1)
      (Action.state_bind_pure handle (fun _ => none) (trap.stacked kernel)).symm
  have answered : ((withKernel handle).run pushed).result = .ok (some (trap.reply kernel)) := by
    rw [prepared.run_withKernel]
    unfold handle
    rw [Kernel.run_handleTrap]
    rfl
  have caller : pushed.current = kernel.core.sched.current := prepared.current_eq
  rw [Event.after, Event.perform, Action.state_bind_pure, Trap.perform, Action.run_modify_bind,
    svcEntry, Action.run_get_bind, Action.run_bind, answered, ← caller]
  exact handled.storeInStack pushed.current trap.position (trap.reply kernel).toList

/-! ### Runs that can be computed -/

/-- The board of a configuration, with a source of stacks. -/
def started (config : Configuration) (heap : Option StackSource) : Board :=
  (Board.start { Execution.booted config Board.console with heap }).2.getD default

theorem Run.of_started (built : config.Built)
    (boots : (Kernel.boot config Board.console :
      Except Refusal (Kernel StackPointer × Trace)).isOk) (heap : Option StackSource)
    (starts : (Board.start { Execution.booted config Board.console with heap }).2.isSome) :
    Run config [] (started config heap) := by
  unfold started
  unfold Execution.booted at starts ⊢
  cases booted : (Kernel.boot config Board.console :
      Except Refusal (Kernel StackPointer × Trace)) with
  | error reason =>
      rw [booted] at boots
      cases boots
  | ok result =>
      obtain ⟨kernel, seen⟩ := result
      rw [booted] at starts
      obtain ⟨board, found⟩ := Option.isSome_iff_exists.mp starts
      dsimp only at found ⊢
      rw [found]
      exact .start built booted heap (Prod.ext rfl found)

end Board

end Rtos
