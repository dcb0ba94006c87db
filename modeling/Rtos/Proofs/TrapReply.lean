/-
Module: Rtos.Proofs.TrapReply
Purpose: The reply to a trap is stored over the argument words of the caller.  This leaves initial
  frames alone, but for one case: a task that chains to itself from near the top of its stack has
  its fresh frame there already, and starts with zero for an argument.
Main definitions: TaskImage.reachedFrom, Board.Event.overwrites, Board.overwritten, Board.Framed
Main statements: `TaskImage.FrameAt.write`, `Board.Run.primed_whole_iff`
-/
import Rtos.Proofs.BoardRun

namespace Rtos

/-! ### What the reply leaves of a frame -/

namespace TaskImage

variable {image other : TaskImage} {word : Word} {position : Nat}

/-- The argument words of an exception frame at this position reach the R0 slot of an initial
frame. -/
def reachedFrom (position : Nat) (image : TaskImage) : Bool :=
  position ≤ image.stack.size - frameWords + frameR0 &&
    image.stack.size - frameWords + frameR0 < position + Reply.done.registers.toList.length

theorem reachedFrom_congr (same : image.stack.size = other.stack.size) :
    image.reachedFrom position = other.reachedFrom position := by
  rw [reachedFrom, reachedFrom, same]

/-- The argument words are the lower half of an exception frame.  Zeros that are stored there can
reach R0 in an initial frame, but nothing above. -/
theorem FrameAt.write (frame : image.FrameAt (image.stack.size - frameWords) word)
    (inside : position + Board.exceptionWords ≤ image.stack.size) :
    (image.write position Reply.done.registers.toList).FrameAt (image.stack.size - frameWords)
      (if image.reachedFrom position then 0 else word) := by
  have room : image.stack.size - frameWords + frameWords ≤ image.stack.size := frame.room
  have zeros : Reply.done.registers.toList = List.replicate 4 0 := by decide
  have above : ∀ slot, framePc ≤ slot →
      (image.write position Reply.done.registers.toList).stack[
          image.stack.size - frameWords + slot]? =
        image.stack[image.stack.size - frameWords + slot]? := by
    intro slot upper
    rw [TaskImage.write, Stack.getElem?_store, zeros, List.length_replicate, if_neg]
    rw [framePc] at upper
    rw [Board.exceptionWords] at inside
    rw [frameWords] at room ⊢
    omega
  constructor
  case r0 =>
    have top : image.stack.size - frameWords + frameR0 < image.stack.size := by
      rw [frameR0]
      rw [frameWords] at room ⊢
      omega
    rw [TaskImage.write, Stack.getElem?_store, frame.r0]
    by_cases reached : image.reachedFrom position
    · obtain ⟨lower, upper⟩ : _ ∧ _ := by
        simpa only [reachedFrom, Bool.and_eq_true, decide_eq_true_eq] using reached
      rw [if_pos reached, if_pos ⟨lower, upper, top⟩, zeros, List.getElem?_replicate, if_pos]
      exact Nat.sub_lt_left_of_lt_add lower upper
    · rw [if_neg reached, if_neg]
      rintro ⟨lower, upper, -⟩
      exact reached (by simp only [reachedFrom, lower, upper, decide_true, Bool.and_self])
  case pc => rw [above framePc (Nat.le_refl _), frame.pc, TaskImage.write]
  case xpsr => rw [above frameXpsr (by decide), frame.xpsr]

end TaskImage

theorem Task.StartsWith.write {task : Task StackPointer} {image : TaskImage} {word : Word}
    {position : Nat} (starts : task.StartsWith word image)
    (inside : position + Board.exceptionWords ≤ image.stack.size) :
    (task.write position Reply.done.registers.toList).StartsWith
      (if image.reachedFrom position then 0 else word)
      (image.write position Reply.done.registers.toList) where
  imaged := congrArg (Option.map _) starts.imaged
  context := by
    rw [TaskImage.size_write]
    exact starts.context
  frame := by
    rw [TaskImage.size_write]
    exact fun room => (starts.frame room).write inside

/-- A request to chain is granted, or else nothing happens. -/
theorem Kernel.perform_chainTask {C : Type} [Machine C] {kernel : Kernel C}
    (sound : kernel.core.Sound) (chosen : kernel.core.sched.selected = kernel.core.sched.current)
    (id : TaskId) :
    ((perform (.chainTask id)).run kernel).result = .ok .done ∨
      ((perform (.chainTask id)).run kernel).state = kernel := by
  have done : perform (.chainTask id) = chainTask (C := C) id >>= fun _ => pure Reply.done := rfl
  rw [done, Action.run_bind]
  rcases chainTask_makes sound chosen id with makes | ⟨reason, refused⟩
  · rw [makes.result]
    exact .inl rfl
  · rw [refused]
    exact .inr rfl

namespace Board

variable {config : Configuration} {history : List (Board × Event)} {board : Board} {event : Event}
  {kernel : Kernel StackPointer} {trap : Trap} {id : TaskId} {task : Task StackPointer}

/-! ### Frames that have been overwritten -/

/-- The running task asks to start afresh while the argument words in its exception frame reach its
initial frame. -/
def Event.overwrites (board : Board) (id : TaskId) : Event → Bool
  | .trap made => id = board.current && made.request? = some (.chainTask id) &&
      (board.task id).image.any (·.reachedFrom made.position)
  | .switch | .tick | .interrupt _ | .write .. => false

/-- The reply to a trap has been stored over the initial frame of the task since the latest
activation of the task. -/
def overwritten (id : TaskId) : List (Board × Event) → Bool
  | [] => false
  | (before, event) :: earlier =>
      event.overwrites before id || (before.task id).context.isPrimed && overwritten id earlier

/-- A primed task starts with its argument unless its frame was overwritten, and then with zero. -/
def Framed (history : List (Board × Event)) (id : TaskId) (task : Task StackPointer) : Prop :=
  task.context.isPrimed → ∃ word image, task.StartsWith word image ∧
    (overwritten id history → word = 0) ∧ (¬ overwritten id history → word = image.argumentWord)

/-- A fresh frame that nobody has stored over. -/
theorem framed_of_fresh {origin : TaskImage} (fresh : task.FreshFrom origin)
    (intact : overwritten id history = false) : Framed history id task := by
  intro _
  refine ⟨_, _, fresh.startsWith, ?_, ?_⟩
  · rw [intact]
    nofun
  · exact fun _ => origin.argumentWord_laid.symm

/-- A frame that is left alone is as good as before. -/
theorem Framed.same (framed : Framed history id (board.task id))
    (same : (board.task id).SameFrame task) (intact : event.overwrites board id = false) :
    Framed ((board, event) :: history) id task := by
  intro primed
  rw [same.context] at primed
  obtain ⟨word, image, starts, zero, argument⟩ := framed primed
  have still : overwritten id ((board, event) :: history) = overwritten id history := by
    simp [overwritten, intact, primed]
  rw [still]
  exact ⟨word, image, starts.congr same, zero, argument⟩

/-- An operation of the kernel damages no frame. -/
theorem Framed.step {step : Step StackPointer} (framed : Framed history id (board.task id))
    (ready : step.Ready) (before : step.before.core.sched.slot id = board.task id)
    (other : id = step.before.current → step.operation.request? ≠ some (.chainTask id))
    (intact : event.overwrites board id = false) :
    Framed ((board, event) :: history) id (step.after.core.sched.slot id) := by
  intro primed
  obtain ⟨handle, context⟩ := Context.isPrimed_iff.mp primed
  have origin := ready.primed_after context
  rw [before] at origin
  rcases origin with same | ⟨dormant | ⟨caller, asked⟩, activated⟩
  · exact framed.same same intact primed
  · obtain ⟨origin, -, fresh⟩ := activated
    refine framed_of_fresh fresh ?_ primed
    simp [overwritten, intact, dormant, Context.isPrimed]
  · exact absurd asked (other caller)

/-! ### Every event keeps account of the frames -/

theorem Framed.after_handler (running : board.Running kernel)
    (framed : ∀ id, Framed history id (board.task id)) (handler : event.isTask = false) :
    ∃ after, (event.after board).Running after ∧
      ∀ id, Framed ((board, event) :: history) id ((event.after board).task id) := by
  obtain ⟨operation, quiet, performed⟩ := running.after_handler handler
  refine ⟨_, performed, fun id => ?_⟩
  have uncalled : ¬ operation.isCaller := by
    rw [quiet]
    nofun
  have ready : Step.Ready ⟨kernel, operation⟩ :=
    ⟨running.sound.core, fun caller => absurd caller uncalled⟩
  rw [performed.task_eq]
  refine (framed id).step ready (running.task_eq id).symm ?_ ?_
  · exact fun _ asked => uncalled (Operation.isCaller_of_request? asked)
  · cases event <;> first | rfl | cases handler

/-- What the running task writes is not in the frame of a primed task. -/
theorem Framed.after_write (running : board.Running kernel) (idle : board.pending = false)
    (framed : Framed history id (board.task id)) (position : Nat) (words : List Word) :
    Framed ((board, .write position words) :: history) id
      (((Event.write position words).after board).task id) := by
  rw [(running.after_write position words).task_eq]
  by_cases caller : id = kernel.core.sched.current
  · intro primed
    rw [caller, Kernel.context_write, (running.settled idle).2] at primed
    cases primed
  · rw [Kernel.slot_write_of_ne caller, ← running.task_eq]
    exact framed.same (.refl _) rfl

/-- A trap of one task does not concern the stack of another. -/
theorem Framed.after_trap_of_ne (running : board.Running kernel) (idle : board.pending = false)
    (framed : Framed history id (board.task id)) (other : id ≠ kernel.core.sched.current)
    (trap : Trap) :
    Framed ((board, .trap trap) :: history) id (((Event.trap trap).after board).task id) := by
  rw [(running.after_trap idle trap).task_eq, Kernel.slot_write_of_ne other]
  refine framed.step (trap.ready_step running idle) ?_ (fun caller => absurd caller other) ?_
  · rw [running.task_eq]
    exact Kernel.slot_write_of_ne other
  · simp [Event.overwrites, running.current_eq, other]

/-- A task that is primed right after its own trap has chained to itself, which is answered by
zeros. -/
theorem Trap.chained_of_primed (running : board.Running kernel) (idle : board.pending = false)
    {handle : StackPointer}
    (primed : ((trap.step kernel).after.core.sched.slot kernel.core.sched.current).context =
      .primed handle) :
    trap.request? = some (.chainTask kernel.core.sched.current) ∧
      trap.reply kernel = Reply.done.registers ∧
      ((trap.stacked kernel).core.sched.slot kernel.core.sched.current).Activated
        ((trap.step kernel).after.core.sched.slot kernel.core.sched.current) := by
  have ready := trap.ready_step running idle
  have live : ((trap.stacked kernel).core.sched.slot kernel.core.sched.current).context = .onCpu :=
    (Kernel.context_write kernel.core.sched.current).trans (running.settled idle).2
  rcases ready.primed_after primed with same | ⟨dormant | ⟨-, asked⟩, activated⟩
  · rw [same.context] at primed
    cases live.symm.trans primed
  · cases live.symm.trans dormant
  · refine ⟨asked, ?_, activated⟩
    have after : (trap.step kernel).after =
        ((Kernel.perform (.chainTask kernel.core.sched.current)).run (trap.stacked kernel)).state :=
      Step.after_of_request? asked
    rw [Trap.reply, Kernel.performTrap, Trap.decode_of_request? asked, Action.run_ok_bind]
    rcases Kernel.perform_chainTask ready.sound (ready.chosen rfl) kernel.core.sched.current with
      done | refused
    · exact congrArg Reply.resultRegisters done
    · have same : (trap.step kernel).after = trap.stacked kernel := after.trans refused
      rw [same] at primed
      cases live.symm.trans primed

/-- A task that chains to itself is primed by the time when the reply is stored. -/
theorem framed_after_trap_self (running : board.Running kernel) (idle : board.pending = false)
    (inside : ∀ image ∈ (board.task board.current).image,
      trap.position + exceptionWords ≤ image.stack.size) :
    Framed ((board, .trap trap) :: history) kernel.core.sched.current
      (((Event.trap trap).after board).task kernel.core.sched.current) := by
  have settled := running.settled idle
  have inTable : kernel.core.sched.current < maxTasks :=
    Scheduler.lt_of_isRunnable (running.sound.core.current_runnable settled.1)
  rw [(running.after_trap idle trap).task_eq, Kernel.slot_write_self inTable]
  intro primed
  obtain ⟨handle, context⟩ := Context.isPrimed_iff.mp primed
  obtain ⟨asked, reply, origin, imaged, fresh⟩ := trap.chained_of_primed running idle context
  -- the image that the task starts from is its own, but for the exception frame
  rw [Trap.stacked, Kernel.slot_write_self inTable, ← running.task_eq] at imaged
  obtain ⟨own, found, rfl⟩ := Option.map_eq_some_iff.mp imaged
  have size : (own.write trap.position (trap.words.toList ++ trap.others)).laid.stack.size =
      own.stack.size := by
    simp only [TaskImage.size_laid, TaskImage.size_write]
  rw [running.current_eq] at inside
  have starts := fresh.startsWith.write (by rw [size]; exact inside own found)
  have reached : overwritten kernel.core.sched.current ((board, .trap trap) :: history) =
      own.reachedFrom trap.position := by
    have live : (board.task kernel.core.sched.current).context = .onCpu := by
      rw [running.task_eq]
      exact settled.2
    simp [overwritten, Event.overwrites, running.current_eq, asked, found, live, Context.isPrimed]
  rw [reply]
  rw [TaskImage.reachedFrom_congr size] at starts
  rw [reached]
  refine ⟨_, _, starts, fun spoilt => if_pos spoilt, fun spared => ?_⟩
  rw [if_neg spared]
  simp only [TaskImage.argumentWord_write, TaskImage.argumentWord_laid]

/-- Throughout a run the kernel is in good order, and the frames of primed tasks are known. -/
theorem Run.framed (run : Run config history board) :
    ∃ kernel, board.Running kernel ∧ ∀ id, Framed history id (board.task id) := by
  induction run with
  | start built booted heap started =>
      have running := Running.of_start built booted heap started
      refine ⟨_, running, fun id primed => ?_⟩
      rw [running.task_eq] at primed ⊢
      obtain ⟨handle, context⟩ := Context.isPrimed_iff.mp primed
      obtain ⟨origin, fresh⟩ := Kernel.boot_fresh built booted context
      exact framed_of_fresh fresh rfl primed
  | @event _ _ event _ admitted ih =>
      obtain ⟨kernel, running, framed⟩ := ih
      cases event with
      | switch | tick | interrupt => exact Framed.after_handler running framed rfl
      | write position words =>
          refine ⟨_, running.after_write position words, fun id => ?_⟩
          exact (framed id).after_write running admitted position words
      | trap trap =>
          obtain ⟨idle, inside⟩ := admitted
          refine ⟨_, running.after_trap idle trap, fun id => ?_⟩
          by_cases caller : id = kernel.core.sched.current
          · rw [caller]
            exact framed_after_trap_self running idle inside
          · exact (framed id).after_trap_of_ne running idle caller trap

/-- In every state of a run, hence after every trap, a primed task has the whole of its initial
frame in its stack, unless the stack is too short for a frame, or the task has chained to itself
from where the reply to that reaches the R0 slot of the new frame.  Then it starts with zero for its
argument. -/
theorem Run.primed_whole_iff (run : Run config history board) {handle : StackPointer}
    (primed : (board.task id).context = .primed handle) :
    ∃ image, (board.task id).image = some image ∧
      ((board.task id).Whole ↔ frameWords ≤ image.stack.size ∧
        (overwritten id history → image.argument = 0)) ∧
      (frameWords ≤ image.stack.size → overwritten id history →
        image.FrameAt (image.stack.size - frameWords) 0) := by
  obtain ⟨kernel, running, framed⟩ := run.framed
  obtain ⟨word, image, starts, zero, argument⟩ :=
    framed id (Context.isPrimed_iff.mpr ⟨handle, primed⟩)
  refine ⟨image, starts.imaged, ?_, ?_⟩
  · rw [starts.whole_iff]
    refine and_congr_right fun room => ?_
    by_cases spoilt : overwritten id history
    · rw [zero spoilt, eq_comm, TaskImage.argumentWord_eq_zero_iff]
      exact ⟨fun none _ => none, fun reached => reached spoilt⟩
    · exact iff_of_true (argument spoilt) fun reached => absurd reached spoilt
  · intro room spoilt
    rw [← zero spoilt]
    exact starts.frame room

/-! ### A task that chains to itself -/

/-- The idle task, and a task with argument 7 that starts with the kernel. -/
def rerun : Configuration where
  tasks := [Configuration.plainTask leastUrgent false,
    { priority := 5
      image := { entry := 0x400, argument := 7, stack := Stack.zeros minStackWords }
      autostart := true }]

/-- The board of these tasks when the second one has been put on the CPU. -/
def dispatched (heap : Option StackSource) : Board := Event.switch.after (started rerun heap)

set_option maxRecDepth 8000 in
theorem run_dispatched (heap : Option StackSource) :
    Run rerun [(started rerun heap, .switch)] (dispatched heap) := by
  have built : rerun.Built :=
    (Configuration.Built.new (Configuration.plainTask leastUrgent false)).addTask rfl
  exact (Run.of_started built (by decide) heap rfl).event trivial

/-- The task chains to itself from this depth. -/
def chainSelf (position : Nat) : Event :=
  .trap { position, number := Service.chainTask.number, words := { r0 := 1 } }

/-- What the task has become then. -/
def rerunFrom (position : Nat) : Task StackPointer :=
  ((chainSelf position).after (dispatched none)).task 1

set_option maxRecDepth 8000 in
/-- From the middle of its stack the task starts afresh with its argument, from the top it does
not. -/
theorem whole_rerunFrom : (rerunFrom 8).Whole ∧ ¬ (rerunFrom 24).Whole := by
  constructor
  · have run := (run_dispatched none).event (by decide : (chainSelf 8).Admitted (dispatched none))
    have primed : (rerunFrom 8).context = .primed (.frame 16) := by decide
    obtain ⟨image, found, whole, -⟩ := run.primed_whole_iff primed
    have sized : (rerunFrom 8).image.map (·.stack.size) = some 32 := by decide
    rw [rerunFrom, found] at sized
    have size : image.stack.size = 32 := Option.some.inj sized
    rw [rerunFrom, whole, size]
    exact ⟨by decide, fun reached => absurd reached (by decide)⟩
  · have run := (run_dispatched none).event (by decide : (chainSelf 24).Admitted (dispatched none))
    have primed : (rerunFrom 24).context = .primed (.frame 16) := by decide
    obtain ⟨image, found, whole, -⟩ := run.primed_whole_iff primed
    have told : (rerunFrom 24).image.map (·.argument) = some 7 := by decide
    rw [rerunFrom, found] at told
    have argument : image.argument = 7 := Option.some.inj told
    rw [rerunFrom, whole, argument]
    rintro ⟨-, zero⟩
    exact absurd (zero (by decide)) (by decide)

/-- The running task declares a task with argument 7. -/
def declareShort : Event :=
  .trap
    { position := 8
      number := Service.declare.number
      words := { r0 := 0x500, r1 := 2, r2 := 64, r3 := 7 } }

/-- The running task activates the task that it has declared. -/
def activateShort : Event :=
  .trap { position := 8, number := Service.activateTask.number, words := { r0 := 2 } }

/-- What has become of the declared task if the source of stacks has only short ones. -/
def short : Board := activateShort.after (declareShort.after (dispatched (some (.fixed 8))))

set_option maxRecDepth 8000 in
/-- Neither does a task keep its argument that chains to itself from the top of its stack, nor does
one that gets a stack of eight words have a place for it. -/
theorem not_whole_rerun :
    ((∃ history, Run rerun history ((chainSelf 24).after (dispatched none))) ∧
      (rerunFrom 24).context = .primed (.frame 16) ∧ ¬ (rerunFrom 24).Whole) ∧
    (∃ history, Run rerun history short) ∧
      (short.task 2).context = .primed (.frame 0) ∧ ¬ (short.task 2).Whole := by
  have deep : Run rerun _ ((chainSelf 24).after (dispatched none)) :=
    (run_dispatched none).event (by decide)
  have low : Run rerun _ short :=
    ((run_dispatched (some (.fixed 8))).event (by decide)).event (by decide)
  have zero : (rerunFrom 24).context = .primed (.frame 16) := by decide
  have none : (short.task 2).context = .primed (.frame 0) := by decide
  exact ⟨⟨⟨_, deep⟩, zero, Task.not_whole_of_r0 zero (by decide)⟩,
    ⟨_, low⟩, none, Task.not_whole_of_r0 none (by decide)⟩

end Board

end Rtos
