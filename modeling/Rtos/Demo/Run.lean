/-
Module: Rtos.Demo.Run
Purpose: The demonstration system at work on a board.  Time passes only where a task lets it, in
  whole timer periods, and devices interrupt at chosen ticks.
Main definitions: Schedule, Run, Run.step, Run.toEnd
-/
import Rtos.Board
import Rtos.Demo.Firmware

namespace Rtos.Demo

/-- When time passes and what devices do meanwhile. -/
structure Schedule where
  /-- Timer ticks after which the run ends. -/
  ticks : Nat
  /-- Timer periods that pass just before the trap with a given number, counted from 1. -/
  early : List (Nat × Nat) := []
  /-- Device interrupts by the tick after which they happen. -/
  interrupts : List (Nat × InterruptCall) := []

namespace Schedule

/-- Timer periods that pass just before the trap with this number. -/
def periodsBefore (schedule : Schedule) (number : Nat) : Nat :=
  match schedule.early.find? fun entry => entry.1 = number with
  | some entry => entry.2
  | none => 0

/-- The device interrupts of a tick, in order. -/
def interruptsAt (schedule : Schedule) (tick : Nat) : List InterruptCall :=
  (schedule.interrupts.filter fun entry => entry.1 = tick).map (·.2)

end Schedule

/-- A task where it was left, with the time that passes before it goes on. -/
structure Thread where
  code : Program
  /-- The trap that comes next has its number already. -/
  counted : Bool := false
  /-- Timer periods that have not begun. -/
  periods : Nat := 0
  /-- Device interrupts left of the period that has begun. -/
  interrupts : List InterruptCall := []

/-- One trap as it was answered. -/
structure TrapRecord where
  ticks : Nat
  caller : TaskId
  number : Nat
  r0 : Word
  r1 : Word
deriving DecidableEq, Repr, Inhabited

/-- A run of the demonstration system. -/
structure Run where
  board : Board
  /-- The task on the CPU. -/
  thread : Thread
  /-- Tasks off the CPU, by the stack pointer that resumes them. -/
  parked : List (StackPointer × Thread) := []
  /-- Timer ticks so far. -/
  ticks : Nat := 0
  /-- The shared counter: restarts left for sub task 3. -/
  rounds : Nat := 1
  /-- Traps that have their number. -/
  trapCount : Nat := 0
  /-- Answered traps, latest first. -/
  traps : List TrapRecord := []

namespace Run

/-- Records at least this severe are printed. -/
def logThreshold : Severity := .info

/-- The line that prints a log record. -/
def logLine (severity : Severity) (message : String) : String :=
  "[" ++ severity.label ++ "] " ++ message ++ "\n"

/-- The lines that print what was seen. -/
def logLines : Trace → String
  | [] => ""
  | .logged record :: rest =>
      (if record.severity.reaches logThreshold then logLine record.severity record.text else "")
        ++ logLines rest
  | _ :: rest => logLines rest

/-- Print on the board's console. -/
def printOn (board : Board) (message : String) : Board :=
  let print (kernel : Kernel StackPointer) : Kernel StackPointer :=
    { kernel with console := kernel.console.write message }
  { board with cell := { board.cell with contents := board.cell.contents.map print } }

/-- What a task does when the switch starts it from its initial frame: the entry that the frame
holds is called with the argument that it holds. -/
def startFrom (board : Board) (index : Nat) : Thread :=
  let stack : Stack :=
    match board.kernel? with
    | some kernel =>
        match kernel.sched.currentTask.image with
        | some image => image.stack
        | none => #[]
    | none => #[]
  let held (slot : Nat) : Word := stack[index + slot]?.getD 0
  { code := Firmware.programAt (held framePc) (held frameR0).toUInt32.toInt32 }

/-- The thread that a stack pointer resumes. -/
def resume (run : Run) (board : Board) : Thread :=
  match board.psp with
  | .frame index => startFrom board index
  | .pushed serial =>
      match run.parked.find? fun entry => entry.1 = .pushed serial with
      | some entry => entry.2
      | none => { code := .spin }

/-- An exception, the switch that it made pending, and the log lines of both.  The thread on the
CPU is parked by a switch, and the one that the switch resumes goes on. -/
def except {α : Type} (run : Run) (handler : Action Board α) : Run :=
  let handled := handler run.board
  let printed := printOn handled.state (logLines handled.trace)
  let switched := Board.pendSv printed
  let board := printOn switched.state (logLines switched.trace)
  if board.switches = printed.switches then { run with board }
  else
    let serial := StackPointer.pushed (Board.serialBase + board.switches)
    let parking := { run with board, parked := (serial, run.thread) :: run.parked }
    { parking with thread := parking.resume board }

/-- A trap: it is handled and recorded, the thread goes on from the reply, and a pending switch
follows. -/
def trap (run : Run) (memory : Memory) (number : Nat) (words : Registers)
    (next : Registers → Program) : Run :=
  let caller := run.board.current
  let handled := Board.trap memory number words run.board
  let reply :=
    match handled.result with
    | .ok reply => reply
    | .error reason => Reply.resultRegisters (.error reason)
  let record : TrapRecord :=
    { ticks := run.ticks, caller, number, r0 := reply.r0, r1 := reply.r1 }
  let answered : Run :=
    { run with
      board := printOn handled.state (logLines handled.trace)
      thread := { code := next reply }
      traps := record :: run.traps }
  answered.except (pure () : Action Board Unit)

/-- Begin a timer period: the tick, and then the device interrupts of that tick, which are left to
the thread that was on the CPU. -/
def beginPeriod (schedule : Schedule) (run : Run) : Run :=
  let ticks := run.ticks + 1
  let thread :=
    { run.thread with
      periods := run.thread.periods - 1
      interrupts := schedule.interruptsAt ticks }
  { run with ticks, thread }.except Board.sysTick

/-- Execute the next instruction of the thread on the CPU. -/
def execute (schedule : Schedule) (run : Run) : Run :=
  match run.thread.code with
  | .spin => { run with thread := { run.thread with periods := 1 } }
  | .log severity message next =>
      { run with
        board := printOn run.board (logLines [.logged (.noted severity message)])
        thread := { code := next } }
  | .loadRounds next => { run with thread := { code := next run.rounds } }
  | .storeRounds rounds next => { run with rounds, thread := { code := next } }
  | .trap memory number words next =>
      if run.thread.counted then run.trap memory number words next
      else
        let count := run.trapCount + 1
        let periods := schedule.periodsBefore count
        { run with trapCount := count, thread := { run.thread with counted := true, periods } }

/-- One step: a device interrupt that is left, else a timer period that is left, else the next
instruction.  There is none when a period is to begin after the last tick. -/
def step (schedule : Schedule) (run : Run) : Option Run :=
  match run.thread.interrupts with
  | request :: rest =>
      let thread := { run.thread with interrupts := rest }
      some ({ run with thread }.except (Board.interrupt request))
  | [] =>
      if run.thread.periods = 0 then some (run.execute schedule)
      else if schedule.ticks ≤ run.ticks then none
      else some (run.beginPeriod schedule)

/-- Run to the end, for at most `fuel` steps. -/
def runFor (schedule : Schedule) : Nat → Run → Run
  | 0, run => run
  | fuel + 1, run =>
      match run.step schedule with
      | some next => runFor schedule fuel next
      | none => run

/-- Steps that suffice between two timer ticks or device interrupts: the tasks that one of them can
start take far fewer to end or block. -/
def stepsPerEvent : Nat := 4096

/-- Steps that suffice for a whole run. -/
def enoughSteps (schedule : Schedule) : Nat :=
  stepsPerEvent * (schedule.ticks + schedule.interrupts.length + 2)

/-- Power on: the kernel boots, prints its first records, and is started. -/
def powerOn : Except Refusal (List Signal × Option Run) := do
  let (kernel, seen) ← Kernel.boot Firmware.configuration Board.console
  let printing := { kernel with console := kernel.console.write (logLines seen) }
  let (signals, board) := Board.start (printing.setHeap Firmware.heap)
  pure (signals, board.map fun board =>
    ({ board, thread := { code := .spin } } : Run).except (pure () : Action Board Unit))

/-- The demonstration system from power-on to the last tick of a schedule. -/
def toEnd (schedule : Schedule) : Except Refusal (List Signal × Option Run) := do
  let (signals, run) ← powerOn
  pure (signals, run.map (runFor schedule (enoughSteps schedule)))

end Run

end Rtos.Demo
