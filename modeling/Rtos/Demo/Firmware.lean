/-
Module: Rtos.Demo.Firmware
Purpose: A demonstration system of six tasks that share one resource and are driven by three alarms.
  Alarm 0 starts the main task, alarm 1 wakes it, and the cyclic alarm 2 starts sub task 2 from a
  callback; sub task 3 is declared at run time and restarts itself once.
Main definitions: Firmware.configuration, Firmware.heap, Firmware.programAt
-/
import Rtos.Configuration
import Rtos.Demo.Program
import Rtos.StackSource

namespace Rtos.Demo.Firmware

/-- Stack words of the idle task. -/
def idleStackWords : Nat := 128

/-- Stack words of every other task. -/
def userStackWords : Nat := 256

/-! ### Objects -/

/-- The task that starts the sub tasks. -/
def mainTask : TaskId := 1

/-- The most urgent task, which prints once. -/
def subTask0 : TaskId := 2

/-- The task that waits for the main task. -/
def subTask1 : TaskId := 3

/-- The task that the cyclic alarm starts. -/
def subTask2 : TaskId := 4

/-- The resource that the tasks share. -/
def resource1 : ResourceId := 0

/-- The event that the main task sends to sub task 1. -/
def event1 : EventMask := 1

/-- The event that wakes the main task. -/
def wakeEvent : EventMask := 2

/-- Counts between two runs of sub task 2. -/
def subTask2Period : Tick := 100

/-- A task id, or another, as the argument word of a stub. -/
private def word (id : Nat) : Word := UInt64.ofNat id

/-! ### Code -/

open Program

/-- Print a message and go on. -/
def say (message : String) (next : Program) : Program := call_ (Stub.debug message) next

/-- End the calling task.  Should the kernel refuse, the task stays idle. -/
def exit : Program :=
  call Stub.terminateTask fun
    | .ok _ => spin
    | .error reason => .log .error s!"terminate_task failed: {reason.message}" spin

/-- Arm an alarm by a delay and go on, with a warning if it cannot be armed. -/
def armAlarm (alarm : AlarmId) (delay cycle : Tick) (next : Program) : Program :=
  call (Stub.setRelAlarm (word alarm) delay cycle) fun
    | .ok _ => next
    | .error reason => .log .warn s!"alarm {alarm} not armed: {reason.message}" next

/-- The idle task arms the alarms and spins. -/
def defaultTask : Program :=
  say "[default_task]\n" <|
  armAlarm 0 30 0 <|
  armAlarm 1 60 0 <|
  armAlarm 2 90 subTask2Period
  spin

/-- Sub task 0 prints once. -/
def subTask0Code : Program := say "[sub_task0]\n" exit

/-- Sub task 1 waits for the main task. -/
def subTask1Code : Program :=
  say "[sub_task1]: start\n" <|
  call_ (Stub.waitEvent event1) <|
  call (Stub.getEvent (word subTask1)) fun events =>
    let woken : Bool :=
      match events with
      | .ok flags => flags &&& event1 ≠ 0
      | .error _ => false
    say (if woken then "[sub_task1]: wake up by main_task\n"
      else "[sub_task1]: wake up by unknown\n") <|
    call_ (Stub.clearEvent 0xFFFFFFFF) <|
    say "[sub_task1]: done\n" exit

/-- Sub task 2 prints while it holds the resource. -/
def subTask2Code : Program :=
  call_ (Stub.getResource (word resource1)) <|
  say "[sub_task2]: start\n" <|
  say "[sub_task2]: done\n" <|
  call_ (Stub.releaseResource (word resource1)) exit

/-- The end of sub task 3. -/
def subTask3End (argument : Int32) : Program :=
  .log .info s!"sub_task3 finished, argument {argument}" exit

/-- Sub task 3 chains to itself while rounds are left. -/
def subTask3Code (argument : Int32) : Program :=
  say "[sub_task3]\n" <|
  .loadRounds fun rounds =>
    if rounds = 0 then subTask3End argument
    else
      .storeRounds (rounds - 1) <|
      call Stub.getTaskId fun
        | .ok id => call_ (Stub.chainTask (word id)) (subTask3End argument)
        | .error _ => subTask3End argument

/-- Addresses of the entries of the tasks in program memory. -/
def entryAddress (position : Nat) : Entry := 0x400 + 0x100 * UInt64.ofNat position

/-- The entry of sub task 3, which has no place in the configuration. -/
def subTask3Entry : Entry := entryAddress 5

/-- The second half of the main task: sub task 3 is declared, and an alarm is waited for. -/
def mainTaskEnd : Program :=
  let wait :=
    call_ (Stub.waitEvent wakeEvent) <|
    say "[main_task]: woken by alarm\n" <|
    call_ (Stub.clearEvent 0xFFFFFFFF) <|
    say "[main_task]: done\n" exit
  call (Stub.declare subTask3Entry 1 (word userStackWords) 3) fun
    | .ok id => call_ (Stub.activateTask (word id)) wait
    | .error reason => .log .warn s!"sub_task3 not declared: {reason.message}" wait

/-- The main task, once it has started the sub tasks: it uses the resource and wakes sub task 1. -/
def mainTaskMiddle : Program :=
  let wake := call_ (Stub.setEvent (word subTask1) event1) mainTaskEnd
  call (Stub.getResource (word resource1)) fun
    | .ok _ =>
        say "[main_task]: set_event\n" <|
        call_ (Stub.releaseResource (word resource1)) wake
    | .error _ => wake

/-- The main task starts the sub tasks; a second activation of sub task 1 meets its limit. -/
def mainTaskCode : Program :=
  say "[main_task]: start\n" <|
  call_ (Stub.activateTask (word subTask0)) <|
  call_ (Stub.activateTask (word subTask1)) <|
  call (Stub.activateTask (word subTask1)) fun
    | .ok _ => mainTaskMiddle
    | .error _ => say "[main_task]: sub_task1 already active\n" mainTaskMiddle

/-- The code at an address of program memory, started with an argument. -/
def programAt (entry : Entry) (argument : Int32) : Program :=
  if entry = entryAddress 0 then defaultTask
  else if entry = entryAddress mainTask then mainTaskCode
  else if entry = entryAddress subTask0 then subTask0Code
  else if entry = entryAddress subTask1 then subTask1Code
  else if entry = entryAddress subTask2 then subTask2Code
  else if entry = subTask3Entry then subTask3Code argument
  else spin

/-! ### Configuration -/

/-- Description of the task with this id. -/
def taskSpec (id : TaskId) (priority : Priority) (stackWords : Nat) : TaskSpec :=
  { priority
    image := { entry := entryAddress id, argument := 0, stack := Stack.zeros stackWords } }

/-- The callback of alarm 2 starts sub task 2, which has ended by then. -/
def periodicCallback : Callback :=
  { tag := 0
    body := .call (.activateTask subTask2) fun
      | .ok _ => .done
      | .error reason =>
          .note .warn s!"callback could not activate sub_task2: {reason.message}" .done }

/-- The objects of the system. -/
def configuration : Configuration :=
  { tasks :=
      [taskSpec idleTask leastUrgent idleStackWords,
        taskSpec mainTask 1 userStackWords,
        taskSpec subTask0 0 userStackWords,
        taskSpec subTask1 2 userStackWords,
        taskSpec subTask2 2 userStackWords]
    ceilings := [0]
    counters := [defaultAlarmBase]
    alarms :=
      [{ counter := 0, action := .service (.activateTask mainTask) },
        { counter := 0, action := .service (.setEvent mainTask wakeEvent) },
        { counter := 0, action := .callback periodicCallback }] }

/-- The stack for the one task declared at run time. -/
def heap : StackSource := StackSource.pool userStackWords

end Rtos.Demo.Firmware
