/-
Module: Rtos.Observation
Purpose: What can be seen of the kernel at work besides its answers: the log records that it writes
  and the callbacks that it runs, in the order in which they happen.
Main definitions: Severity, Record, Record.severity, Record.text, Observation, Trace
-/
import Rtos.Clock
import Rtos.InterruptCall

namespace Rtos

/-- How much attention a log record asks for. -/
inductive Severity where
  | error
  | warn
  | info
  | debug
  | trace
deriving DecidableEq, Repr, Inhabited

namespace Severity

/-- The label that stands before a record's text. -/
def label : Severity → String
  | error => "ERROR"
  | warn => "WARN"
  | info => "INFO"
  | debug => "DEBUG"
  | trace => "TRACE"

/-- Position in the order of severity, the most severe first. -/
def rank : Severity → Nat
  | error => 0
  | warn => 1
  | info => 2
  | debug => 3
  | trace => 4

/-- At least as severe as a threshold. -/
def reaches (severity threshold : Severity) : Bool := severity.rank ≤ threshold.rank

end Severity

/-- A log record. -/
inductive Record where
  /-- The kernel is built and has made its first decision. -/
  | booted (tasks resources alarms : Nat) (first : TaskId)
  /-- A task was declared at run time. -/
  | declared (task : TaskId) (priority : Priority)
  | activated (task : TaskId)
  | terminated (task : TaskId)
  /-- A task ended and activated its successor. -/
  | chained (caller target : TaskId)
  /-- A resource has a new owner, which runs at this priority. -/
  | granted (task : TaskId) (priority : Priority)
  /-- A task queues for a resource. -/
  | blocked (task : TaskId) (resource : Nat)
  /-- An alarm fell due at this value of its counter. -/
  | expired (alarm : Nat) (count : Tick)
  /-- The scheduler chose the task that runs next. -/
  | decided (current next : TaskId) (priority : Priority)
  /-- The service that an alarm asked for was refused. -/
  | alarmRefused (call : InterruptCall) (reason : Refusal)
  /-- The chosen task has no registers to restore. -/
  | nothingToRestore (task : TaskId)
  /-- A task printed a message. -/
  | printed (task : TaskId) (message : String)
  /-- A record written by a task or a callback itself. -/
  | noted (severity : Severity) (message : String)
deriving DecidableEq, Repr, Inhabited

/-- How log records name a task. -/
def taskLabel (task : TaskId) : String := s!"TaskId({task})"

/-- How log records name the service that an alarm asks for. -/
def InterruptCall.label : InterruptCall → String
  | activateTask target => s!"ActivateTask({taskLabel target})"
  | setEvent target mask => s!"SetEvent({taskLabel target}, {mask})"

namespace Record

/-- The severity of a record. -/
def severity : Record → Severity
  | booted .. => .info
  | declared .. | activated .. | terminated .. | chained .. => .debug
  | granted .. | blocked .. | expired .. | printed .. => .debug
  | decided .. => .trace
  | alarmRefused .. => .warn
  | nothingToRestore .. => .error
  | noted severity _ => severity

/-- The text of a record. -/
def text : Record → String
  | booted tasks resources alarms first =>
      s!"ceros: {tasks} tasks, {resources} resources, {alarms} alarms, " ++
        s!"first task {taskLabel first}"
  | declared task priority => s!"declared {taskLabel task} at prio {priority}"
  | activated task => s!"activated {taskLabel task}"
  | terminated task => s!"terminated {taskLabel task}"
  | chained caller target => s!"{taskLabel caller} chained to {taskLabel target}"
  | granted task priority => s!"resource granted to {taskLabel task}, prio {priority}"
  | blocked task resource => s!"{taskLabel task} blocked on resource {resource}"
  | expired alarm count => s!"alarm {alarm} expired at count {count}"
  | decided current next priority =>
      s!"reschedule: {taskLabel current} -> {taskLabel next} (prio {priority})"
  | alarmRefused call reason => s!"alarm action {call.label} failed: {reason.message}"
  | nothingToRestore task => s!"switch_context: {taskLabel task} has no context to restore"
  | printed task message => s!"{taskLabel task}: {message}"
  | noted _ message => message

end Record

/-- One thing that an observer sees happen. -/
inductive Observation where
  | logged (record : Record)
  /-- The callback with this tag begins. -/
  | entered (callback : Nat)
  /-- A service asked for by the callback with this tag was answered. -/
  | answered (callback : Nat) (result : Except Refusal Unit)

/-- What was seen, oldest first. -/
abbrev Trace := List Observation

end Rtos
