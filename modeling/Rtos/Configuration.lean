/-
Module: Rtos.Configuration
Purpose: The objects of a system, collected before the kernel boots.  Objects are added one at a
  time and checked as they come, so that an id once given stays valid and an alarm always refers to
  an existing counter and task.
Main definitions: Configuration, Configuration.addTask, Configuration.addResource,
  Configuration.addCounter, Configuration.addAlarm
-/
import Rtos.Alarm
import Rtos.Resource

namespace Rtos

/-- The tasks, resources, counters and alarms of a system, each list in the order of its ids. -/
structure Configuration where
  tasks : List TaskSpec
  ceilings : List Priority := []
  counters : List AlarmBase := []
  alarms : List AlarmSpec := []

namespace Configuration

/-- A system of the idle task alone. -/
def new (idle : TaskSpec) : Configuration := { tasks := [idle] }

/-- Add a task, unless the task table is full. -/
def addTask (config : Configuration) (task : TaskSpec) : Except Refusal (TaskId × Configuration) :=
  if config.tasks.length < maxTasks then
    .ok (config.tasks.length, { config with tasks := config.tasks ++ [task] })
  else .error .exhausted

/-- Add a resource, unless the resource table is full. -/
def addResource (config : Configuration) (ceiling : Priority) :
    Except Refusal (ResourceId × Configuration) :=
  if config.ceilings.length < maxResources then
    .ok (config.ceilings.length, { config with ceilings := config.ceilings ++ [ceiling] })
  else .error .exhausted

/-- A counter has to advance, and its shortest cycle has to fit below its wrap. -/
def validBase (base : AlarmBase) : Bool :=
  base.ticksPerBase ≠ 0 && base.minCycle ≤ base.maxAllowedValue

/-- Add a counter, unless it makes no sense or the counter table is full. -/
def addCounter (config : Configuration) (base : AlarmBase) :
    Except Refusal (CounterId × Configuration) :=
  if !validBase base then .error .badValue
  else if config.counters.length < maxCounters then
    .ok (config.counters.length, { config with counters := config.counters ++ [base] })
  else .error .exhausted

/-- The task that an alarm acts on has been added; a callback names none. -/
def knowsTarget (config : Configuration) : AlarmAction → Bool
  | .service request => request.target < config.tasks.length
  | .callback _ => true

/-- Add an alarm on a counter and for a task that have been added, unless the alarm table is
full. -/
def addAlarm (config : Configuration) (alarm : AlarmSpec) :
    Except Refusal (AlarmId × Configuration) :=
  if config.counters.length ≤ alarm.counter ∨ !config.knowsTarget alarm.action then
    .error .unknownId
  else if config.alarms.length < maxAlarms then
    .ok (config.alarms.length, { config with alarms := config.alarms ++ [alarm] })
  else .error .exhausted

end Configuration

end Rtos
