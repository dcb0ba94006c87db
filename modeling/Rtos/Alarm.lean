/-
Module: Rtos.Alarm
Purpose: Alarms, which ask for a service or run a callback whenever their counter reaches a count.
  The table only finds the alarms that are due; acting on them is the kernel's part.
Main definitions: Handler, Callback, AlarmAction, Alarm, AlarmTable, AlarmTable.setRelative,
  AlarmTable.setAbsolute, AlarmTable.cancel, AlarmTable.sinceLast, AlarmTable.expire,
  AlarmTable.advance
-/
import Rtos.Action

namespace Rtos

/-- Position of a counter in the counter table. -/
abbrev CounterId := Nat

/-- Position of an alarm in the alarm table. -/
abbrev AlarmId := Nat

/-- Slots in the counter table. -/
def maxCounters : Nat := 2

/-- Slots in the alarm table. -/
def maxAlarms : Nat := 8

/-- The code of an interrupt handler: a finite program that asks for services, looks at their
answers, and may write log records. -/
inductive Handler where
  | done
  | call (request : InterruptCall) (next : Except Refusal Unit → Handler)
  | note (severity : Severity) (message : String) (next : Handler)

namespace Handler

/-- Ask for services one after the other, whatever their answers. -/
def ofList : List InterruptCall → Handler
  | [] => done
  | request :: rest => call request fun _ => ofList rest

end Handler

/-- Code that runs when an alarm expires.  The tag tells it apart in a trace. -/
structure Callback where
  tag : Nat
  body : Handler

/-- What an alarm does when it expires. -/
inductive AlarmAction where
  | service (request : InterruptCall)
  | callback (code : Callback)

/-- How an alarm was armed. -/
inductive AlarmKind where
  | relative
  | absolute
deriving DecidableEq, Repr, Inhabited

/-- The binding of an alarm to a counter and to what it does. -/
structure AlarmSpec where
  counter : CounterId
  action : AlarmAction

/-- An alarm. -/
structure Alarm extends AlarmSpec where
  /-- Armed and not cancelled. -/
  active : Bool := false
  kind : AlarmKind := .relative
  /-- Counts between two expiries, or zero for an alarm that expires once. -/
  cycle : Tick := 0
  /-- Counter value at which the alarm expires next. -/
  nextCount : Tick := 0
  /-- Counter value at the last expiry, or at arming. -/
  lastCount : Tick := 0
  /-- The alarm has expired since it was armed. -/
  expired : Bool := false

namespace Alarm

/-- An alarm that expires once and has done so.  It stays active, so that the time since then can
be asked for. -/
def isSpent (alarm : Alarm) : Bool := alarm.cycle = 0 && alarm.expired

/-- The alarm still has an expiry ahead. -/
def isPending (alarm : Alarm) : Bool := alarm.active && !alarm.isSpent

/-- The alarm expires in a tick that begins with its counter as given. -/
def isDue (alarm : Alarm) (counter : Counter) : Bool :=
  alarm.isPending && counter.value = alarm.nextCount

/-- Arm the alarm at the present count `now`. -/
def arm (kind : AlarmKind) (nextCount now cycle : Tick) (alarm : Alarm) : Alarm :=
  { alarm with active := true, kind, cycle, nextCount, lastCount := now, expired := false }

/-- Expire at the counter's present value, and step to the next expiry of a cyclic alarm. -/
def expire (counter : Counter) (alarm : Alarm) : Alarm :=
  { alarm with
    lastCount := counter.value
    nextCount :=
      if alarm.cycle = 0 then alarm.nextCount
      else wrapAdd alarm.nextCount alarm.cycle counter.base.maxAllowedValue
    expired := true }

end Alarm

/-- The free-running tick count, the counters that it drives, and the alarms bound to them. -/
structure AlarmTable where
  freeTick : Tick := 0
  counters : Array Counter := #[]
  alarms : Array Alarm := #[]

namespace AlarmTable

/-- Bind the alarms of a list in turn; each must name an existing counter. -/
def bindAll (table : AlarmTable) : List AlarmSpec → Except Refusal AlarmTable
  | [] => .ok table
  | spec :: rest =>
      if table.counters.size ≤ spec.counter then .error .unknownId
      else if maxAlarms ≤ table.alarms.size then .error .exhausted
      else bindAll { table with alarms := table.alarms.push { toAlarmSpec := spec } } rest

/-- The table of a kernel that boots with these counters and alarms. -/
def build (bases : List AlarmBase) (specs : List AlarmSpec) : Except Refusal AlarmTable :=
  if bases.length ≤ maxCounters then
    bindAll { counters := (bases.map Counter.new).toArray } specs
  else .error .exhausted

/-- The counter with this id. -/
def findCounter (table : AlarmTable) (id : CounterId) : Except Refusal Counter :=
  match table.counters[id]? with
  | some counter => .ok counter
  | none => .error .unknownId

/-- The alarm with this id. -/
def findAlarm (table : AlarmTable) (id : AlarmId) : Except Refusal Alarm :=
  match table.alarms[id]? with
  | some alarm => .ok alarm
  | none => .error .unknownId

/-- The alarm with this id and the counter it is bound to. -/
def lookup (table : AlarmTable) (id : AlarmId) : Except Refusal (Alarm × Counter) := do
  let alarm ← table.findAlarm id
  let counter ← table.findCounter alarm.counter
  pure (alarm, counter)

/-- Change one alarm. -/
def modify (table : AlarmTable) (id : AlarmId) (f : Alarm → Alarm) : AlarmTable :=
  { table with alarms := table.alarms.modify id f }

/-- Characteristics of the counter that an alarm is bound to. -/
def baseOf (table : AlarmTable) (id : AlarmId) : Except Refusal AlarmBase := do
  let (_, counter) ← table.lookup id
  pure counter.base

/-- Timer ticks since an armed alarm last expired, or since it was armed if it has not yet. -/
def sinceLast (table : AlarmTable) (id : AlarmId) : Except Refusal Tick := do
  let alarm ← table.findAlarm id
  if !alarm.active then throw .notPermitted
  let counter ← table.findCounter alarm.counter
  let counts := elapsed counter.value alarm.lastCount counter.base.maxAllowedValue
  let ticks := elapsed table.freeTick counter.lastTick maxTick
  pure (counts * counter.base.ticksPerBase + ticks)

/-- What arming checks: the alarm is not pending, the first delay or count fits the counter, and so
does the cycle unless it is zero. -/
def checkArming (alarm : Alarm) (base : AlarmBase) (first cycle : Tick) : Except Refusal Unit := do
  if alarm.isPending then throw .wrongState
  if base.maxAllowedValue < first then throw .badValue
  if cycle ≠ 0 ∧ (cycle < base.minCycle ∨ base.maxAllowedValue < cycle) then throw .badValue

/-- Arm an alarm to expire `increment` counts from now, and then every `cycle` counts if `cycle` is
not zero. -/
def setRelative (table : AlarmTable) (id : AlarmId) (increment cycle : Tick) :
    Except Refusal AlarmTable := do
  let (alarm, counter) ← table.lookup id
  checkArming alarm counter.base increment cycle
  let next := wrapAdd counter.value increment counter.base.maxAllowedValue
  pure (table.modify id (Alarm.arm .relative next counter.value cycle))

/-- Arm an alarm to expire when its counter reaches `start`, and then every `cycle` counts if
`cycle` is not zero. -/
def setAbsolute (table : AlarmTable) (id : AlarmId) (start cycle : Tick) :
    Except Refusal AlarmTable := do
  let (alarm, counter) ← table.lookup id
  checkArming alarm counter.base start cycle
  pure (table.modify id (Alarm.arm .absolute start counter.value cycle))

/-- Disarm an alarm. -/
def cancel (table : AlarmTable) (id : AlarmId) : Except Refusal AlarmTable := do
  let alarm ← table.findAlarm id
  if !alarm.active then throw .wrongState
  pure (table.modify id fun alarm => { alarm with active := false, expired := false })

/-- The alarm expires in a tick that begins now. -/
def isDue (table : AlarmTable) (alarm : Alarm) : Bool :=
  match table.counters[alarm.counter]? with
  | some counter => alarm.isDue counter
  | none => false

/-- The alarms that are due, in table order. -/
def dueIds (table : AlarmTable) : List AlarmId :=
  (List.range table.alarms.size).filter fun id =>
    match table.alarms[id]? with
    | some alarm => table.isDue alarm
    | none => false

/-- Expire one alarm if it is due. -/
def expireOne (table : AlarmTable) (alarm : Alarm) : Alarm :=
  match table.counters[alarm.counter]? with
  | some counter => if alarm.isDue counter then alarm.expire counter else alarm
  | none => alarm

/-- First part of a tick: expire the alarms that are due.  The answer lists what they do, in table
order. -/
def expire : Action AlarmTable (List AlarmAction) := do
  let before ← Action.get
  let due := before.dueIds
  Action.modify fun table => { table with alarms := table.alarms.map table.expireOne }
  due.forM fun id =>
    match before.lookup id with
    | .ok (_, counter) => Action.log (.expired id counter.value)
    | .error _ => pure ()
  pure (due.filterMap fun id => before.alarms[id]?.map (·.action))

/-- Second part of a tick: advance the counters that are due, and then the free-running tick. -/
def advance (table : AlarmTable) : AlarmTable :=
  { table with
    counters := table.counters.map (Counter.advance table.freeTick)
    freeTick := table.freeTick + 1 }

end AlarmTable

end Rtos
