/-
Module: Rtos.Clock
Purpose: Clocks that wrap, and the counters that the timer interrupt drives.
Main definitions: Tick, elapsed, wrapAdd, AlarmBase, Counter, Counter.advance
-/

namespace Rtos

/-- Timer ticks and counter values. -/
abbrev Tick := UInt32

/-- The largest value of the free-running tick count. -/
def maxTick : Tick := 0xFFFFFFFF

/-- Ticks from `last` to `now` on a clock that wraps to zero after `max`. -/
def elapsed (now last max : Tick) : Tick :=
  if last ≤ now then now - last else now + (max - last) + 1

/-- `value + step` on a clock that wraps to zero after `max`.  The sum is taken in 64 bits, so it
never overflows. -/
def wrapAdd (value step max : Tick) : Tick :=
  ((value.toUInt64 + step.toUInt64) % (max.toUInt64 + 1)).toUInt32

/-- Characteristics of a counter. -/
structure AlarmBase where
  /-- The largest value, after which the counter wraps to zero. -/
  maxAllowedValue : Tick
  /-- Timer ticks for one count. -/
  ticksPerBase : Tick
  /-- The shortest cycle that a cyclic alarm may use. -/
  minCycle : Tick
deriving DecidableEq, Repr, Inhabited

/-- The counter of a board that names none of its own: the full tick range, and one count every
ten ticks. -/
def defaultAlarmBase : AlarmBase :=
  { maxAllowedValue := maxTick, ticksPerBase := 10, minCycle := 1 }

/-- A counter that advances by one every `base.ticksPerBase` timer ticks. -/
structure Counter where
  base : AlarmBase
  value : Tick
  /-- Free-running tick at which the value advances next. -/
  nextTick : Tick
  /-- Free-running tick of the last advance. -/
  lastTick : Tick
deriving DecidableEq, Repr, Inhabited

namespace Counter

/-- A counter at zero, as it stands when the kernel boots. -/
def new (base : AlarmBase) : Counter :=
  { base, value := 0, nextTick := base.ticksPerBase, lastTick := 0 }

/-- The value that follows, zero after the largest. -/
def succValue (counter : Counter) : Tick :=
  if counter.value = counter.base.maxAllowedValue then 0 else counter.value + 1

/-- The counter after the timer tick `now`: one count further if it is due. -/
def advance (now : Tick) (counter : Counter) : Counter :=
  if counter.nextTick = now then
    { counter with
      value := counter.succValue
      nextTick := counter.nextTick + counter.base.ticksPerBase
      lastTick := now }
  else counter

end Counter

end Rtos
