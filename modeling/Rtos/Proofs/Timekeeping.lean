/-
Module: Rtos.Proofs.Timekeeping
Purpose: Counters keep exact time.  Where a counter stands depends on nothing but the number of
  ticks since the kernel booted, however often it and the free-running tick have wrapped.
Main definitions: AlarmBase.counts, Counter.afterTicks, AlarmTable.Edit, Lifetime.ticks
Main statements: `Counter.advance_afterTicks`, `Lifetime.clocks_eq`, `Lifetime.counter_eq`,
  `Lifetime.keeps_time`
-/
import Mathlib.Data.Nat.ModEq
import Rtos.Proofs.Lifetime

namespace Rtos

/-! ### Clocks that wrap -/

/-- The sum on a clock that wraps is the sum modulo its period. -/
theorem toNat_wrapAdd (value step max : Tick) :
    (wrapAdd value step max).toNat = (value.toNat + step.toNat) % (max.toNat + 1) := by
  have sum : value.toNat + step.toNat < 2 ^ 64 := by
    have := value.toNat_lt
    have := step.toNat_lt
    omega
  have period : max.toNat + 1 < 2 ^ 64 := by
    have := max.toNat_lt
    omega
  have below : (value.toNat + step.toNat) % (max.toNat + 1) < 2 ^ 32 := by
    have := Nat.mod_lt (value.toNat + step.toNat) (Nat.add_one_pos max.toNat)
    have := max.toNat_lt
    omega
  simp only [wrapAdd, UInt64.toNat_toUInt32, UInt64.toNat_mod, UInt64.toNat_add,
    UInt32.toNat_toUInt64, UInt64.toNat_one, Nat.mod_eq_of_lt sum, Nat.mod_eq_of_lt period,
    Nat.mod_eq_of_lt below]

namespace AlarmBase

variable {base : AlarmBase} {ticks : Nat}

/-- Counter values before the counter wraps. -/
def period (base : AlarmBase) : Nat := base.maxAllowedValue.toNat + 1

/-- The counts that a counter has made after so many ticks.  The first of them takes one tick more
than the others. -/
def counts (base : AlarmBase) (ticks : Nat) : Nat := (ticks - 1) / base.ticksPerBase.toNat

theorem period_pos (base : AlarmBase) : 0 < base.period := Nat.add_one_pos _

theorem ticksPerBase_pos (runs : base.ticksPerBase ≠ 0) : 0 < base.ticksPerBase.toNat := by
  apply Nat.pos_of_ne_zero
  intro zero
  exact runs (UInt32.toNat_inj.mp zero)

theorem counts_mono (base : AlarmBase) {early late : Nat} (le : early ≤ late) :
    base.counts early ≤ base.counts late :=
  Nat.div_le_div_right (Nat.sub_le_sub_right le 1)

/-- The tick of the next count is not past. -/
theorem le_next (runs : base.ticksPerBase ≠ 0) (ticks : Nat) :
    ticks ≤ base.ticksPerBase.toNat * (base.counts ticks + 1) := by
  have := Nat.lt_mul_div_succ (ticks - 1) (ticksPerBase_pos runs)
  rw [counts]
  omega

/-- The next count is at most as many ticks away as a count takes. -/
theorem next_le (base : AlarmBase) (ticks : Nat) :
    base.ticksPerBase.toNat * (base.counts ticks + 1) ≤ ticks + base.ticksPerBase.toNat := by
  have := Nat.mul_div_le (ticks - 1) base.ticksPerBase.toNat
  rw [counts, Nat.mul_add_one]
  omega

/-- One tick makes the next count if it is the tick of that count. -/
theorem counts_add_one (runs : base.ticksPerBase ≠ 0) (ticks : Nat) :
    base.counts (ticks + 1) =
      if base.ticksPerBase.toNat * (base.counts ticks + 1) = ticks then base.counts ticks + 1
      else base.counts ticks := by
  have positive := ticksPerBase_pos runs
  have lower := base.next_le ticks
  have upper := le_next runs ticks
  change ticks / base.ticksPerBase.toNat = _
  split
  · rename_i here
    apply Nat.div_eq_of_lt_le
    · rw [mul_comm, here]
    · rw [add_one_mul, mul_comm, here]
      omega
  · apply Nat.div_eq_of_lt_le
    · rw [mul_comm]
      rw [mul_add_one] at lower
      omega
    · rw [mul_comm]
      omega

end AlarmBase

namespace Counter

open AlarmBase

variable {base : AlarmBase} {ticks : Nat}

/-- A counter after so many ticks. -/
def afterTicks (base : AlarmBase) (ticks : Nat) : Counter where
  base
  value := UInt32.ofNat (base.counts ticks % base.period)
  nextTick := UInt32.ofNat (base.ticksPerBase.toNat * (base.counts ticks + 1))
  lastTick := UInt32.ofNat (base.ticksPerBase.toNat * base.counts ticks)

theorem afterTicks_zero (base : AlarmBase) : afterTicks base 0 = new base := by
  simp [afterTicks, new, counts]

theorem toNat_value_afterTicks (base : AlarmBase) (ticks : Nat) :
    (afterTicks base ticks).value.toNat = base.counts ticks % base.period := by
  have below := Nat.mod_lt (base.counts ticks) base.period_pos
  have bounded := base.maxAllowedValue.toNat_lt
  rw [period] at below ⊢
  simp only [afterTicks, period, UInt32.toNat_ofNat']
  omega

theorem toNat_lastTick_afterTicks (base : AlarmBase) (ticks : Nat) :
    (afterTicks base ticks).lastTick.toNat =
      base.ticksPerBase.toNat * base.counts ticks % 2 ^ 32 := by
  rw [afterTicks, UInt32.toNat_ofNat']

theorem toNat_nextTick_afterTicks (base : AlarmBase) (ticks : Nat) :
    (afterTicks base ticks).nextTick.toNat =
      base.ticksPerBase.toNat * (base.counts ticks + 1) % 2 ^ 32 := by
  rw [afterTicks, UInt32.toNat_ofNat']

/-- The tick of the next count is told apart from all others even though it is kept modulo 2^32,
since a count takes no longer than that. -/
theorem nextTick_afterTicks_eq_iff (runs : base.ticksPerBase ≠ 0) (ticks : Nat) :
    (afterTicks base ticks).nextTick = UInt32.ofNat ticks ↔
      base.ticksPerBase.toNat * (base.counts ticks + 1) = ticks := by
  have lower := base.next_le ticks
  have upper := le_next runs ticks
  have bounded := base.ticksPerBase.toNat_lt
  rw [← UInt32.toNat_inj, toNat_nextTick_afterTicks, UInt32.toNat_ofNat']
  omega

theorem succValue_afterTicks (base : AlarmBase) (ticks : Nat) :
    (afterTicks base ticks).succValue = UInt32.ofNat ((base.counts ticks + 1) % base.period) := by
  have value := toNat_value_afterTicks base ticks
  have below := Nat.mod_lt (base.counts ticks) base.period_pos
  have bounded := base.maxAllowedValue.toNat_lt
  have wrapped : (base.counts ticks + 1) % base.period =
      (base.counts ticks % base.period + 1) % base.period := (Nat.mod_add_mod ..).symm
  rw [wrapped, ← value] at *
  rw [period] at *
  have atMax : (afterTicks base ticks).value = base.maxAllowedValue ↔
      (afterTicks base ticks).value.toNat = base.maxAllowedValue.toNat := UInt32.toNat_inj.symm
  change (if (afterTicks base ticks).value = base.maxAllowedValue then 0
    else (afterTicks base ticks).value + 1) = _
  split
  · rename_i last
    rw [atMax.mp last, Nat.mod_self]
    rfl
  · rename_i notLast
    have less := mt atMax.mpr notLast
    rw [Nat.mod_eq_of_lt (by omega), UInt32.ofNat_add, UInt32.ofNat_toNat]
    rfl

/-- A tick takes a counter to where it stands one tick later. -/
theorem advance_afterTicks (runs : base.ticksPerBase ≠ 0) (ticks : Nat) :
    (afterTicks base ticks).advance (UInt32.ofNat ticks) = afterTicks base (ticks + 1) := by
  have counted := counts_add_one runs ticks
  unfold advance
  simp only [nextTick_afterTicks_eq_iff runs]
  split
  · rename_i here
    rw [if_pos here] at counted
    rw [succValue_afterTicks]
    simp only [afterTicks, counted]
    congr 1
    · rw [mul_add_one _ (base.counts ticks + 1), UInt32.ofNat_add, UInt32.ofNat_toNat]
    · rw [here]
  · rename_i elsewhere
    rw [if_neg elsewhere] at counted
    simp only [afterTicks, counted]

end Counter

/-! ### The table that a kernel boots with -/

namespace AlarmTable

/-- Alarms are bound in their order and not yet armed. -/
theorem bindAll_eq_ok {table after : AlarmTable} {specs : List AlarmSpec}
    (bound : table.bindAll specs = .ok after) :
    after.freeTick = table.freeTick ∧ after.counters = table.counters ∧
      after.alarms.toList =
        table.alarms.toList ++ specs.map fun spec => { toAlarmSpec := spec } := by
  induction specs generalizing table with
  | nil =>
      cases bound
      simp
  | cons spec rest ih =>
      unfold bindAll at bound
      split at bound
      · cases bound
      · split at bound
        · cases bound
        · obtain ⟨freeTick, counters, alarms⟩ := ih bound
          refine ⟨freeTick, counters, ?_⟩
          rw [alarms]
          simp

theorem build_eq_ok {bases : List AlarmBase} {specs : List AlarmSpec} {table : AlarmTable}
    (built : build bases specs = .ok table) :
    table.freeTick = 0 ∧ table.counters.toList = bases.map Counter.new ∧
      table.alarms.toList = specs.map fun spec => { toAlarmSpec := spec } := by
  unfold build at built
  split at built
  · obtain ⟨freeTick, counters, alarms⟩ := bindAll_eq_ok built
    exact ⟨freeTick, by rw [counters], by simpa using alarms⟩
  · cases built

end AlarmTable

theorem Kernel.boot_alarms {C : Type} [Machine C] {config : Configuration} {console : Console}
    {kernel : Kernel C} {seen : Trace} (booted : boot config console = .ok (kernel, seen)) :
    AlarmTable.build config.counters config.alarms = .ok kernel.alarms := by
  unfold boot at booted
  obtain ⟨resources, -, booted⟩ := bind_eq_ok booted
  obtain ⟨alarms, built, booted⟩ := bind_eq_ok booted
  obtain ⟨declared, -, booted⟩ := bind_eq_ok booted
  obtain ⟨activated, -, booted⟩ := bind_eq_ok booted
  cases booted
  exact built

/-- Counters advance. -/
theorem Configuration.Built.runs {config : Configuration} (built : config.Built) :
    ∀ base ∈ config.counters, base.ticksPerBase ≠ 0 := by
  intro base member
  have valid := built.valid.bases base member
  rw [Configuration.validBase, Bool.and_eq_true, decide_eq_true_iff] at valid
  exact valid.1

/-! ### What operations do to the table -/

/-- A change of the table that is not a tick: at most one alarm is armed or cancelled, and none is
bound anew. -/
inductive AlarmTable.Edit (table : AlarmTable) : AlarmTable → Prop where
  | kept : Edit table table
  | modified (id : AlarmId) (f : Alarm → Alarm)
      (bound : ∀ alarm, (f alarm).toAlarmSpec = alarm.toAlarmSpec) : Edit table (table.modify id f)

theorem Request.edit_onAlarms (request : Request) (table : AlarmTable) :
    table.Edit (request.onAlarms table) := by
  have edit : ∀ {result : Except Refusal AlarmTable},
      (∀ after, result = .ok after → table.Edit after) →
      table.Edit (result.toOption.getD table) := by
    intro result edits
    cases result with
    | error reason => exact .kept
    | ok after => exact edits after rfl
  cases request with
  | setRelAlarm id increment cycle =>
      apply edit
      intro after accepted
      obtain ⟨alarm, counter, -, -, rfl⟩ := AlarmTable.setRelative_eq_ok accepted
      exact .modified id _ fun _ => rfl
  | setAbsAlarm id start cycle =>
      apply edit
      intro after accepted
      obtain ⟨alarm, counter, -, -, rfl⟩ := AlarmTable.setAbsolute_eq_ok accepted
      exact .modified id _ fun _ => rfl
  | cancelAlarm id =>
      apply edit
      intro after accepted
      obtain ⟨alarm, -, -, rfl⟩ := AlarmTable.cancel_eq_ok accepted
      exact .modified id _ fun _ => rfl
  | _ => exact .kept

theorem Operation.edit_onAlarms {C : Type} {operation : Operation C}
    (other : operation.isTick = false) (table : AlarmTable) :
    table.Edit (operation.onAlarms table) := by
  cases asked : operation.request? with
  | none =>
      rw [onAlarms_of_none other asked]
      exact .kept
  | some request =>
      rw [onAlarms_of_request? asked]
      exact request.edit_onAlarms table

namespace Lifetime

variable {C : Type} [Machine C] {config : Configuration} {steps : List (Step C)}
  {kernel : Kernel C}

omit [Machine C] in
/-- The ticks among some steps. -/
def ticks (steps : List (Step C)) : Nat := steps.countP (·.operation.isTick)

theorem built (lifetime : Lifetime config steps kernel) : config.Built := by
  induction lifetime with
  | boot built => exact built
  | step _ _ ih => exact ih

omit [Machine C] in
/-- One more step is one more tick, or none. -/
theorem ticks_cons (step : Step C) (steps : List (Step C)) :
    ticks (step :: steps) = if step.operation.isTick then ticks steps + 1 else ticks steps := by
  rw [ticks, List.countP_cons]
  split <;> rfl

/-- The clocks of a kernel count the ticks since it booted: the free-running tick does so modulo its
range, and every counter stands where so many ticks take it. -/
theorem clocks_eq (lifetime : Lifetime config steps kernel) :
    kernel.alarms.freeTick = UInt32.ofNat (ticks steps) ∧
      kernel.alarms.counters.toList =
        config.counters.map fun base => Counter.afterTicks base (ticks steps) := by
  induction lifetime with
  | boot built booted heap =>
      obtain ⟨freeTick, counters, -⟩ := AlarmTable.build_eq_ok (Kernel.boot_alarms booted)
      refine ⟨freeTick, counters.trans ?_⟩
      exact List.map_congr_left fun base _ => (Counter.afterTicks_zero base).symm
  | @step steps kernel earlier operation ih =>
      obtain ⟨freeTick, counters⟩ := ih
      rw [Step.alarms_after, ticks_cons]
      dsimp only
      split
      · rename_i tick
        rw [Operation.onAlarms_of_isTick tick]
        unfold AlarmTable.tick AlarmTable.advance
        dsimp only
        constructor
        · rw [freeTick, UInt32.ofNat_add]
          rfl
        · rw [Array.toList_map, counters, freeTick, List.map_map]
          apply List.map_congr_left
          intro base member
          exact Counter.advance_afterTicks (earlier.built.runs base member) _
      · rename_i other
        have edit := Operation.edit_onAlarms (Bool.eq_false_iff.mpr other) kernel.alarms
        generalize operation.onAlarms kernel.alarms = after at edit ⊢
        cases edit with
        | kept => exact ⟨freeTick, counters⟩
        | modified id f bound => exact ⟨freeTick, counters⟩

/-- Where the counter of an alarm stands. -/
theorem counter_eq (lifetime : Lifetime config steps kernel) {id : CounterId} {base : AlarmBase}
    (counts : config.counters[id]? = some base) :
    kernel.alarms.counters[id]? = some (Counter.afterTicks base (ticks steps)) := by
  rw [← Array.getElem?_toList, lifetime.clocks_eq.2, List.getElem?_map, counts]
  rfl

/-- Alarms stay bound as they are configured. -/
theorem bound_eq (lifetime : Lifetime config steps kernel) (id : AlarmId) :
    kernel.alarms.alarms[id]?.map (·.toAlarmSpec) = config.alarms[id]? := by
  induction lifetime with
  | boot built booted heap =>
      obtain ⟨-, -, alarms⟩ := AlarmTable.build_eq_ok (Kernel.boot_alarms booted)
      rw [← Array.getElem?_toList, alarms, List.getElem?_map, Option.map_map]
      exact Option.map_id'
  | @step steps kernel earlier operation ih =>
      rw [Step.alarms_after, ← ih]
      dsimp only
      cases tick : operation.isTick with
      | true =>
          rw [Operation.onAlarms_of_isTick tick, AlarmTable.getElem?_tick, Option.map_map]
          exact Option.map_congr fun alarm _ => kernel.alarms.toAlarmSpec_expireOne alarm
      | false =>
          have edit := Operation.edit_onAlarms tick kernel.alarms
          generalize operation.onAlarms kernel.alarms = after at edit ⊢
          cases edit with
          | kept => rfl
          | modified other f bound =>
              rw [AlarmTable.getElem?_modify]
              split
              · rw [Option.map_map]
                exact Option.map_congr fun alarm _ => bound alarm
              · rfl

/-- A kernel can run on for any number of ticks. -/
theorem exists_ticks (lifetime : Lifetime config steps kernel) (count : Nat) :
    ∃ (later : List (Step C)) (last : Kernel C),
      Lifetime config later last ∧ ticks later = ticks steps + count := by
  induction count with
  | zero => exact ⟨steps, kernel, lifetime, rfl⟩
  | succ count ih =>
      obtain ⟨later, last, longer, counted⟩ := ih
      have one : ticks (⟨last, .tick⟩ :: later) = ticks later + 1 := ticks_cons _ later
      exact ⟨_, _, longer.step .tick, by rw [one, counted, Nat.add_assoc]⟩

/-- Each counter of a kernel, after however many ticks since it booted, shows the counts that it has
made, modulo its period.  The tick of its last count, that of its next count and the free-running
tick are known modulo 2^32, and that is enough: the next count is seen to be due in its own tick and
in no other. -/
theorem keeps_time (lifetime : Lifetime config steps kernel) {id : CounterId} {base : AlarmBase}
    (counts : config.counters[id]? = some base) :
    ∃ counter, kernel.alarms.counters[id]? = some counter ∧ counter.base = base ∧
      counter.value.toNat = base.counts (ticks steps) % (base.maxAllowedValue.toNat + 1) ∧
      counter.lastTick.toNat =
        base.ticksPerBase.toNat * base.counts (ticks steps) % 2 ^ 32 ∧
      counter.nextTick.toNat =
        base.ticksPerBase.toNat * (base.counts (ticks steps) + 1) % 2 ^ 32 ∧
      kernel.alarms.freeTick.toNat = ticks steps % 2 ^ 32 ∧
      (counter.nextTick = kernel.alarms.freeTick ↔
        ticks steps = base.ticksPerBase.toNat * (base.counts (ticks steps) + 1)) := by
  have runs := lifetime.built.runs base (List.mem_of_getElem? counts)
  have clock := lifetime.clocks_eq.1
  refine ⟨_, lifetime.counter_eq counts, rfl, Counter.toNat_value_afterTicks base _,
    Counter.toNat_lastTick_afterTicks base _, Counter.toNat_nextTick_afterTicks base _, ?_, ?_⟩
  · rw [clock, UInt32.toNat_ofNat']
  · rw [clock, Counter.nextTick_afterTicks_eq_iff runs, eq_comm]

/-- The idle task, and a counter that makes a count every three ticks and wraps after seven. -/
def waltz : Configuration :=
  { tasks := [Configuration.plainTask leastUrgent false]
    counters := [{ maxAllowedValue := 6, ticksPerBase := 3, minCycle := 1 }] }

theorem built_waltz : waltz.Built :=
  (Configuration.Built.new (Configuration.plainTask leastUrgent false)).addCounter
    (show Configuration.addCounter _ { maxAllowedValue := 6, ticksPerBase := 3, minCycle := 1 } =
      .ok (0, waltz) from rfl)

/-- The free-running tick has wrapped, and so has the tick of the next count, which is due.  Three
does not divide 2^32. -/
theorem keeps_time_waltz :
    ∃ (steps : List (Step FrameIndex)) (kernel : Kernel FrameIndex),
      Lifetime waltz steps kernel ∧ ticks steps = 2 ^ 32 + 2 ∧
        ∃ counter, kernel.alarms.counters[0]? = some counter ∧ counter.value.toNat = 1 ∧
          counter.lastTick.toNat = 2 ^ 32 - 1 ∧ counter.nextTick.toNat = 2 ∧
          kernel.alarms.freeTick.toNat = 2 ∧ counter.nextTick = kernel.alarms.freeTick := by
  have booted : Lifetime waltz ([] : List (Step FrameIndex)) _ :=
    .boot built_waltz (show Kernel.boot waltz Hosted.console = .ok _ from rfl) none
  obtain ⟨steps, kernel, lifetime, counted⟩ := booted.exists_ticks (2 ^ 32 + 2)
  have count : ticks steps = 2 ^ 32 + 2 := counted.trans (Nat.zero_add _)
  obtain ⟨counter, found, -, value, lastTick, nextTick, freeTick, due⟩ :=
    lifetime.keeps_time (show waltz.counters[0]? = some _ from rfl)
  rw [count] at value lastTick nextTick freeTick due
  exact ⟨steps, kernel, lifetime, count, counter, found, value, lastTick, nextTick, freeTick,
    due.mpr rfl⟩

end Lifetime

end Rtos
