/-
Module: Rtos.Proofs.AlarmReading
Purpose: What is read from an alarm.  It is the time since the counter came to the count at which the
  alarm was armed or expired last, put together from whole counts and the ticks of the present one,
  on clocks that wrap at different values.
Main definitions: Counter.reading, Step.Restarts
Main statements: `toNat_elapsed`, `Counter.toNat_reading`, `Lifetime.lastCount_eq`,
  `Lifetime.reads_since_last`
-/
import Rtos.Proofs.AlarmSchedule

namespace Rtos

/-! ### Times on clocks that wrap -/

/-- Between two readings of a clock that wraps there lies the time that has passed, modulo the period
of the clock. -/
theorem toNat_elapsed {now last max : Tick} {early late : Nat} (le : early ≤ late)
    (reads : now.toNat = late % (max.toNat + 1)) (read : last.toNat = early % (max.toNat + 1)) :
    (elapsed now last max).toNat = (late - early) % (max.toNat + 1) := by
  obtain ⟨passed, rfl⟩ := Nat.exists_eq_add_of_le le
  have bounded := max.toNat_lt
  have period := Nat.add_one_pos max.toNat
  have lastBelow := Nat.mod_lt early period
  have passedBelow := Nat.mod_lt passed period
  rw [Nat.add_mod] at reads
  rw [← read] at reads lastBelow
  rw [Nat.add_sub_cancel_left]
  have ahead : last ≤ now ↔ last.toNat ≤ now.toNat := UInt32.le_iff_toNat_le
  unfold elapsed
  -- Less than a period later the clock is ahead of where it was, or has gone round to behind it.
  rcases Nat.lt_or_ge (last.toNat + passed % (max.toNat + 1)) (max.toNat + 1) with straight | round
  · rw [Nat.mod_eq_of_lt straight] at reads
    rw [if_pos (ahead.mpr (by omega)), UInt32.toNat_sub_of_le _ _ (ahead.mpr (by omega))]
    omega
  · rw [Nat.mod_eq_sub_mod round, Nat.mod_eq_of_lt (by omega)] at reads
    have reached : last ≤ max := UInt32.le_iff_toNat_le.mpr (by omega)
    rw [if_neg (mt ahead.mp (by omega)), UInt32.toNat_add, UInt32.toNat_add,
      UInt32.toNat_sub_of_le _ _ reached, UInt32.toNat_one]
    omega

/-- The tick of the last count is not to come. -/
theorem AlarmBase.last_le (base : AlarmBase) (ticks : Nat) :
    base.ticksPerBase.toNat * base.counts ticks ≤ ticks :=
  (Nat.mul_div_le (ticks - 1) base.ticksPerBase.toNat).trans (Nat.sub_le ticks 1)

namespace Counter

variable {base : AlarmBase} {started ticks : Nat} {last : Tick}

/-- The ticks since a count was recorded: so many whole counts, and the ticks of the present one. -/
def reading (counter : Counter) (now last : Tick) : Tick :=
  elapsed counter.value last counter.base.maxAllowedValue * counter.base.ticksPerBase +
    elapsed now counter.lastTick maxTick

/-- The counts are told modulo the period of the counter, and the sum modulo the range of a tick. -/
theorem toNat_reading (later : started ≤ ticks) (recorded : last = (afterTicks base started).value) :
    ((afterTicks base ticks).reading (UInt32.ofNat ticks) last).toNat =
      ((base.counts ticks - base.counts started) % (base.maxAllowedValue.toNat + 1) *
          base.ticksPerBase.toNat +
        (ticks - base.ticksPerBase.toNat * base.counts ticks)) % 2 ^ 32 := by
  have counts : (elapsed (afterTicks base ticks).value last base.maxAllowedValue).toNat =
      (base.counts ticks - base.counts started) % (base.maxAllowedValue.toNat + 1) :=
    toNat_elapsed (base.counts_mono later) (toNat_value_afterTicks base ticks)
      (recorded ▸ toNat_value_afterTicks base started)
  have rest : (elapsed (UInt32.ofNat ticks) (afterTicks base ticks).lastTick maxTick).toNat =
      (ticks - base.ticksPerBase.toNat * base.counts ticks) % (maxTick.toNat + 1) :=
    toNat_elapsed (base.last_le ticks) UInt32.toNat_ofNat' (toNat_lastTick_afterTicks base ticks)
  calc ((afterTicks base ticks).reading (UInt32.ofNat ticks) last).toNat
      = ((elapsed (afterTicks base ticks).value last base.maxAllowedValue).toNat *
            base.ticksPerBase.toNat % 2 ^ 32 +
          (elapsed (UInt32.ofNat ticks) (afterTicks base ticks).lastTick maxTick).toNat) %
            2 ^ 32 := by
        rw [reading, UInt32.toNat_add, UInt32.toNat_mul]
        rfl
    _ = _ := by
        rw [counts, rest]
        exact (Nat.add_mod ..).symm

/-- As long as the counter has not wrapped since then, these are all the ticks since it came to the
recorded count. -/
theorem reading_eq (later : started ≤ ticks)
    (unwrapped : base.counts ticks - base.counts started ≤ base.maxAllowedValue.toNat) :
    (base.counts ticks - base.counts started) % (base.maxAllowedValue.toNat + 1) *
          base.ticksPerBase.toNat +
        (ticks - base.ticksPerBase.toNat * base.counts ticks) =
      ticks - base.ticksPerBase.toNat * base.counts started := by
  have passed := Nat.mul_le_mul_left base.ticksPerBase.toNat (base.counts_mono later)
  have last := base.last_le ticks
  rw [Nat.mod_eq_of_lt (Nat.lt_add_one_of_le unwrapped), mul_comm, Nat.mul_sub]
  omega

end Counter

/-- What is read from an active alarm. -/
theorem AlarmTable.sinceLast_eq {table : AlarmTable} {id : AlarmId} {alarm : Alarm}
    {counter : Counter} (found : table.lookup id = .ok (alarm, counter)) (active : alarm.active) :
    table.sinceLast id = .ok (counter.reading table.freeTick alarm.lastCount) := by
  obtain ⟨here, drives⟩ := lookup_eq_ok.mp found
  simp only [sinceLast, findAlarm_eq_ok.mpr here, findCounter_eq_ok.mpr drives, active, bind,
    Except.bind]
  rfl

/-! ### What is recorded of an alarm -/

/-- The step starts the time anew that is measured with an alarm: it arms the alarm, or it is a tick
in which the alarm expires. -/
inductive Step.Restarts {C : Type} [Machine C] (step : Step C) (id : AlarmId) : Prop where
  | armed {increment cycle : Nat} (arms : step.Arms id increment cycle)
  | expired (tick : step.operation.isTick) (seen : id ∈ expirations step.done.trace)

namespace Lifetime

variable {C : Type} [Machine C] {config : Configuration} {steps early later : List (Step C)}
  {step : Step C} {kernel : Kernel C} {id : AlarmId} {spec : AlarmSpec} {base : AlarmBase}
  {alarm : Alarm}

/-- A tick is seen to expire an alarm, or leaves it as it is. -/
theorem expired_or_kept (lifetime : Lifetime config (step :: steps) kernel)
    (bound : config.alarms[id]? = some spec) (driven : config.counters[spec.counter]? = some base)
    (tick : step.operation.isTick) (here : kernel.alarms.alarms[id]? = some alarm) :
    ∃ before, step.before.alarms.alarms[id]? = some before ∧
      (id ∈ expirations step.done.trace ∧
          alarm = before.expire (Counter.afterTicks base (ticks steps)) ∨
        id ∉ expirations step.done.trace ∧ alarm = before) := by
  obtain ⟨earlier, rfl⟩ := lifetime.latest
  obtain ⟨before, found⟩ := earlier.lookup_eq bound driven
  obtain ⟨was, -⟩ := AlarmTable.lookup_eq_ok.mp found
  refine ⟨before, was, ?_⟩
  obtain ⟨kernel, operation⟩ := step
  have seen : id ∈ expirations (Step.done ⟨kernel, operation⟩).trace ↔
      before.isDue (Counter.afterTicks base (ticks steps)) := by
    cases operation with
    | tick => rw [Step.expirations_tick, earlier.mem_dueIds_iff bound driven was]
    | _ => cases tick
  have after := here.symm.trans (earlier.alarm_after_tick bound driven tick was)
  rw [seen]
  split at after
  · rename_i due
    exact .inl ⟨due, Option.some.inj after⟩
  · rename_i notDue
    exact .inr ⟨notDue, Option.some.inj after⟩

/-- The count at which the time is started anew is recorded. -/
theorem lastCount_of_restarts (lifetime : Lifetime config (step :: early) kernel)
    (bound : config.alarms[id]? = some spec) (driven : config.counters[spec.counter]? = some base)
    (restarts : step.Restarts id) (here : kernel.alarms.alarms[id]? = some alarm) :
    alarm.lastCount = (Counter.afterTicks base (ticks early)).value := by
  cases restarts with
  | armed arms =>
      obtain ⟨earlier, rfl⟩ := lifetime.latest
      obtain ⟨before, drives⟩ := earlier.lookup_eq bound driven
      obtain ⟨_, counter, kind, next, again, found, after, -⟩ := arms.alarm_after
      cases found.symm.trans drives
      cases here.symm.trans after
      rfl
  | expired tick seen =>
      obtain ⟨before, -, ⟨-, rfl⟩ | ⟨unseen, -⟩⟩ :=
        lifetime.expired_or_kept bound driven tick here
      · rfl
      · exact absurd seen unseen

/-- An alarm that is active after a step that did not start its time anew stood as it stands. -/
theorem alarm_before (lifetime : Lifetime config (step :: steps) kernel)
    (bound : config.alarms[id]? = some spec) (driven : config.counters[spec.counter]? = some base)
    (goesOn : ¬ step.Restarts id) (here : kernel.alarms.alarms[id]? = some alarm)
    (active : alarm.active) : step.before.alarms.alarms[id]? = some alarm := by
  cases tick : step.operation.isTick with
  | true =>
      obtain ⟨before, was, ⟨seen, -⟩ | ⟨-, rfl⟩⟩ :=
        lifetime.expired_or_kept bound driven tick here
      · exact absurd (.expired tick seen) goesOn
      · exact was
  | false =>
      obtain ⟨earlier, rfl⟩ := lifetime.latest
      -- A step that disarmed the alarm would have left it inactive.
      have kept : ¬ step.Cancels id := by
        intro cancels
        obtain ⟨other, after, inactive⟩ := cancels.alarm_after
        cases here.symm.trans after
        rw [inactive] at active
        cases active
      have same := Step.alarm_after_of_calm tick (fun _ _ arms => goesOn (.armed arms)) kept
      exact same.symm.trans here

/-- As long as an alarm is active, the count at which its time was started last stays on record. -/
theorem lastCount_eq (lifetime : Lifetime config (later ++ step :: early) kernel)
    (bound : config.alarms[id]? = some spec) (driven : config.counters[spec.counter]? = some base)
    (restarts : step.Restarts id) (goesOn : ∀ other ∈ later, ¬ other.Restarts id)
    (here : kernel.alarms.alarms[id]? = some alarm) (active : alarm.active) :
    alarm.lastCount = (Counter.afterTicks base (ticks early)).value := by
  induction later generalizing kernel with
  | nil => exact lifetime.lastCount_of_restarts bound driven restarts here
  | cons other rest ih =>
      obtain ⟨goesOnNow, goesOn⟩ := List.forall_mem_cons.mp goesOn
      have before := lifetime.alarm_before bound driven goesOnNow here active
      exact ih lifetime.latest.1 goesOn before

/-- The time of an active alarm was started some time, and for the last time by one of the steps. -/
theorem exists_restarts (lifetime : Lifetime config steps kernel)
    (bound : config.alarms[id]? = some spec) (driven : config.counters[spec.counter]? = some base)
    (here : kernel.alarms.alarms[id]? = some alarm) (active : alarm.active) :
    ∃ later step early, steps = later ++ step :: early ∧ step.Restarts id ∧
      ∀ other ∈ later, ¬ other.Restarts id := by
  induction lifetime with
  | boot built booted heap =>
      obtain ⟨-, -, alarms⟩ := AlarmTable.build_eq_ok (Kernel.boot_alarms booted)
      rw [← Array.getElem?_toList, alarms, List.getElem?_map] at here
      obtain ⟨_, -, rfl⟩ := Option.map_eq_some_iff.mp here
      cases active
  | @step steps kernel earlier operation ih =>
      by_cases restarts : (⟨kernel, operation⟩ : Step C).Restarts id
      · exact ⟨[], _, _, rfl, restarts, List.forall_mem_nil _⟩
      · have before := (earlier.step operation).alarm_before bound driven restarts here active
        obtain ⟨later, step, early, rfl, started, goesOn⟩ := ih before
        exact ⟨_ :: later, step, early, rfl, started, List.forall_mem_cons.mpr ⟨restarts, goesOn⟩⟩

/-- An active alarm was armed or has expired at some time, and what is read from it is the time
since it last did one or the other: the whole counts since then, as far as the counter can tell them
apart, and the ticks of the present count.  Unless the counter has come to that count again since,
these are the ticks since it first came to it. -/
theorem reads_since_last (lifetime : Lifetime config steps kernel)
    (bound : config.alarms[id]? = some spec) (driven : config.counters[spec.counter]? = some base)
    (here : kernel.alarms.alarms[id]? = some alarm) (active : alarm.active) :
    (∃ later step early, steps = later ++ step :: early ∧ step.Restarts id ∧
      ∀ other ∈ later, ¬ other.Restarts id) ∧
    ∀ later step early, steps = later ++ step :: early → step.Restarts id →
      (∀ other ∈ later, ¬ other.Restarts id) →
      ∃ reading, ((Kernel.getAlarm id).run kernel).result = .ok reading ∧
        reading.toNat =
          ((base.counts (ticks steps) - base.counts (ticks early)) %
              (base.maxAllowedValue.toNat + 1) * base.ticksPerBase.toNat +
            (ticks steps - base.ticksPerBase.toNat * base.counts (ticks steps))) % 2 ^ 32 ∧
        (base.counts (ticks steps) - base.counts (ticks early) ≤ base.maxAllowedValue.toNat →
          reading.toNat =
            (ticks steps - base.ticksPerBase.toNat * base.counts (ticks early)) % 2 ^ 32) := by
  refine ⟨lifetime.exists_restarts bound driven here active, ?_⟩
  rintro later step early rfl restarts goesOn
  have recorded := lifetime.lastCount_eq bound driven restarts goesOn here active
  have further : ticks early ≤ ticks (later ++ step :: early) := by
    refine List.Sublist.countP_le ?_
    exact (List.sublist_cons_self step early).trans (List.sublist_append_right later _)
  obtain ⟨other, found⟩ := lifetime.lookup_eq bound driven
  cases here.symm.trans (AlarmTable.lookup_eq_ok.mp found).1
  have read := AlarmTable.sinceLast_eq found active
  rw [lifetime.clocks_eq.1] at read
  have reading := Counter.toNat_reading further recorded
  exact ⟨_, read, reading, fun unwrapped => by rw [reading, Counter.reading_eq further unwrapped]⟩

/-- Wound up, the metronome goes on for two ticks. -/
def twoTicks : List (Step FrameIndex) :=
  Execution.replay winding.after (winding :: threeTicks) [.tick, .tick]

/-- The third tick, in which the alarm expires. -/
def ringing : Step FrameIndex :=
  ⟨Execution.reached winding.after [.tick, .tick], .tick⟩

/-- Three ticks more, until the alarm is about to expire again. -/
def ringingOut : List (Step FrameIndex) :=
  Execution.replay ringing.after [] [.tick, .tick, .tick]

/-- The kernel of the metronome after nine ticks in all. -/
def rungOut : Kernel FrameIndex := Execution.reached ringing.after [.tick, .tick, .tick]

theorem ringing_restarts : ringing.Restarts 0 := .expired rfl (by decide +kernel)

theorem ringingOut_goes_on : ∀ other ∈ ringingOut, ¬ other.Restarts 0 := by
  have silent : ∀ other ∈ ringingOut, 0 ∉ expirations other.done.trace := by decide +kernel
  rintro other member (arms | ⟨-, seen⟩)
  · have tick := (mem_replay member).resolve_left List.not_mem_nil
    have same : other.operation = .tick := by simpa using tick
    exact (Step.calm_of_isTick (by rw [same]; rfl) 0).1 _ _ arms
  · exact silent other member seen

/-- The counter has wrapped since the alarm expired, from two past zero to one, and five ticks have
passed since it came to two. -/
theorem reads_since_last_metronome :
    Lifetime metronome (ringingOut ++ ringing :: twoTicks) rungOut ∧
      ticks twoTicks = 5 ∧ ticks (ringingOut ++ ringing :: twoTicks) = 9 ∧
      ∃ reading, ((Kernel.getAlarm 0).run rungOut).result = .ok reading ∧ reading.toNat = 5 := by
  have lifetime : Lifetime metronome (ringingOut ++ ringing :: twoTicks) rungOut :=
    of_metronome [.tick, .tick, .tick, .request (.setRelAlarm 0 1 2), .tick, .tick, .tick, .tick,
      .tick, .tick]
  have bound : metronome.alarms[0]? =
    some { counter := 0, action := .service (.setEvent idleTask 1) } := rfl
  obtain ⟨alarm, here, active⟩ := Option.map_eq_some_iff.mp
    (show (rungOut.alarms.alarms[0]?.map fun alarm => alarm.active) = some true by decide +kernel)
  obtain ⟨reading, read, -, since⟩ :=
    (lifetime.reads_since_last bound rfl here active).2 _ _ _ rfl ringing_restarts ringingOut_goes_on
  have start : ticks twoTicks = 5 := by decide +kernel
  have now : ticks (ringingOut ++ ringing :: twoTicks) = 9 := by decide +kernel
  rw [start, now] at since
  exact ⟨lifetime, start, now, reading, read, since (by decide)⟩

end Lifetime

end Rtos
