/-
Module: Rtos.Proofs.AlarmSchedule
Purpose: The exact schedule of an alarm.  Once it is armed, the ticks in which it expires are settled
  by when and for what it was armed and by the number of ticks since boot; tasks, other alarms and
  the wrapping of clocks have no part in it.
Main definitions: Schedule, Schedule.due, Schedule.Follows, Step.Arms, Step.Cancels,
  Lifetime.actionsOf
Main statements: `Schedule.Follows.isDue_iff`, `Schedule.Follows.tick`,
  `Lifetime.acts_on_expirations`, `Lifetime.expires_iff_scheduled`
-/
import Mathlib.Data.Int.ModEq
import Rtos.Proofs.Timekeeping

namespace Rtos

/-- So many counts ahead of a value, round the wrap if need be, lies the start. -/
theorem add_mod_of_ahead {start value ahead period : Nat} (small : start < period)
    (counts : (ahead : Int) = ((start : Int) - value) % period) :
    ahead < period ∧ start = (value + ahead) % period := by
  have positive : (0 : Int) < period := by omega
  constructor
  · have below := Int.emod_lt_of_pos ((start : Int) - value) positive
    omega
  · have congruent := (Int.mod_modEq ((start : Int) - value) period).add_left (value : Int)
    rw [← counts, add_sub_cancel] at congruent
    have same : (value + ahead) % period = start % period := by
      exact_mod_cast congruent
    rw [same, Nat.mod_eq_of_lt small]

/-- What an alarm was armed for, and when: the characteristics of its counter, the ticks since boot,
the counts to its first expiry and the counts from each expiry to the next, or zero if there is but
one. -/
structure Schedule where
  base : AlarmBase
  armedAt : Nat
  increment : Nat
  cycle : Nat

namespace Schedule

variable {schedule : Schedule} {ticks k j : Nat} {alarm : Alarm}

/-- The count of an expiry, were the counter never to wrap.  Expiries are numbered from zero. -/
def count (schedule : Schedule) (k : Nat) : Nat :=
  schedule.base.counts schedule.armedAt + (schedule.increment + k * schedule.cycle)

/-- The ticks since boot when the tick of an expiry begins.  That is the first tick of its count,
unless the alarm was armed in the course of that very count. -/
def due (schedule : Schedule) (k : Nat) : Nat :=
  if schedule.increment + k * schedule.cycle = 0 then schedule.armedAt
  else schedule.base.ticksPerBase.toNat * schedule.count k + 1

/-- The ticks of a schedule, written out. -/
theorem exists_eq_due_iff (schedule : Schedule) (ticks : Nat) :
    (∃ k, ticks = schedule.due k) ↔
      schedule.increment = 0 ∧ ticks = schedule.armedAt ∨
        ∃ k, 0 < schedule.increment + k * schedule.cycle ∧
          ticks = schedule.base.ticksPerBase.toNat * schedule.count k + 1 := by
  constructor
  · rintro ⟨k, rfl⟩
    unfold due
    split
    · rename_i here
      exact .inl ⟨(Nat.add_eq_zero_iff.mp here).1, rfl⟩
    · rename_i ahead
      exact .inr ⟨k, Nat.pos_of_ne_zero ahead, rfl⟩
  · rintro (⟨now, rfl⟩ | ⟨k, ahead, rfl⟩)
    · exact ⟨0, by rw [due, now, Nat.zero_mul, if_pos rfl]⟩
    · exact ⟨k, by rw [due, if_neg (Nat.ne_of_gt ahead)]⟩

section Due

variable (runs : schedule.base.ticksPerBase ≠ 0)
include runs

theorem counts_due (k : Nat) : schedule.base.counts (schedule.due k) = schedule.count k := by
  unfold due
  split
  · rename_i here
    rw [count, here, Nat.add_zero]
  · exact Nat.mul_div_cancel_left _ (AlarmBase.ticksPerBase_pos runs)

theorem armedAt_le_due (k : Nat) : schedule.armedAt ≤ schedule.due k := by
  unfold due
  split
  · exact Nat.le_refl _
  · rename_i ahead
    have next := AlarmBase.le_next runs schedule.armedAt
    have later : schedule.base.counts schedule.armedAt + 1 ≤ schedule.count k := by
      rw [count]
      omega
    have := Nat.mul_le_mul_left schedule.base.ticksPerBase.toNat later
    omega

/-- Before the tick of an expiry the counter has not come so far. -/
theorem counts_lt (armed : schedule.armedAt ≤ ticks) (before : ticks < schedule.due k) :
    schedule.base.counts ticks < schedule.count k := by
  have positive := AlarmBase.ticksPerBase_pos runs
  unfold due at before
  split at before
  · omega
  · rename_i ahead
    have some : 0 < schedule.count k := by
      rw [count]
      omega
    have := Nat.mul_pos positive some
    rw [AlarmBase.counts, Nat.div_lt_iff_lt_mul positive, mul_comm]
    omega

theorem due_mono (le : k ≤ j) : schedule.due k ≤ schedule.due j := by
  by_contra later
  have lt := counts_lt runs (armedAt_le_due runs j) (Nat.lt_of_not_le later)
  rw [counts_due runs] at lt
  have := Nat.mul_le_mul_right schedule.cycle le
  simp only [count] at lt
  omega

theorem due_lt (cyclic : 0 < schedule.cycle) (lt : k < j) : schedule.due k < schedule.due j := by
  by_contra earlier
  have le := schedule.base.counts_mono (Nat.le_of_not_lt earlier)
  rw [counts_due runs, counts_due runs] at le
  have := Nat.mul_lt_mul_of_pos_right lt cyclic
  simp only [count] at le
  omega

end Due

/-- How far an alarm has come with its schedule.  Either its next expiry is ahead and less than a
wrap of the counter away, or it expired once and for all. -/
inductive Phase (schedule : Schedule) (ticks : Nat) (alarm : Alarm) : Prop where
  | ahead (k : Nat) (pending : alarm.isPending)
      (next : alarm.nextCount.toNat = schedule.count k % schedule.base.period)
      (passed : ∀ j < k, schedule.due j < ticks) (future : ticks ≤ schedule.due k)
      (near : schedule.count k < schedule.base.counts ticks + schedule.base.period)
  | finished (once : schedule.cycle = 0) (spent : alarm.isSpent) (passed : schedule.due 0 < ticks)

/-- The alarm keeps its schedule up to now. -/
structure Follows (schedule : Schedule) (ticks : Nat) (alarm : Alarm) : Prop where
  armed : schedule.armedAt ≤ ticks
  cycle : alarm.cycle.toNat = schedule.cycle
  fits : schedule.cycle < schedule.base.period
  phase : schedule.Phase ticks alarm

namespace Follows

variable (runs : schedule.base.ticksPerBase ≠ 0)
include runs

/-- An alarm that is pending is due when its counter has come to its next expiry. -/
theorem isDue_iff_of_ahead (armed : schedule.armedAt ≤ ticks) (pending : alarm.isPending)
    (next : alarm.nextCount.toNat = schedule.count k % schedule.base.period)
    (future : ticks ≤ schedule.due k)
    (near : schedule.count k < schedule.base.counts ticks + schedule.base.period) :
    alarm.isDue (Counter.afterTicks schedule.base ticks) ↔ ticks = schedule.due k := by
  have value := Counter.toNat_value_afterTicks schedule.base ticks
  rw [Alarm.isDue, pending, Bool.true_and, decide_eq_true_iff, ← UInt32.toNat_inj, value, next]
  constructor
  · intro same
    by_contra different
    have before := counts_lt runs armed (Nat.lt_of_le_of_ne future different)
    have apart := (Nat.modEq_iff_dvd' before.le).mp same
    have none := Nat.eq_zero_of_dvd_of_lt apart (by omega)
    omega
  · rintro rfl
    rw [counts_due runs]

/-- The alarm is due in the ticks of its schedule and in no others. -/
theorem isDue_iff (follows : schedule.Follows ticks alarm) :
    alarm.isDue (Counter.afterTicks schedule.base ticks) ↔ ∃ k, ticks = schedule.due k := by
  cases follows.phase with
  | ahead k pending next passed future near =>
      rw [isDue_iff_of_ahead runs follows.armed pending next future near]
      constructor
      · exact fun here => ⟨k, here⟩
      · rintro ⟨j, here⟩
        rcases Nat.lt_or_ge j k with past | notPast
        · have := passed j past
          omega
        · have := due_mono runs notPast
          omega
  | finished once spent passed =>
      constructor
      · intro due
        rw [Alarm.isDue_of_isSpent spent] at due
        cases due
      · rintro ⟨k, here⟩
        have same : schedule.due k = schedule.due 0 := by simp [due, count, once]
        omega

/-- An alarm that expires has its next expiry ahead, or none any more. -/
theorem phase_expire (fits : schedule.cycle < schedule.base.period)
    (cycle : alarm.cycle.toNat = schedule.cycle) (pending : alarm.isPending)
    (next : alarm.nextCount.toNat = schedule.count k % schedule.base.period)
    (passed : ∀ j < k, schedule.due j < schedule.due k) :
    schedule.Phase (schedule.due k + 1)
      (alarm.expire (Counter.afterTicks schedule.base (schedule.due k))) := by
  have active : alarm.active := by
    rw [Alarm.isPending, Bool.and_eq_true] at pending
    exact pending.1
  by_cases once : schedule.cycle = 0
  · have uncycled : alarm.cycle = 0 := UInt32.toNat_inj.mp (cycle.trans once)
    have same : schedule.due k = schedule.due 0 := by simp [due, count, once]
    apply Phase.finished once
    · simp [Alarm.expire, Alarm.isSpent, uncycled]
    · omega
  · have cyclic : alarm.cycle ≠ 0 := by
      intro zero
      rw [zero] at cycle
      exact once cycle.symm
    have step : schedule.count (k + 1) = schedule.count k + schedule.cycle := by
      rw [count, count, Nat.add_one_mul]
      omega
    apply Phase.ahead (k + 1)
    · simp [Alarm.expire, Alarm.isPending, Alarm.isSpent, active, cyclic]
    · rw [Alarm.expire, if_neg cyclic, toNat_wrapAdd, next, cycle, step]
      exact Nat.mod_add_mod ..
    · intro j earlier
      rcases Nat.lt_or_eq_of_le (Nat.le_of_lt_add_one earlier) with past | rfl
      · exact Nat.lt_add_right 1 (passed j past)
      · exact Nat.lt_add_one _
    · exact due_lt runs (Nat.pos_of_ne_zero once) (Nat.lt_add_one k)
    · have later := schedule.base.counts_mono (Nat.le_add_right (schedule.due k) 1)
      rw [counts_due runs] at later
      omega

/-- A tick keeps the alarm on its schedule, whether it expires or not. -/
theorem tick (follows : schedule.Follows ticks alarm) :
    schedule.Follows (ticks + 1)
      (if alarm.isDue (Counter.afterTicks schedule.base ticks)
        then alarm.expire (Counter.afterTicks schedule.base ticks) else alarm) := by
  have later := schedule.base.counts_mono (Nat.le_add_right ticks 1)
  have armed := Nat.le_add_right_of_le (k := 1) follows.armed
  cases follows.phase with
  | finished once spent passed =>
      rw [Alarm.isDue_of_isSpent spent, if_neg Bool.false_ne_true]
      exact ⟨armed, follows.cycle, follows.fits, .finished once spent (by omega)⟩
  | ahead k pending next passed future near =>
      have due := isDue_iff_of_ahead runs follows.armed pending next future near
      split
      · rename_i expires
        have here := due.mp expires
        subst here
        exact ⟨armed, follows.cycle, follows.fits,
          phase_expire runs follows.fits follows.cycle pending next passed⟩
      · rename_i waits
        have notHere := mt due.mpr waits
        refine ⟨armed, follows.cycle, follows.fits,
          .ahead k pending next ?_ (by omega) (by omega)⟩
        exact fun j earlier => Nat.lt_add_right 1 (passed j earlier)

/-- An alarm that is pending from now on keeps its schedule so far. -/
theorem of_armed (pending : alarm.isPending)
    (cycle : alarm.cycle.toNat = schedule.cycle)
    (next : alarm.nextCount.toNat =
      (schedule.base.counts schedule.armedAt % schedule.base.period + schedule.increment) %
        schedule.base.period)
    (fits : schedule.increment < schedule.base.period)
    (short : schedule.cycle < schedule.base.period) :
    schedule.Follows schedule.armedAt alarm := by
  refine ⟨Nat.le_refl _, cycle, short, .ahead 0 pending ?_ nofun (armedAt_le_due runs 0) ?_⟩
  · rw [next, Nat.mod_add_mod, count, Nat.zero_mul, Nat.add_zero]
  · rw [count, Nat.zero_mul, Nat.add_zero]
    omega

end Follows

end Schedule

/-! ### Arming and cancelling an alarm -/

namespace Step

variable {C : Type} [Machine C] {step : Step C} {id : AlarmId} {increment cycle : Nat}

/-- The step arms an alarm, to expire some counts ahead of its counter and then in each cycle.  If
it is to expire at a given count, the counts ahead are those to that count, round the wrap if need
be. -/
inductive Arms (step : Step C) (id : AlarmId) : (increment cycle : Nat) → Prop where
  | relative {increment cycle : Tick}
      (asked : step.operation.request? = some (.setRelAlarm id increment cycle))
      (accepted : ((Kernel.setRelativeAlarm id increment cycle).run step.before).result = .ok ()) :
      step.Arms id increment.toNat cycle.toNat
  | absolute {start cycle : Tick} {alarm : Alarm} {counter : Counter} {ahead : Nat}
      (asked : step.operation.request? = some (.setAbsAlarm id start cycle))
      (accepted : ((Kernel.setAbsoluteAlarm id start cycle).run step.before).result = .ok ())
      (found : step.before.alarms.lookup id = .ok (alarm, counter))
      (counts : (ahead : Int) = ((start.toNat : Int) - counter.value.toNat) %
        (counter.base.maxAllowedValue.toNat + 1)) :
      step.Arms id ahead cycle.toNat

/-- The step disarms an alarm. -/
structure Cancels (step : Step C) (id : AlarmId) : Prop where
  asked : step.operation.request? = some (.cancelAlarm id)
  accepted : ((Kernel.cancelAlarm id).run step.before).result = .ok ()

omit [Machine C] in
/-- Only if the table is changed is a change of it accepted. -/
theorem updated_of_accepted {f : AlarmTable → Except Refusal AlarmTable} {kernel : Kernel C}
    (accepted : ((Kernel.updateAlarms f).run kernel).result = .ok ()) :
    ∃ after, f kernel.alarms = .ok after := by
  rw [Kernel.run_updateAlarms] at accepted
  cases changed : f kernel.alarms with
  | error reason => simp [changed, Except.map] at accepted
  | ok after => exact ⟨after, rfl⟩

omit [Machine C] in
theorem accepted_of_updated {f : AlarmTable → Except Refusal AlarmTable} {kernel : Kernel C}
    {after : AlarmTable} (changed : f kernel.alarms = .ok after) :
    ((Kernel.updateAlarms f).run kernel).result = .ok () := by
  rw [Kernel.run_updateAlarms, changed]
  rfl

omit [Machine C] in
theorem Arms.not_isTick (arms : step.Arms id increment cycle) :
    step.operation.isTick = false := by
  cases arms with
  | relative asked | absolute asked => exact Operation.not_isTick_of_request? asked

omit [Machine C] in
/-- Ticks neither arm nor disarm. -/
theorem calm_of_isTick (tick : step.operation.isTick) (id : AlarmId) :
    (∀ increment cycle, ¬ step.Arms id increment cycle) ∧ ¬ step.Cancels id := by
  constructor
  · intro increment cycle arms
    rw [arms.not_isTick] at tick
    cases tick
  · intro cancels
    rw [Operation.not_isTick_of_request? cancels.asked] at tick
    cases tick

/-- How an alarm stands when it has been armed. -/
theorem Arms.alarm_after (arms : step.Arms id increment cycle) :
    ∃ alarm counter kind next again, step.before.alarms.lookup id = .ok (alarm, counter) ∧
      step.after.alarms.alarms[id]? = some (alarm.arm kind next counter.value again) ∧
      again.toNat = cycle ∧
      next.toNat = (counter.value.toNat + increment) % counter.base.period ∧
      increment < counter.base.period ∧ cycle < counter.base.period := by
  cases arms with
  | @relative increment cycle asked accepted =>
      obtain ⟨after, changed⟩ := updated_of_accepted accepted
      obtain ⟨alarm, counter, found, checked, rfl⟩ := AlarmTable.setRelative_eq_ok changed
      obtain ⟨-, small, short⟩ := AlarmTable.checkArming_ok checked
      obtain ⟨here, -⟩ := AlarmTable.lookup_eq_ok.mp found
      refine ⟨alarm, counter, .relative, _, cycle, found, ?_, rfl, toNat_wrapAdd .., ?_, ?_⟩
      · rw [alarms_after, Operation.onAlarms_of_request? asked, Request.onAlarms, changed]
        exact (AlarmTable.getElem?_modify ..).trans (by rw [if_pos rfl, here]; rfl)
      · exact Nat.lt_add_one_of_le (UInt32.le_iff_toNat_le.mp small)
      · exact Nat.lt_add_one_of_le (UInt32.le_iff_toNat_le.mp short)
  | @absolute start cycle alarm counter ahead asked accepted found counts =>
      obtain ⟨after, changed⟩ := updated_of_accepted accepted
      obtain ⟨other, driver, same, checked, rfl⟩ := AlarmTable.setAbsolute_eq_ok changed
      cases found.symm.trans same
      obtain ⟨-, small, short⟩ := AlarmTable.checkArming_ok checked
      obtain ⟨here, -⟩ := AlarmTable.lookup_eq_ok.mp found
      have below : start.toNat < counter.base.period :=
        Nat.lt_add_one_of_le (UInt32.le_iff_toNat_le.mp small)
      obtain ⟨fits, next⟩ := add_mod_of_ahead below (by exact_mod_cast counts)
      refine ⟨alarm, counter, .absolute, start, cycle, found, ?_, rfl, next, fits, ?_⟩
      · rw [alarms_after, Operation.onAlarms_of_request? asked, Request.onAlarms, changed]
        exact (AlarmTable.getElem?_modify ..).trans (by rw [if_pos rfl, here]; rfl)
      · exact Nat.lt_add_one_of_le (UInt32.le_iff_toNat_le.mp short)

/-- How an alarm stands when it has been disarmed. -/
theorem Cancels.alarm_after (cancels : step.Cancels id) :
    ∃ alarm, step.after.alarms.alarms[id]? = some alarm ∧ alarm.active = false := by
  obtain ⟨asked, accepted⟩ := cancels
  obtain ⟨after, changed⟩ := updated_of_accepted accepted
  obtain ⟨alarm, here, -, rfl⟩ := AlarmTable.cancel_eq_ok changed
  refine ⟨{ alarm with active := false, expired := false }, ?_, rfl⟩
  rw [alarms_after, Operation.onAlarms_of_request? asked, Request.onAlarms, changed]
  exact (AlarmTable.getElem?_modify ..).trans (by rw [if_pos rfl, here]; rfl)

/-- Whatever else is asked for, an alarm stands as it stood if it is neither armed nor disarmed. -/
theorem alarm_after_of_request? {request : Request}
    (asked : step.operation.request? = some request)
    (calm : ∀ increment cycle, ¬ step.Arms id increment cycle) (kept : ¬ step.Cancels id) :
    step.after.alarms.alarms[id]? = step.before.alarms.alarms[id]? := by
  rw [alarms_after, Operation.onAlarms_of_request? asked]
  have edited : ∀ {result : Except Refusal AlarmTable},
      (∀ after, result = .ok after →
        after.alarms[id]? = step.before.alarms.alarms[id]?) →
      (result.toOption.getD step.before.alarms).alarms[id]? = step.before.alarms.alarms[id]? := by
    intro result same
    cases result with
    | error reason => rfl
    | ok after => exact same after rfl
  have elsewhere : ∀ {other : AlarmId} {f : Alarm → Alarm}, other ≠ id →
      (step.before.alarms.modify other f).alarms[id]? = step.before.alarms.alarms[id]? := by
    intro other f apart
    rw [AlarmTable.getElem?_modify, if_neg apart]
  cases request with
  | setRelAlarm other increment cycle =>
      apply edited
      intro after changed
      obtain ⟨alarm, counter, -, -, rfl⟩ := AlarmTable.setRelative_eq_ok changed
      apply elsewhere
      rintro rfl
      exact calm _ _ (.relative asked (accepted_of_updated changed))
  | setAbsAlarm other start cycle =>
      apply edited
      intro after changed
      obtain ⟨alarm, counter, found, -, rfl⟩ := AlarmTable.setAbsolute_eq_ok changed
      apply elsewhere
      rintro rfl
      have nonneg := Int.emod_nonneg ((start.toNat : Int) - counter.value.toNat)
        (by omega : (counter.base.maxAllowedValue.toNat : Int) + 1 ≠ 0)
      obtain ⟨ahead, counts⟩ := Int.eq_ofNat_of_zero_le nonneg
      exact calm _ _ (.absolute asked (accepted_of_updated changed) found counts.symm)
  | cancelAlarm other =>
      apply edited
      intro after changed
      obtain ⟨alarm, -, -, rfl⟩ := AlarmTable.cancel_eq_ok changed
      apply elsewhere
      rintro rfl
      exact kept ⟨asked, accepted_of_updated changed⟩
  | _ => rfl

/-- Between ticks an alarm stands as it stood unless it is armed or disarmed. -/
theorem alarm_after_of_calm (other : step.operation.isTick = false)
    (calm : ∀ increment cycle, ¬ step.Arms id increment cycle) (kept : ¬ step.Cancels id) :
    step.after.alarms.alarms[id]? = step.before.alarms.alarms[id]? := by
  cases asked : step.operation.request? with
  | none => rw [alarms_after, Operation.onAlarms_of_none other asked]
  | some request => exact alarm_after_of_request? asked calm kept

end Step

/-! ### Lifetimes -/

namespace Lifetime

variable {C : Type} [Machine C] {config : Configuration} {steps early later : List (Step C)}
  {step : Step C} {kernel : Kernel C} {id : AlarmId} {spec : AlarmSpec} {base : AlarmBase}
  {increment cycle : Nat}

/-- An alarm and its counter, wherever the table has the alarm. -/
theorem lookup_eq (lifetime : Lifetime config steps kernel) (bound : config.alarms[id]? = some spec)
    (driven : config.counters[spec.counter]? = some base) :
    ∃ alarm, kernel.alarms.lookup id = .ok (alarm, Counter.afterTicks base (ticks steps)) := by
  have same := lifetime.bound_eq id
  rw [bound] at same
  obtain ⟨alarm, here, rfl⟩ := Option.map_eq_some_iff.mp same
  exact ⟨alarm, AlarmTable.lookup_eq_ok.mpr ⟨here, lifetime.counter_eq driven⟩⟩

/-- The alarms of the table that are due, in terms of the number of ticks. -/
theorem mem_dueIds_iff (lifetime : Lifetime config steps kernel)
    (bound : config.alarms[id]? = some spec) (driven : config.counters[spec.counter]? = some base)
    {alarm : Alarm} (here : kernel.alarms.alarms[id]? = some alarm) :
    id ∈ kernel.alarms.dueIds ↔ alarm.isDue (Counter.afterTicks base (ticks steps)) := by
  obtain ⟨other, found⟩ := lifetime.lookup_eq bound driven
  cases here.symm.trans (AlarmTable.lookup_eq_ok.mp found).1
  rw [AlarmTable.mem_dueIds]
  constructor
  · rintro ⟨same, counter, again, due⟩
    cases found.symm.trans again
    exact due
  · exact fun due => ⟨alarm, _, found, due⟩

/-- What a tick does to an alarm, in terms of the number of ticks before it. -/
theorem alarm_after_tick (lifetime : Lifetime config steps kernel)
    (bound : config.alarms[id]? = some spec) (driven : config.counters[spec.counter]? = some base)
    {operation : Operation C} (tick : operation.isTick) {alarm : Alarm}
    (here : kernel.alarms.alarms[id]? = some alarm) :
    (Step.after ⟨kernel, operation⟩).alarms.alarms[id]? =
      some (if alarm.isDue (Counter.afterTicks base (ticks steps))
        then alarm.expire (Counter.afterTicks base (ticks steps)) else alarm) := by
  obtain ⟨other, found⟩ := lifetime.lookup_eq bound driven
  obtain ⟨same, drives⟩ := AlarmTable.lookup_eq_ok.mp found
  cases here.symm.trans same
  rw [Step.alarms_after, Operation.onAlarms_of_isTick tick, AlarmTable.getElem?_tick, here,
    Option.map_some, AlarmTable.expireOne, drives]

/-- From when it is armed until it is armed again or disarmed, an alarm keeps its schedule. -/
theorem follows_schedule (lifetime : Lifetime config (later ++ step :: early) kernel)
    (bound : config.alarms[id]? = some spec) (driven : config.counters[spec.counter]? = some base)
    (arms : step.Arms id increment cycle)
    (calm : ∀ other ∈ later, (∀ increment cycle, ¬ other.Arms id increment cycle) ∧
      ¬ other.Cancels id) :
    ∃ alarm, kernel.alarms.alarms[id]? = some alarm ∧
      (⟨base, ticks early, increment, cycle⟩ : Schedule).Follows
        (ticks (later ++ step :: early)) alarm := by
  have runs := lifetime.built.runs base (List.mem_of_getElem? driven)
  induction later generalizing kernel with
  | nil =>
      obtain ⟨earlier, rfl⟩ := lifetime.latest
      obtain ⟨alarm, counter, kind, next, again, found, after, cyclic, start, small, short⟩ :=
        arms.alarm_after
      obtain ⟨other, drives⟩ := earlier.lookup_eq bound driven
      cases found.symm.trans drives
      rw [Counter.toNat_value_afterTicks] at start
      have still : ticks (step :: early) = ticks early := by
        rw [ticks_cons, arms.not_isTick]
        rfl
      refine ⟨_, after, ?_⟩
      rw [List.nil_append, still]
      have pending : (alarm.arm kind next (Counter.afterTicks base (ticks early)).value
          again).isPending := by
        simp [Alarm.arm, Alarm.isPending, Alarm.isSpent]
      exact Schedule.Follows.of_armed runs pending cyclic start small short
  | cons other rest ih =>
      obtain ⟨earlier, rfl⟩ := lifetime.latest
      obtain ⟨⟨calmNow, keptNow⟩, calm⟩ := List.forall_mem_cons.mp calm
      obtain ⟨alarm, here, follows⟩ := ih earlier calm
      rw [List.cons_append, ticks_cons]
      cases tick : other.operation.isTick with
      | true =>
          refine ⟨_, earlier.alarm_after_tick bound driven tick here, ?_⟩
          exact follows.tick runs
      | false =>
          refine ⟨alarm, ?_, follows⟩
          rw [Step.alarm_after_of_calm tick calmNow keptNow, here]

/-- From when it is disarmed until it is armed, an alarm is not active. -/
theorem stays_inactive (lifetime : Lifetime config (later ++ step :: early) kernel)
    (bound : config.alarms[id]? = some spec) (driven : config.counters[spec.counter]? = some base)
    (cancels : step.Cancels id)
    (calm : ∀ other ∈ later, ∀ increment cycle, ¬ other.Arms id increment cycle) :
    ∃ alarm, kernel.alarms.alarms[id]? = some alarm ∧ alarm.active = false := by
  induction later generalizing kernel with
  | nil =>
      obtain ⟨earlier, rfl⟩ := lifetime.latest
      exact cancels.alarm_after
  | cons other rest ih =>
      obtain ⟨earlier, rfl⟩ := lifetime.latest
      obtain ⟨calmNow, calm⟩ := List.forall_mem_cons.mp calm
      obtain ⟨alarm, here, inactive⟩ := ih earlier calm
      cases tick : other.operation.isTick with
      | true =>
          have after := earlier.alarm_after_tick bound driven tick here
          rw [Alarm.isDue_of_inactive inactive, if_neg Bool.false_ne_true] at after
          exact ⟨alarm, after, inactive⟩
      | false =>
          by_cases again : other.Cancels id
          · exact again.alarm_after
          · refine ⟨alarm, ?_, inactive⟩
            rw [Step.alarm_after_of_calm tick calmNow again, here]

omit [Machine C] in
/-- What some alarms are configured to do, in turn. -/
def actionsOf (config : Configuration) (ids : List AlarmId) : List AlarmAction :=
  ids.filterMap fun id => config.alarms[id]?.map (·.action)

/-- Alarms still do what they are configured to do. -/
theorem actionsOf_eq (lifetime : Lifetime config steps kernel) (ids : List AlarmId) :
    actionsOf config ids = ids.filterMap fun id => kernel.alarms.alarms[id]?.map (·.action) := by
  unfold actionsOf
  congr 1
  funext id
  rw [← lifetime.bound_eq id, Option.map_map]
  rfl

/-- What a tick collects is what the alarms that expire in it are configured to do, and with that it
leaves tasks and resources. -/
theorem acts_on_expirations (lifetime : Lifetime config steps kernel) :
    ((Kernel.onAlarms AlarmTable.expire).run kernel).result =
        .ok (actionsOf config (expirations (Step.done ⟨kernel, .tick⟩).trace)) ∧
      (Step.after ⟨kernel, .tick⟩).core =
        ((Kernel.runAlarms (actionsOf config (expirations (Step.done ⟨kernel, .tick⟩).trace))).run
          ((Kernel.onAlarms AlarmTable.expire).run kernel).state).state.core := by
  have ticked : Step.after ⟨kernel, .tick⟩ = (Kernel.tick.run kernel).state :=
    Action.state_bind_pure Kernel.tick (fun _ => none) kernel
  rw [Step.expirations_tick, lifetime.actionsOf_eq, ticked, Kernel.run_tick, Kernel.onAlarms,
    Action.run_within, AlarmTable.run_expire]
  exact ⟨rfl, rfl⟩

/-- Exactly in the ticks of its schedule an alarm expires that was armed and neither armed again nor
disarmed since, and it never does when it was disarmed and not armed since.  `N` ticks after boot a
counter with `p` ticks for each count has made `(N - 1) / p` counts.  What the alarms that expire
are configured to do is what the tick collects and does, once for each. -/
theorem expires_iff_scheduled (lifetime : Lifetime config (later ++ step :: early) kernel)
    (bound : config.alarms[id]? = some spec)
    (driven : config.counters[spec.counter]? = some base) :
    (∀ increment cycle, step.Arms id increment cycle →
      (∀ other ∈ later, (∀ increment cycle, ¬ other.Arms id increment cycle) ∧
        ¬ other.Cancels id) →
      (id ∈ expirations (Step.done ⟨kernel, .tick⟩).trace ↔
        increment = 0 ∧ ticks (later ++ step :: early) = ticks early ∨
          ∃ k, 0 < increment + k * cycle ∧
            ticks (later ++ step :: early) =
              base.ticksPerBase.toNat *
                ((ticks early - 1) / base.ticksPerBase.toNat + (increment + k * cycle)) + 1)) ∧
    (step.Cancels id → (∀ other ∈ later, ∀ increment cycle, ¬ other.Arms id increment cycle) →
      id ∉ expirations (Step.done ⟨kernel, .tick⟩).trace) ∧
    (expirations (Step.done ⟨kernel, .tick⟩).trace).Nodup ∧
    ((Kernel.onAlarms AlarmTable.expire).run kernel).result =
      .ok (actionsOf config (expirations (Step.done ⟨kernel, .tick⟩).trace)) ∧
    (Step.after ⟨kernel, .tick⟩).core =
      ((Kernel.runAlarms (actionsOf config (expirations (Step.done ⟨kernel, .tick⟩).trace))).run
        ((Kernel.onAlarms AlarmTable.expire).run kernel).state).state.core := by
  have acts := lifetime.acts_on_expirations
  rw [Step.expirations_tick] at acts ⊢
  refine ⟨?_, ?_, kernel.alarms.nodup_dueIds, acts⟩
  · intro increment cycle arms calm
    have runs := lifetime.built.runs base (List.mem_of_getElem? driven)
    obtain ⟨alarm, here, follows⟩ := lifetime.follows_schedule bound driven arms calm
    rw [lifetime.mem_dueIds_iff bound driven here]
    exact (follows.isDue_iff runs).trans (Schedule.exists_eq_due_iff _ _)
  · intro cancels calm
    obtain ⟨alarm, here, inactive⟩ := lifetime.stays_inactive bound driven cancels calm
    rw [lifetime.mem_dueIds_iff bound driven here]
    simp [Alarm.isDue_of_inactive inactive]

/-- The idle task, and a counter that counts to two with two ticks for each count. -/
def pendulum : Configuration :=
  { tasks := [Configuration.plainTask leastUrgent false]
    counters := [{ maxAllowedValue := 2, ticksPerBase := 2, minCycle := 1 }] }

/-- An alarm on the counter of the pendulum notifies the idle task. -/
def metronome : Configuration :=
  { pendulum with alarms := [{ counter := 0, action := .service (.setEvent idleTask 1) }] }

theorem built_metronome : metronome.Built := by
  have idle := Configuration.Built.new (Configuration.plainTask leastUrgent false)
  have counting : pendulum.Built := idle.addCounter (show Configuration.addCounter _
    { maxAllowedValue := 2, ticksPerBase := 2, minCycle := 1 } = .ok (0, pendulum) from rfl)
  exact counting.addAlarm (show Configuration.addAlarm _
    { counter := 0, action := .service (.setEvent idleTask 1) } = .ok (0, metronome) from rfl)

/-- A lifetime of the metronome. -/
theorem of_metronome (operations : List (Operation FrameIndex)) :
    Lifetime metronome (Execution.replay (Execution.booted metronome Hosted.console) [] operations)
      (Execution.reached (Execution.booted metronome Hosted.console) operations) := by
  apply Lifetime.continued
  exact .boot built_metronome rfl none

/-- The kernel of the metronome after three ticks. -/
def wound : Kernel FrameIndex :=
  Execution.reached (Execution.booted metronome Hosted.console) [.tick, .tick, .tick]

/-- The alarm is set to expire at the next count and at every second one after that. -/
def winding : Step FrameIndex := ⟨wound, .request (.setRelAlarm 0 1 2)⟩

theorem winding_arms : winding.Arms 0 1 2 :=
  .relative (show winding.operation.request? = some (.setRelAlarm 0 1 2) from rfl)
    (by decide +kernel)

/-- The alarm is disarmed at once. -/
def stopping : Step FrameIndex := ⟨winding.after, .request (.cancelAlarm 0)⟩

theorem stopping_cancels : stopping.Cancels 0 := ⟨rfl, by decide +kernel⟩

/-- Six ticks in turn. -/
def sixTicks (kernel : Kernel FrameIndex) : List (Step FrameIndex) :=
  Execution.replay kernel [] (List.replicate 6 .tick)

theorem sixTicks_calm (kernel : Kernel FrameIndex) (id : AlarmId) :
    ∀ other ∈ sixTicks kernel,
      (∀ increment cycle, ¬ other.Arms id increment cycle) ∧ ¬ other.Cancels id := by
  intro other member
  have tick := List.eq_of_mem_replicate ((mem_replay member).resolve_left List.not_mem_nil)
  exact Step.calm_of_isTick (by rw [tick]; rfl) id

/-- The ticks before the alarm is set. -/
def threeTicks : List (Step FrameIndex) :=
  Execution.replay (Execution.booted metronome Hosted.console) [] [.tick, .tick, .tick]

/-- Wound up after three ticks, the alarm expires after nine, but not if it is stopped. -/
theorem expires_wound :
    ∃ ringing still : Kernel FrameIndex,
      Lifetime metronome (sixTicks winding.after ++ winding :: threeTicks) ringing ∧
        ticks (sixTicks winding.after ++ winding :: threeTicks) = 9 ∧
        0 ∈ expirations (Step.done ⟨ringing, .tick⟩).trace ∧
      Lifetime metronome (sixTicks stopping.after ++ stopping :: winding :: threeTicks) still ∧
        ticks (sixTicks stopping.after ++ stopping :: winding :: threeTicks) = 9 ∧
        0 ∉ expirations (Step.done ⟨still, .tick⟩).trace := by
  have ringing : Lifetime metronome (sixTicks winding.after ++ winding :: threeTicks) _ :=
    of_metronome [.tick, .tick, .tick, .request (.setRelAlarm 0 1 2), .tick, .tick, .tick, .tick,
      .tick, .tick]
  have still :
      Lifetime metronome (sixTicks stopping.after ++ stopping :: winding :: threeTicks) _ :=
    of_metronome [.tick, .tick, .tick, .request (.setRelAlarm 0 1 2), .request (.cancelAlarm 0),
      .tick, .tick, .tick, .tick, .tick, .tick]
  have bound : metronome.alarms[0]? =
    some { counter := 0, action := .service (.setEvent idleTask 1) } := rfl
  have scheduled := (ringing.expires_iff_scheduled bound rfl).1 1 2 winding_arms (sixTicks_calm _ 0)
  have silent := (still.expires_iff_scheduled bound rfl).2.1 stopping_cancels
    fun other member => (sixTicks_calm _ 0 other member).1
  exact ⟨_, _, ringing, rfl, scheduled.mpr (.inr ⟨1, by decide, by decide⟩), still, rfl, silent⟩

end Lifetime

end Rtos
