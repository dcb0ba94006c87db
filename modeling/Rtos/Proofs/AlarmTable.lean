/-
Module: Rtos.Proofs.AlarmTable
Purpose: What the operations of the alarm table do: which alarms are due, what is told of them, and
  what it takes for an alarm to be armed or cancelled.
Main definitions: AlarmTable.expiry, AlarmTable.tick
Main statements: `AlarmTable.run_expire`, `AlarmTable.mem_dueIds`, and one inversion lemma for each
  way to arm or cancel an alarm
-/
import Rtos.Proofs.Boot

namespace Rtos

/-- Telling something of each item of a list changes nothing. -/
theorem Action.run_forM {σ ι : Type} {tell : ι → Action σ Unit} {told : ι → Trace}
    (tells : ∀ item state, (tell item).run state = ⟨.ok (), state, told item⟩) (items : List ι)
    (state : σ) : (items.forM tell).run state = ⟨.ok (), state, items.flatMap told⟩ := by
  induction items with
  | nil => rfl
  | cons item rest ih =>
      unfold List.forM
      rw [Action.run_bind_of_ok (tells item state), ih]
      rfl

namespace Alarm

variable {alarm : Alarm}

/-- An alarm that is not armed is not due. -/
theorem isDue_of_inactive (inactive : alarm.active = false) (counter : Counter) :
    alarm.isDue counter = false := by
  simp [isDue, isPending, inactive]

/-- An alarm that has expired once and for all is not due. -/
theorem isDue_of_isSpent (spent : alarm.isSpent) (counter : Counter) :
    alarm.isDue counter = false := by
  simp [isDue, isPending, spent]

end Alarm

namespace AlarmTable

variable {table after : AlarmTable} {id : AlarmId} {alarm : Alarm} {counter : Counter}

/-! ### Look-ups -/

theorem findAlarm_eq_ok : table.findAlarm id = .ok alarm ↔ table.alarms[id]? = some alarm := by
  unfold findAlarm
  cases table.alarms[id]? <;> simp

theorem findCounter_eq_ok {id : CounterId} :
    table.findCounter id = .ok counter ↔ table.counters[id]? = some counter := by
  unfold findCounter
  cases table.counters[id]? <;> simp

theorem lookup_eq_ok : table.lookup id = .ok (alarm, counter) ↔
    table.alarms[id]? = some alarm ∧ table.counters[alarm.counter]? = some counter := by
  unfold lookup
  constructor
  · intro found
    obtain ⟨other, here, found⟩ := Kernel.bind_eq_ok found
    obtain ⟨driver, drives, found⟩ := Kernel.bind_eq_ok found
    cases found
    exact ⟨findAlarm_eq_ok.mp here, findCounter_eq_ok.mp drives⟩
  · rintro ⟨here, drives⟩
    rw [findAlarm_eq_ok.mpr here]
    change (table.findCounter alarm.counter >>= _) = _
    rw [findCounter_eq_ok.mpr drives]
    rfl

/-! ### Ticks -/

/-- What is told of an alarm that expires. -/
def expiry (table : AlarmTable) (id : AlarmId) : Trace :=
  match table.lookup id with
  | .ok (_, counter) => [.logged (.expired id counter.value)]
  | .error _ => []

/-- The first part of a tick tells of the alarms that are due and then lets them expire. -/
theorem run_expire (table : AlarmTable) :
    expire.run table =
      ⟨.ok (table.dueIds.filterMap fun id => table.alarms[id]?.map (·.action)),
        { table with alarms := table.alarms.map table.expireOne },
        table.dueIds.flatMap table.expiry⟩ := by
  unfold expire
  rw [Action.run_get_bind, Action.run_modify_bind, Action.run_bind_of_ok (Action.run_forM ?_ _ _)]
  · dsimp only [Action.run_pure]
    rw [List.append_nil]
  · intro id state
    unfold expiry
    cases table.lookup id <;> rfl

theorem mem_dueIds : id ∈ table.dueIds ↔
    ∃ alarm counter, table.lookup id = .ok (alarm, counter) ∧ alarm.isDue counter := by
  simp only [lookup_eq_ok]
  unfold dueIds isDue
  rw [List.mem_filter, List.mem_range]
  constructor
  · rintro ⟨-, due⟩
    cases found : table.alarms[id]? with
    | none => simp [found] at due
    | some alarm =>
        cases driven : table.counters[alarm.counter]? with
        | none => simp [found, driven] at due
        | some counter => exact ⟨alarm, counter, ⟨rfl, driven⟩, by simpa [found, driven] using due⟩
  · rintro ⟨alarm, counter, ⟨found, driven⟩, due⟩
    obtain ⟨inTable, -⟩ := Array.getElem?_eq_some_iff.mp found
    exact ⟨inTable, by simpa [found, driven] using due⟩

/-- No alarm is due twice at a time. -/
theorem nodup_dueIds (table : AlarmTable) : table.dueIds.Nodup :=
  List.nodup_range.filter _

/-- The table after a whole tick. -/
def tick (table : AlarmTable) : AlarmTable :=
  { table with alarms := table.alarms.map table.expireOne }.advance

/-- An alarm that expires stays bound to its counter and what it does. -/
theorem toAlarmSpec_expireOne (table : AlarmTable) (alarm : Alarm) :
    (table.expireOne alarm).toAlarmSpec = alarm.toAlarmSpec := by
  unfold expireOne
  cases table.counters[alarm.counter]? with
  | none => rfl
  | some counter =>
      dsimp only
      split <;> rfl

theorem getElem?_tick (table : AlarmTable) (id : AlarmId) :
    table.tick.alarms[id]? = table.alarms[id]?.map table.expireOne := Array.getElem?_map

theorem getElem?_modify (table : AlarmTable) (id other : AlarmId) (f : Alarm → Alarm) :
    (table.modify id f).alarms[other]? =
      if id = other then table.alarms[other]?.map f else table.alarms[other]? :=
  Array.getElem?_modify

/-! ### Arming and cancelling -/

/-- An alarm is armed if it is not pending, and if the first delay or count and the cycle fit its
counter. -/
theorem checkArming_ok {alarm : Alarm} {base : AlarmBase} {first cycle : Tick}
    (checked : checkArming alarm base first cycle = .ok ()) :
    alarm.isPending = false ∧ first ≤ base.maxAllowedValue ∧ cycle ≤ base.maxAllowedValue := by
  unfold checkArming at checked
  by_cases pending : alarm.isPending
  · rw [if_pos pending] at checked
    cases checked
  by_cases large : base.maxAllowedValue < first
  · rw [if_neg pending, if_pos large] at checked
    cases checked
  by_cases unfit : cycle ≠ 0 ∧ (cycle < base.minCycle ∨ base.maxAllowedValue < cycle)
  · rw [if_neg pending, if_neg large, if_pos unfit] at checked
    cases checked
  refine ⟨Bool.eq_false_iff.mpr pending, UInt32.not_lt.mp large, ?_⟩
  by_cases once : cycle = 0
  · rw [once]
    exact UInt32.zero_le
  · apply UInt32.not_lt.mp
    exact fun long => unfit ⟨once, .inr long⟩

theorem setRelative_eq_ok {increment cycle : Tick}
    (accepted : table.setRelative id increment cycle = .ok after) :
    ∃ alarm counter, table.lookup id = .ok (alarm, counter) ∧
      checkArming alarm counter.base increment cycle = .ok () ∧
      after = table.modify id (Alarm.arm .relative
        (wrapAdd counter.value increment counter.base.maxAllowedValue) counter.value cycle) := by
  unfold setRelative at accepted
  obtain ⟨⟨alarm, counter⟩, found, accepted⟩ := Kernel.bind_eq_ok accepted
  obtain ⟨_, checked, accepted⟩ := Kernel.bind_eq_ok accepted
  exact ⟨alarm, counter, found, checked, (Except.ok.inj accepted).symm⟩

theorem setAbsolute_eq_ok {start cycle : Tick}
    (accepted : table.setAbsolute id start cycle = .ok after) :
    ∃ alarm counter, table.lookup id = .ok (alarm, counter) ∧
      checkArming alarm counter.base start cycle = .ok () ∧
      after = table.modify id (Alarm.arm .absolute start counter.value cycle) := by
  unfold setAbsolute at accepted
  obtain ⟨⟨alarm, counter⟩, found, accepted⟩ := Kernel.bind_eq_ok accepted
  obtain ⟨_, checked, accepted⟩ := Kernel.bind_eq_ok accepted
  exact ⟨alarm, counter, found, checked, (Except.ok.inj accepted).symm⟩

/-- Only an active alarm can be cancelled. -/
theorem cancel_eq_ok (accepted : table.cancel id = .ok after) :
    ∃ alarm, table.alarms[id]? = some alarm ∧ alarm.active ∧
      after = table.modify id fun alarm => { alarm with active := false, expired := false } := by
  unfold cancel at accepted
  obtain ⟨alarm, found, accepted⟩ := Kernel.bind_eq_ok accepted
  by_cases active : alarm.active
  · simp only [active] at accepted
    exact ⟨alarm, findAlarm_eq_ok.mp found, active, (Except.ok.inj accepted).symm⟩
  · simp only [active] at accepted
    cases accepted

end AlarmTable

end Rtos
