/-
Module: Rtos.Proofs.Bounds
Purpose: No index leaves its table and no sum leaves its word.  The kernel looks tasks up by ids that
  it has recorded, and it adds and subtracts counts that it has recorded.  Both stay within bounds in
  whatever order operations come.
Main definitions: addTick?, subTick?, elapsed?, wrapAdd?, Core.InRange, Alarm.InRange,
  AlarmTable.InRange
Main statements: `Core.Course.inRange`, `Lifetime.inRange_alarms`, `Lifetime.within_bounds`
-/
import Rtos.Proofs.Validity

namespace Rtos

/-! ### Arithmetic that must not overflow -/

/-- The sum of two counts, unless it is too large for a word. -/
def addTick? (a b : Tick) : Option Tick :=
  if a.toNat + b.toNat < UInt32.size then some (a + b) else none

/-- The difference of two counts, unless it is negative. -/
def subTick? (a b : Tick) : Option Tick :=
  if b ≤ a then some (a - b) else none

/-- The sum of two long words, unless it is too large for one. -/
def addWide? (a b : UInt64) : Option UInt64 :=
  if a.toNat + b.toNat < UInt64.size then some (a + b) else none

/-- `elapsed`, unless one of its differences is negative.  The two sums are taken modulo the range of
a tick on purpose. -/
def elapsed? (now last max : Tick) : Option Tick :=
  if last ≤ now then subTick? now last
  else (subTick? max last).map fun rest => now + rest + 1

/-- `wrapAdd`, unless one of its sums is too large or it divides by zero. -/
def wrapAdd? (value step max : Tick) : Option Tick := do
  let sum ← addWide? value.toUInt64 step.toUInt64
  let period ← addWide? max.toUInt64 1
  if period = 0 then none else some (sum % period).toUInt32

/-- The value of a counter that follows, unless it is too large. -/
def Counter.succValue? (counter : Counter) : Option Tick :=
  if counter.value = counter.base.maxAllowedValue then some 0 else addTick? counter.value 1

/-- Time has a length on a clock that had not passed its largest value. -/
theorem elapsed?_eq {last max : Tick} (reached : last ≤ max) (now : Tick) :
    elapsed? now last max = some (elapsed now last max) := by
  unfold elapsed? elapsed
  split
  · rename_i ahead
    rw [subTick?, if_pos ahead]
  · rw [subTick?, if_pos reached, Option.map_some]

theorem le_maxTick (tick : Tick) : tick ≤ maxTick :=
  UInt32.le_iff_toNat_le.mpr (Nat.le_of_lt_add_one tick.toNat_lt)

/-- Two counts always have a sum among the long words. -/
theorem addWide?_eq (a b : Tick) :
    addWide? a.toUInt64 b.toUInt64 = some (a.toUInt64 + b.toUInt64) := by
  have := a.toNat_lt
  have := b.toNat_lt
  rw [addWide?, if_pos]
  rw [UInt32.toNat_toUInt64, UInt32.toNat_toUInt64, UInt64.size]
  omega

/-- The period of a clock, as a long word. -/
theorem toNat_period (max : Tick) : (max.toUInt64 + 1).toNat = max.toNat + 1 := by
  have := max.toNat_lt
  rw [UInt64.toNat_add, UInt32.toNat_toUInt64, UInt64.toNat_one]
  omega

theorem period_ne_zero (max : Tick) : max.toUInt64 + 1 ≠ 0 := by
  intro zero
  have toNat := congrArg UInt64.toNat zero
  rw [toNat_period] at toNat
  exact Nat.succ_ne_zero _ toNat

/-- No steps are too many for a clock that wraps. -/
theorem wrapAdd?_eq (value step max : Tick) :
    wrapAdd? value step max = some (wrapAdd value step max) := by
  have period : addWide? max.toUInt64 1 = some (max.toUInt64 + 1) := addWide?_eq max 1
  unfold wrapAdd?
  rw [addWide?_eq, period]
  change (if max.toUInt64 + 1 = 0 then none else _) = _
  rw [if_neg (period_ne_zero max)]
  rfl

/-- A counter that has not come to its largest value is below it. -/
theorem Counter.value_lt {counter : Counter} (fits : counter.value ≤ counter.base.maxAllowedValue)
    (below : counter.value ≠ counter.base.maxAllowedValue) :
    counter.value.toNat < counter.base.maxAllowedValue.toNat :=
  UInt32.lt_iff_toNat_lt.mp (UInt32.lt_of_le_of_ne fits below)

/-- A counter that has not passed its largest value has a value that follows. -/
theorem Counter.succValue?_eq {counter : Counter}
    (fits : counter.value ≤ counter.base.maxAllowedValue) :
    counter.succValue? = some counter.succValue := by
  unfold Counter.succValue? Counter.succValue
  split
  · rfl
  · rename_i below
    have := Counter.value_lt fits below
    have := counter.base.maxAllowedValue.toNat_lt
    rw [addTick?, if_pos]
    rw [UInt32.toNat_one, UInt32.size]
    omega

/-! ### Ids of tasks -/

/-- The tasks that the resource knows have slots in the table. -/
structure Resource.InRange (resource : Resource) : Prop where
  owner : ∀ task, resource.owner = some task → task < maxTasks
  waiters : ∀ task ∈ resource.waiters, task < maxTasks

/-- Every id by which a task is looked up has a slot in the table, and every slot knows its own. -/
structure Core.InRange {C : Type} (core : Core C) : Prop where
  current : core.sched.current < maxTasks
  selected : core.sched.selected < maxTasks
  ids : ∀ id, (core.sched.slot id).id = id
  resources : ∀ (id : ResourceId) (resource : Resource),
    core.resources[id]? = some resource → resource.InRange

/-- A task keeps its id, whatever else is edited. -/
theorem Task.Edited.id_eq {C : Type} [Machine C] {id : TaskId} {task fresh : Task C}
    (edited : task.Edited id fresh) : fresh.id = task.id := by
  cases edited with
  | activated activates =>
      unfold activate at activates
      split at activates
      · cases activates
        rfl
      all_goals cases activates
  | _ => rfl

namespace Core

variable {C : Type} {core first last : Core C} {seen : Trace} {id : ResourceId}

/-- Only a slot of the table is chosen. -/
theorem InRange.decide_lt (inRange : core.InRange) {next : TaskId}
    (chosen : core.sched.decide = some next) : next < maxTasks :=
  Scheduler.lt_of_isRunnable (Scheduler.decide_spec inRange.ids chosen).1

theorem InRange.decided (inRange : core.InRange) : core.decided.InRange := by
  cases chosen : core.sched.decide with
  | none =>
      have same : core.decided = core := by
        unfold Core.decided Scheduler.decided
        rw [chosen]
      rwa [same]
  | some next =>
      have inTable := inRange.decide_lt chosen
      have settled : core.decided.sched = core.sched.settle next := Scheduler.decided_eq chosen
      refine ⟨?_, ?_, ?_, inRange.resources⟩
      · rw [settled, Scheduler.current_settle]
        exact inRange.current
      · rw [settled, Scheduler.selected_settle]
        exact inTable
      · intro id
        rw [settled, Scheduler.settle_eq_with_state inTable]
        exact inRange.ids id

/-- What is found after a change was found before, changed or not. -/
theorem exists_of_found_modifyResource {f : Resource → Resource} {other : ResourceId}
    {resource : Resource} (found : (core.modifyResource id f).resources[other]? = some resource) :
    ∃ before, core.resources[other]? = some before ∧ (resource = before ∨ resource = f before) := by
  rw [getElem?_modifyResource] at found
  split at found
  · obtain ⟨before, was, rfl⟩ := Option.map_eq_some_iff.mp found
    exact ⟨before, was, .inr rfl⟩
  · exact ⟨resource, found, .inl rfl⟩

/-- One resource may change as long as it knows tasks of the table only. -/
theorem InRange.modifyResource {f : Resource → Resource} (inRange : core.InRange)
    (changed : ∀ resource, resource.InRange → (f resource).InRange) :
    (core.modifyResource id f).InRange := by
  refine ⟨inRange.current, inRange.selected, inRange.ids, ?_⟩
  intro other resource found
  obtain ⟨before, was, rfl | rfl⟩ := exists_of_found_modifyResource found
  · exact inRange.resources other _ was
  · exact changed before (inRange.resources other before was)

variable [Machine C]

/-- No edit puts an id on record that has no slot. -/
theorem Edit.inRange (edit : first.Edit last) (inRange : first.InRange) : last.InRange := by
  cases edit with
  | task edited =>
      refine ⟨inRange.current, inRange.selected, ?_, inRange.resources⟩
      intro other
      rw [slot_modifyTask]
      split
      · rename_i here
        rw [← here.1, edited.id_eq]
        exact inRange.ids _
      · exact inRange.ids other
  | taken declared =>
      refine inRange.modifyResource fun resource known => ⟨?_, known.waiters⟩
      rintro task owner
      cases owner
      exact Scheduler.lt_of_state_ne_free declared
  | freed =>
      refine inRange.modifyResource fun resource known => ⟨nofun, ?_⟩
      exact fun task member => known.waiters task (List.mem_of_mem_tail member)
  | joined declared notIdle =>
      refine inRange.modifyResource fun resource known => ⟨known.owner, ?_⟩
      refine List.forall_mem_append.mpr ⟨known.waiters, List.forall_mem_singleton.mpr ?_⟩
      exact Scheduler.lt_of_state_ne_free declared
  | entered => exact ⟨inRange.selected, inRange.selected, inRange.ids, inRange.resources⟩

theorem Course.inRange (way : first.Course seen last) (inRange : first.InRange) : last.InRange :=
  way.keeps InRange Edit.inRange InRange.decided inRange

/-- No edit adds a resource or takes one away. -/
theorem Edit.size_eq (edit : first.Edit last) : last.resources.size = first.resources.size := by
  cases edit with
  | task | entered => rfl
  | taken | freed | joined => exact Array.size_modify

theorem Course.size_eq (way : first.Course seen last) :
    last.resources.size = first.resources.size :=
  way.keeps (fun core => core.resources.size = first.resources.size)
    (fun edit same => edit.size_eq.trans same) (fun same => same) rfl

end Core

/-- A kernel boots with nothing out of range. -/
theorem Kernel.boot_inRange {C : Type} [Machine C] {config : Configuration} {console : Console}
    {kernel : Kernel C} {seen : Trace} (built : config.Built)
    (booted : boot config console = .ok (kernel, seen)) : kernel.core.InRange := by
  have sound := boot_sound built booted
  have unowned := boot_unowned booted
  obtain ⟨core, decided, -, -, current, -⟩ := boot_spec booted
  refine ⟨?_, sound.selected_lt, sound.id_eq, ?_⟩
  · rw [decided]
    change core.sched.decided.current < maxTasks
    rw [Scheduler.current_decided, current]
    decide
  · intro id resource found
    obtain ⟨free, empty⟩ := unowned id resource found
    exact ⟨by rw [free]; nofun, by rw [empty]; nofun⟩

/-! ### Counts -/

/-- What the alarm records are values of its counter, and it is not armed for longer cycles than the
counter has values. -/
structure Alarm.InRange (alarm : Alarm) (base : AlarmBase) : Prop where
  lastCount : alarm.lastCount ≤ base.maxAllowedValue
  nextCount : alarm.nextCount ≤ base.maxAllowedValue
  cycle : alarm.cycle ≤ base.maxAllowedValue

/-- Counters do not pass their largest values, and alarms record values that their counters take. -/
structure AlarmTable.InRange (table : AlarmTable) : Prop where
  counters : ∀ (id : CounterId) (counter : Counter),
    table.counters[id]? = some counter → counter.value ≤ counter.base.maxAllowedValue
  alarms : ∀ (id : AlarmId) (alarm : Alarm) (counter : Counter),
    table.lookup id = .ok (alarm, counter) → alarm.InRange counter.base

/-- A sum on a clock that wraps is a value of the clock. -/
theorem wrapAdd_le (value step max : Tick) : wrapAdd value step max ≤ max := by
  rw [UInt32.le_iff_toNat_le, toNat_wrapAdd]
  exact Nat.le_of_lt_add_one (Nat.mod_lt _ (Nat.add_one_pos _))

theorem Counter.succValue_le {counter : Counter}
    (fits : counter.value ≤ counter.base.maxAllowedValue) :
    counter.succValue ≤ counter.base.maxAllowedValue := by
  unfold Counter.succValue
  split
  · exact UInt32.zero_le
  · rename_i below
    have := Counter.value_lt fits below
    have := counter.base.maxAllowedValue.toNat_lt
    rw [UInt32.le_iff_toNat_le, UInt32.toNat_add, UInt32.toNat_one]
    omega

/-- An alarm that expires records the value of its counter. -/
theorem Alarm.InRange.expire {alarm : Alarm} {counter : Counter}
    (inRange : alarm.InRange counter.base)
    (fits : counter.value ≤ counter.base.maxAllowedValue) :
    (alarm.expire counter).InRange counter.base := by
  refine ⟨fits, ?_, inRange.cycle⟩
  unfold Alarm.expire
  dsimp only
  split
  · exact inRange.nextCount
  · exact wrapAdd_le ..

namespace AlarmTable

variable {table : AlarmTable} {id : AlarmId}

/-- The first part of a tick. -/
theorem InRange.expire (inRange : table.InRange) :
    ({ table with alarms := table.alarms.map table.expireOne } : AlarmTable).InRange := by
  refine ⟨inRange.counters, ?_⟩
  intro id alarm counter found
  obtain ⟨here, driven⟩ := lookup_eq_ok.mp found
  obtain ⟨before, was, rfl⟩ := Option.map_eq_some_iff.mp (Array.getElem?_map.symm.trans here)
  rw [toAlarmSpec_expireOne] at driven
  have known := inRange.alarms id before counter (lookup_eq_ok.mpr ⟨was, driven⟩)
  unfold expireOne
  rw [driven]
  dsimp only
  split
  · exact known.expire (inRange.counters _ counter driven)
  · exact known

/-- The second part of a tick. -/
theorem InRange.advance (inRange : table.InRange) : table.advance.InRange := by
  have stays : ∀ (now : Tick) (counter : Counter), (counter.advance now).base = counter.base := by
    intro now counter
    unfold Counter.advance
    split <;> rfl
  constructor
  · intro id counter found
    obtain ⟨before, was, rfl⟩ := Option.map_eq_some_iff.mp (Array.getElem?_map.symm.trans found)
    have fits := inRange.counters id before was
    unfold Counter.advance
    split
    · exact Counter.succValue_le fits
    · exact fits
  · intro id alarm counter found
    obtain ⟨here, driven⟩ := lookup_eq_ok.mp found
    obtain ⟨before, was, rfl⟩ := Option.map_eq_some_iff.mp (Array.getElem?_map.symm.trans driven)
    rw [stays]
    exact inRange.alarms id alarm before (lookup_eq_ok.mpr ⟨here, was⟩)

/-- An alarm may change as long as it stays bound and records values of its counter. -/
theorem InRange.modify {f : Alarm → Alarm} (inRange : table.InRange)
    (bound : ∀ alarm, (f alarm).toAlarmSpec = alarm.toAlarmSpec)
    (changed : ∀ alarm counter, table.lookup id = .ok (alarm, counter) →
      alarm.InRange counter.base → (f alarm).InRange counter.base) :
    (table.modify id f).InRange := by
  refine ⟨inRange.counters, ?_⟩
  intro other alarm counter found
  obtain ⟨here, driven⟩ := lookup_eq_ok.mp found
  rw [getElem?_modify] at here
  split at here
  · rename_i same
    subst same
    obtain ⟨before, was, rfl⟩ := Option.map_eq_some_iff.mp here
    rw [bound] at driven
    have known := lookup_eq_ok.mpr ⟨was, driven⟩
    exact changed before counter known (inRange.alarms id before counter known)
  · exact inRange.alarms other alarm counter (lookup_eq_ok.mpr ⟨here, driven⟩)

/-- A kernel boots with counters at zero and alarms that have recorded nothing. -/
theorem inRange_of_build {bases : List AlarmBase} {specs : List AlarmSpec}
    (built : build bases specs = .ok table) : table.InRange := by
  obtain ⟨-, counters, alarms⟩ := build_eq_ok built
  constructor
  · intro id counter found
    rw [← Array.getElem?_toList, counters, List.getElem?_map] at found
    obtain ⟨base, -, rfl⟩ := Option.map_eq_some_iff.mp found
    exact UInt32.zero_le
  · intro id alarm counter found
    obtain ⟨here, -⟩ := lookup_eq_ok.mp found
    rw [← Array.getElem?_toList, alarms, List.getElem?_map] at here
    obtain ⟨spec, -, rfl⟩ := Option.map_eq_some_iff.mp here
    exact ⟨UInt32.zero_le, UInt32.zero_le, UInt32.zero_le⟩

end AlarmTable

/-- What is asked for is checked before an alarm is armed. -/
theorem Request.inRange_onAlarms (request : Request) {table : AlarmTable}
    (inRange : table.InRange) : (request.onAlarms table).InRange := by
  have changed : ∀ {result : Except Refusal AlarmTable},
      (∀ after, result = .ok after → after.InRange) → (result.toOption.getD table).InRange := by
    intro result keeps
    cases result with
    | error reason => exact inRange
    | ok after => exact keeps after rfl
  cases request with
  | setRelAlarm id increment cycle =>
      refine changed fun after accepted => ?_
      obtain ⟨_, counter, found, checked, rfl⟩ := AlarmTable.setRelative_eq_ok accepted
      obtain ⟨-, -, short⟩ := AlarmTable.checkArming_ok checked
      refine inRange.modify (fun _ => rfl) fun alarm driver again _ => ?_
      cases found.symm.trans again
      exact ⟨inRange.counters _ counter (AlarmTable.lookup_eq_ok.mp found).2, wrapAdd_le .., short⟩
  | setAbsAlarm id start cycle =>
      refine changed fun after accepted => ?_
      obtain ⟨_, counter, found, checked, rfl⟩ := AlarmTable.setAbsolute_eq_ok accepted
      obtain ⟨-, small, short⟩ := AlarmTable.checkArming_ok checked
      refine inRange.modify (fun _ => rfl) fun alarm driver again _ => ?_
      cases found.symm.trans again
      exact ⟨inRange.counters _ counter (AlarmTable.lookup_eq_ok.mp found).2, small, short⟩
  | cancelAlarm id =>
      refine changed fun after accepted => ?_
      obtain ⟨_, -, -, rfl⟩ := AlarmTable.cancel_eq_ok accepted
      refine inRange.modify (fun _ => rfl) fun alarm counter _ known => ?_
      exact ⟨known.lastCount, known.nextCount, known.cycle⟩
  | _ => exact inRange

/-- No operation puts a count on record that the counter does not take. -/
theorem Operation.inRange_onAlarms {C : Type} (operation : Operation C) {table : AlarmTable}
    (inRange : table.InRange) : (operation.onAlarms table).InRange := by
  cases tick : operation.isTick with
  | true =>
      rw [onAlarms_of_isTick tick]
      exact inRange.expire.advance
  | false =>
      cases asked : operation.request? with
      | none =>
          rw [onAlarms_of_none tick asked]
          exact inRange
      | some request =>
          rw [onAlarms_of_request? asked]
          exact request.inRange_onAlarms inRange

namespace Lifetime

variable {C : Type} [Machine C] {config : Configuration} {steps : List (Step C)}
  {kernel : Kernel C}

theorem inRange_core (lifetime : Lifetime config steps kernel) : kernel.core.InRange :=
  lifetime.keeps Core.InRange (Kernel.boot_inRange lifetime.built) Core.Edit.inRange
    Core.InRange.decided

theorem inRange_alarms (lifetime : Lifetime config steps kernel) : kernel.alarms.InRange := by
  induction lifetime with
  | boot built booted heap =>
      have built := Kernel.boot_alarms booted
      exact AlarmTable.inRange_of_build built
  | step earlier operation ih =>
      rw [Step.alarms_after]
      exact operation.inRange_onAlarms ih

/-- There are as many resources as the configuration names. -/
theorem size_resources (lifetime : Lifetime config steps kernel) :
    kernel.core.resources.size = config.ceilings.length := by
  refine lifetime.keeps (fun core => core.resources.size = config.ceilings.length) ?_
    (fun edit same => edit.size_eq.trans same) (fun same => same)
  intro console booted seen boots
  obtain ⟨core, decided, -, resources, -⟩ := Kernel.boot_spec boots
  rw [decided, Core.resources_decided, resources, List.size_toArray, List.length_map]

/-- Whatever operations are performed on a kernel in whatever order, every index into a table is in
range, and no sum or difference of counts overflows that is not taken modulo the range of a tick.
The ids are in range in the middle of an operation as well: after any edits and decisions that may
follow, such as those that each operation consists of. -/
theorem within_bounds (lifetime : Lifetime config steps kernel) :
    (∀ (seen : Trace) (core : Core C), kernel.core.Course seen core →
      core.InRange ∧ (∀ next, core.sched.decide = some next → next < maxTasks) ∧
        core.resources.size = config.ceilings.length) ∧
    (∀ (id : CounterId) (counter : Counter), kernel.alarms.counters[id]? = some counter →
      counter.value ≤ counter.base.maxAllowedValue ∧
        counter.succValue? = some counter.succValue ∧
        elapsed? kernel.alarms.freeTick counter.lastTick maxTick =
          some (elapsed kernel.alarms.freeTick counter.lastTick maxTick)) ∧
    ∀ (id : AlarmId) (alarm : Alarm), kernel.alarms.alarms[id]? = some alarm →
      ∃ counter, kernel.alarms.lookup id = .ok (alarm, counter) ∧ alarm.InRange counter.base ∧
        elapsed? counter.value alarm.lastCount counter.base.maxAllowedValue =
          some (elapsed counter.value alarm.lastCount counter.base.maxAllowedValue) ∧
        ∀ value step, wrapAdd? value step counter.base.maxAllowedValue =
          some (wrapAdd value step counter.base.maxAllowedValue) := by
  have inRange := lifetime.inRange_alarms
  refine ⟨?ids, ?counters, ?alarms⟩
  case ids =>
    intro seen core way
    have known := way.inRange lifetime.inRange_core
    exact ⟨known, fun next => known.decide_lt, way.size_eq.trans lifetime.size_resources⟩
  case counters =>
    intro id counter found
    have fits := inRange.counters id counter found
    exact ⟨fits, Counter.succValue?_eq fits, elapsed?_eq (le_maxTick counter.lastTick) _⟩
  case alarms =>
    intro id alarm found
    obtain ⟨counter, driven⟩ := lifetime.exists_lookup found
    have known := inRange.alarms id alarm counter driven
    exact ⟨counter, driven, known, elapsed?_eq known.lastCount _, fun _ _ => wrapAdd?_eq ..⟩

/-- Two tasks and a resource, a counter over the full range of ticks and one that counts to one, and
an alarm on each of them. -/
def unruly : Configuration :=
  .assemble (Configuration.plainTask leastUrgent false)
    [.task (Configuration.plainTask 5 true), .task (Configuration.plainTask 2 false), .resource 2,
      .counter { maxAllowedValue := maxTick, ticksPerBase := 1, minCycle := 1 },
      .counter { maxAllowedValue := 1, ticksPerBase := 1, minCycle := 1 },
      .alarm { counter := 0, action := .service (.activateTask 2) },
      .alarm { counter := 1, action := .service (.setEvent 1 1) }]

/-- Alarms are set before anything runs, a task that is queued for a resource asks for it once more,
and then it ends. -/
def disorder : List (Operation FrameIndex) :=
  [.request (.setAbsAlarm 0 maxTick maxTick), .request (.setRelAlarm 1 1 1), .tick, .tick,
    .switch ⟨0⟩, .request (.getResource 0), .request (.activateTask 2), .switch ⟨1⟩,
    .request (.getResource 0), .request (.getResource 0), .request .terminateTask]

/-- The kernel after that. -/
def disordered : Kernel FrameIndex :=
  Execution.reached (Execution.booted unruly Hosted.console) disorder

set_option maxRecDepth 8000 in
/-- A task that is suspended stands twice in a queue, one counter is at its largest value, and the
next count of an alarm is the largest tick. -/
theorem within_bounds_disordered :
    ∃ steps, Lifetime unruly steps disordered ∧
      (disordered.core.resources[0]?.map Resource.waiters = some [2, 2] ∧
        (disordered.core.sched.slot 2).state = .suspended ∧ disordered.core.InRange) ∧
      (∃ counter, disordered.alarms.counters[1]? = some counter ∧
        counter.value = counter.base.maxAllowedValue ∧ counter.succValue? = some counter.succValue) ∧
      ∃ alarm counter, disordered.alarms.lookup 0 = .ok (alarm, counter) ∧
        alarm.nextCount = maxTick ∧ alarm.InRange counter.base := by
  have lifetime := Lifetime.of_boots (Configuration.built_assemble _ _)
    (show (Kernel.boot unruly Hosted.console : Except Refusal (Kernel FrameIndex × Trace)).isOk
      by decide +kernel) disorder
  obtain ⟨ids, counters, alarms⟩ := lifetime.within_bounds
  obtain ⟨inRange, -⟩ := ids [] disordered.core (.nil _)
  have wrapping : disordered.alarms.counters[1]? =
      some
        { base := { maxAllowedValue := 1, ticksPerBase := 1, minCycle := 1 }
          value := 1, nextTick := 2, lastTick := 1 } := by decide +kernel
  obtain ⟨alarm, armed, atMax⟩ := Option.map_eq_some_iff.mp
    (show (disordered.alarms.alarms[0]?.map fun alarm => alarm.nextCount) = some maxTick
      by decide +kernel)
  obtain ⟨counter, driven, known, -⟩ := alarms 0 alarm armed
  exact ⟨_, lifetime, ⟨by decide +kernel, by decide +kernel, inRange⟩,
    ⟨_, wrapping, rfl, (counters 1 _ wrapping).2.1⟩, ⟨alarm, counter, driven, atMax, known⟩⟩

end Lifetime

end Rtos
