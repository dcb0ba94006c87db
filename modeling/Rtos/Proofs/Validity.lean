/-
Module: Rtos.Proofs.Validity
Purpose: Configurations are valid by construction.  What the operations that add objects see to is
  all that a booting kernel checks again, but for the room on the stacks, and all that a tick takes
  for granted, however long the kernel has been running and whatever it has been asked for.
Main definitions: Addition, Configuration.assemble, refusals
Main statements: `Configuration.assemble_valid`
-/
import Rtos.Proofs.Course
import Rtos.Proofs.Timekeeping

namespace Rtos

/-! ### Putting a configuration together -/

/-- An object that is offered to a configuration. -/
inductive Addition where
  | task (spec : TaskSpec)
  | resource (ceiling : Priority)
  | counter (base : AlarmBase)
  | alarm (spec : AlarmSpec)

namespace Configuration

variable {config : Configuration}

/-- Add an object, and answer with its id, or refuse it. -/
def add (config : Configuration) : Addition → Except Refusal (Nat × Configuration)
  | .task spec => config.addTask spec
  | .resource ceiling => config.addResource ceiling
  | .counter base => config.addCounter base
  | .alarm spec => config.addAlarm spec

/-- The configuration after an object was offered to it.  One that is refused leaves it as it was. -/
def offered (config : Configuration) (addition : Addition) : Configuration :=
  match config.add addition with
  | .ok (_, after) => after
  | .error _ => config

/-- The system of an idle task and of whatever is accepted of the objects offered in turn. -/
def assemble (idle : TaskSpec) (additions : List Addition) : Configuration :=
  additions.foldl offered (new idle)

theorem Built.offered (built : config.Built) (addition : Addition) :
    (config.offered addition).Built := by
  unfold Configuration.offered
  split
  · rename_i added
    cases addition with
    | task spec => exact built.addTask added
    | resource ceiling => exact built.addResource added
    | counter base => exact built.addCounter added
    | alarm spec => exact built.addAlarm added
  · exact built

theorem built_assemble (idle : TaskSpec) (additions : List Addition) :
    (assemble idle additions).Built := by
  have folded : ∀ {config : Configuration}, config.Built →
      (additions.foldl Configuration.offered config).Built := by
    induction additions with
    | nil => exact fun built => built
    | cons addition rest ih => exact fun built => ih (built.offered addition)
  exact folded (.new idle)

end Configuration

/-! ### What a booting kernel checks again -/

/-- Alarms that name counters of the table are bound if there is room for them. -/
theorem AlarmTable.exists_bindAll {table : AlarmTable} {specs : List AlarmSpec}
    (known : ∀ spec ∈ specs, spec.counter < table.counters.size)
    (room : table.alarms.size + specs.length ≤ maxAlarms) :
    ∃ after, table.bindAll specs = .ok after := by
  induction specs generalizing table with
  | nil => exact ⟨table, rfl⟩
  | cons spec rest ih =>
      obtain ⟨here, others⟩ := List.forall_mem_cons.mp known
      rw [List.length_cons] at room
      unfold bindAll
      rw [if_neg (Nat.not_le.mpr here), if_neg (by omega)]
      exact ih others (by rw [Array.size_push]; omega)

namespace Kernel

variable {C : Type} {sched : Scheduler C}

/-- Slots are filled if there are enough of them and all stacks have room to run. -/
theorem exists_declareAll {specs : List TaskSpec} {first : Nat}
    (slots : first + specs.length ≤ maxTasks)
    (roomy : ∀ spec ∈ specs, minStackWords ≤ spec.image.stack.size) :
    ∃ declared, declareAll sched first specs = .ok declared := by
  induction specs generalizing sched first with
  | nil => exact ⟨sched, rfl⟩
  | cons spec rest ih =>
      obtain ⟨here, others⟩ := List.forall_mem_cons.mp roomy
      rw [List.length_cons] at slots
      unfold declareAll
      rw [if_neg (Nat.not_lt.mpr here), if_neg (by omega)]
      exact ih (by omega) others

/-- A stack without room to run is a bad value. -/
theorem declareAll_of_short {specs : List TaskSpec} {first : Nat}
    (slots : first + specs.length ≤ maxTasks)
    (short : ∃ spec ∈ specs, spec.image.stack.size < minStackWords) :
    declareAll sched first specs = .error .badValue := by
  induction specs generalizing sched first with
  | nil =>
      obtain ⟨_, member, -⟩ := short
      cases member
  | cons spec rest ih =>
      rw [List.length_cons] at slots
      unfold declareAll
      by_cases here : spec.image.stack.size < minStackWords
      · rw [if_pos here]
      · obtain ⟨tight, member, small⟩ := short
        have later : tight ∈ rest := (List.mem_cons.mp member).resolve_left (by
          rintro rfl
          exact here small)
        rw [if_neg here, if_neg (by omega)]
        exact ih (by omega) ⟨tight, later, small⟩

variable [Machine C]

/-- Tasks that can be activated are, one after the other. -/
theorem exists_activateAll {ids : List TaskId} (nodup : ids.Nodup)
    (startable : ∀ id ∈ ids, ∃ fresh, (sched.slot id).activate Machine.prime = .ok fresh) :
    ∃ activated, ids.foldlM activateIn sched = .ok activated := by
  induction ids generalizing sched with
  | nil => exact ⟨sched, rfl⟩
  | cons first rest ih =>
      obtain ⟨apart, nodup⟩ := List.nodup_cons.mp nodup
      obtain ⟨⟨fresh, activates⟩, others⟩ := List.forall_mem_cons.mp startable
      have declared : (sched.slot first).state ≠ .free := by
        rw [Task.suspended_of_activate activates]
        nofun
      have one : activateIn sched first = .ok (sched.modify first fun _ => fresh) := by
        unfold activateIn
        rw [Scheduler.findTask, if_neg declared]
        simp only [bind, Except.bind, activates]
        rfl
      rw [List.foldlM_cons, one]
      refine ih nodup fun id member => ?_
      rw [Scheduler.slot_modify_of_ne (ne_of_mem_of_not_mem member apart).symm]
      exact others id member

/-- A kernel of a valid configuration boots unless the stack of some task is too short, and this is
the only reason that it is refused for. -/
theorem boot_eq_error_iff {config : Configuration} (valid : config.Valid) (console : Console)
    (reason : Refusal) :
    (boot config console : Except Refusal (Kernel C × Trace)) = .error reason ↔
      reason = .badValue ∧ ∃ spec ∈ config.tasks, spec.image.stack.size < minStackWords := by
  obtain ⟨alarms, bound⟩ :
      ∃ alarms, AlarmTable.build config.counters config.alarms = .ok alarms := by
    unfold AlarmTable.build
    rw [if_pos valid.counters]
    exact AlarmTable.exists_bindAll (by simpa using valid.bound) (by simpa using valid.alarms)
  have slots : 0 + config.tasks.length ≤ maxTasks := by
    rw [Nat.zero_add]
    exact valid.tasks
  unfold boot
  rw [resourceTable, if_pos valid.ceilings, bound]
  by_cases short : ∃ spec ∈ config.tasks, spec.image.stack.size < minStackWords
  · rw [declareAll_of_short slots short]
    simp [bind, Except.bind, short, eq_comm]
  · have roomy : ∀ spec ∈ config.tasks, minStackWords ≤ spec.image.stack.size :=
      fun spec member => Nat.le_of_not_lt fun tight => short ⟨spec, member, tight⟩
    obtain ⟨declared, filled⟩ : ∃ declared : Scheduler C,
        declareAll {} 0 config.tasks = .ok declared := exists_declareAll slots roomy
    have startable : ∀ id ∈ autostarted config.tasks, ∃ fresh,
        (declared.slot id).activate Machine.prime = .ok fresh := by
      intro id member
      have slot := (slot_declareAll filled).2 id
      rw [Nat.zero_add, List.getElem?_eq_getElem (lt_of_mem_autostarted member)] at slot
      exact ⟨_, by rw [slot]; rfl⟩
    obtain ⟨activated, started⟩ := exists_activateAll (List.nodup_range.filter _) startable
    rw [filled]
    simp only [bind, Except.bind]
    rw [show (autostarted config.tasks).foldlM activateIn declared = .ok activated from started]
    simp [short, pure, Except.pure]

end Kernel

/-! ### What a tick takes for granted -/

/-- The service that an alarm is seen to ask for in vain, and why. -/
def Observation.refused? : Observation → Option (InterruptCall × Refusal)
  | .logged (.alarmRefused request reason) => some (request, reason)
  | .logged _ | .entered _ | .answered .. => none

/-- The services that alarms are seen to ask for in vain, and why, in their order. -/
def refusals (seen : Trace) : List (InterruptCall × Refusal) := seen.filterMap Observation.refused?

@[simp] theorem refusals_append (first second : Trace) :
    refusals (first ++ second) = refusals first ++ refusals second :=
  List.filterMap_append

theorem mem_refusals {seen : Trace} {request : InterruptCall} {reason : Refusal} :
    (request, reason) ∈ refusals seen ↔ .logged (.alarmRefused request reason) ∈ seen := by
  constructor
  · intro member
    obtain ⟨told, shown, refused⟩ := List.mem_filterMap.mp member
    unfold Observation.refused? at refused
    split at refused
    · cases refused
      exact shown
    all_goals cases refused
  · exact fun shown => List.mem_filterMap.mpr ⟨_, shown, rfl⟩

/-- What a service for a task that is declared can be refused for. -/
def InterruptCall.onlyRefusal : InterruptCall → Refusal
  | activateTask _ => .alreadyActive
  | setEvent .. => .wrongState

theorem Task.Declared.refused_activate {C : Type} {task : Task C} (declared : task.Declared)
    {prime : Primer C} {reason : Refusal} (refused : task.activate prime = .error reason) :
    reason = .alreadyActive := by
  obtain ⟨image, found⟩ := Option.isSome_iff_exists.mp declared.image
  unfold activate at refused
  rw [found] at refused
  cases state : task.state with
  | free => exact absurd state declared.state
  | suspended =>
      rw [state] at refused
      cases refused
  | running | waiting | ready =>
      rw [state] at refused
      cases refused
      rfl

namespace Kernel

variable {C : Type} [Machine C] {kernel : Kernel C} {reason : Refusal}

theorem refused_activateTask {id : TaskId} (declared : (kernel.core.sched.slot id).Declared)
    (refused : ((activateTask id).run kernel).result = .error reason) :
    reason = .alreadyActive := by
  unfold activateTask ready at refused
  have updated := run_updateTask_of_declared (f := Task.activate Machine.prime) declared.state
  cases activates : (kernel.core.sched.slot id).activate Machine.prime with
  | error actual =>
      rw [activates] at updated
      rw [Action.run_bind_of_error updated] at refused
      cases refused
      exact declared.refused_activate activates
  | ok fresh =>
      rw [activates] at updated
      rw [Action.run_bind_of_ok updated] at refused
      obtain ⟨_, accepted⟩ := ((Action.neverRefused_emit _).bind fun _ => neverRefused_reschedule)
        { kernel with core := kernel.core.modifyTask id fun _ => fresh }
      cases refused.symm.trans accepted

omit [Machine C] in
theorem refused_setEvent {id : TaskId} (declared : (kernel.core.sched.slot id).Declared)
    {mask : EventMask} (refused : ((setEvent id mask).run kernel).result = .error reason) :
    reason = .wrongState := by
  unfold setEvent at refused
  by_cases active : (kernel.core.sched.slot id).state.isActive
  · have answered : ∃ woken after, (onScheduler (Scheduler.setEvent id mask)).run kernel =
        ⟨.ok woken, after, []⟩ := by
      have done := Scheduler.run_setEvent active mask
      split at done <;> exact ⟨_, _, run_onScheduler done⟩
    obtain ⟨woken, after, done⟩ := answered
    rw [Action.run_bind_of_ok done] at refused
    have never : (if woken then reschedule else pure () : Action (Kernel C) Unit).NeverRefused := by
      split
      · exact neverRefused_reschedule
      · exact Action.neverRefused_pure ()
    obtain ⟨_, accepted⟩ := never after
    cases refused.symm.trans accepted
  · have inTable : id < maxTasks := Scheduler.lt_of_state_ne_free declared.state
    have unknown : (Scheduler.setEvent id mask).run kernel.core.sched =
        ⟨.error .wrongState, kernel.core.sched, []⟩ := by
      unfold Scheduler.setEvent
      rw [Action.run_get_bind, Scheduler.eventTarget_of_inactive inTable active,
        Action.run_error_bind]
    have done : (onScheduler (Scheduler.setEvent id mask)).run kernel =
        ⟨.error .wrongState, kernel, []⟩ := by
      rw [onScheduler, onCore, Action.run_within, Core.onScheduler, Action.run_within, unknown]
    rw [Action.run_bind_of_error done] at refused
    cases refused
    rfl

/-- A service for a task that is declared is refused for one reason only. -/
theorem refused_serve {request : InterruptCall}
    (declared : (kernel.core.sched.slot request.target).Declared)
    (refused : ((serve request).run kernel).result = .error reason) :
    reason = request.onlyRefusal := by
  cases request with
  | activateTask target => exact refused_activateTask declared refused
  | setEvent target mask => exact refused_setEvent declared refused

/-- A service that an alarm asks for is seen to be refused if and only if it is refused in its turn. -/
theorem mem_refusals_runAlarms {actions : List AlarmAction} {request : InterruptCall} :
    (request, reason) ∈ refusals ((runAlarms actions).run kernel).trace ↔
      ∃ early late, actions = early ++ .service request :: late ∧
        ((serve request).run ((runAlarms early).run kernel).state).result = .error reason := by
  constructor
  · intro seen
    obtain ⟨early, _, late, _, same, refused, told⟩ :=
      refused_of_runAlarms (mem_refusals.mp seen) rfl
    cases told
    exact ⟨early, late, same, refused⟩
  · rintro ⟨early, late, rfl, refused⟩
    induction early generalizing kernel with
    | nil =>
        rw [List.nil_append, runAlarms, Action.run_bind, run_runAlarm_service]
        change ((serve request).run kernel).result = .error reason at refused
        simp [refused, refusals, Observation.refused?]
    | cons action early ih =>
        obtain ⟨_, accepted⟩ := neverRefused_runAlarm action kernel
        rw [runAlarms, Action.run_bind, accepted] at refused
        rw [List.cons_append, runAlarms, Action.run_bind, accepted]
        simp [ih refused]

theorem declared_bootTask {config : Configuration} {id : TaskId}
    (configured : id < config.tasks.length) : (bootTask config id : Task C).Declared := by
  unfold bootTask
  rw [List.getElem?_eq_getElem configured]
  dsimp only
  split <;> exact ⟨nofun, rfl⟩

end Kernel

namespace Lifetime

variable {C : Type} [Machine C] {config : Configuration} {steps : List (Step C)}
  {kernel : Kernel C}

/-- Any operations on a configuration that boots make a lifetime. -/
theorem of_boots (built : config.Built) {console : Console}
    (boots : (Kernel.boot config console : Except Refusal (Kernel C × Trace)).isOk)
    (operations : List (Operation C)) :
    Lifetime config (Execution.replay (Execution.booted config console) [] operations)
      (Execution.reached (Execution.booted config console) operations) := by
  obtain ⟨seen, done⟩ := Execution.boot_booted boots
  exact Lifetime.continued (.boot built done (Execution.booted config console).heap) operations

/-- What holds of tasks and resources when the kernel boots, and what every edit and every decision
keeps, holds however long the kernel runs. -/
theorem keeps (lifetime : Lifetime config steps kernel) (property : Core C → Prop)
    (boots : ∀ {console : Console} {booted : Kernel C} {seen : Trace},
      Kernel.boot config console = .ok (booted, seen) → property booted.core)
    (edits : ∀ {first last : Core C}, first.Edit last → property first → property last)
    (decides : ∀ {core : Core C}, property core → property core.decided) :
    property kernel.core := by
  induction lifetime with
  | boot built booted heap =>
      have start := boots booted
      exact start
  | step earlier operation ih => exact (Step.course _).keeps property edits decides ih

/-- The tasks of the configuration stay declared, whatever happens. -/
theorem declared (lifetime : Lifetime config steps kernel) {id : TaskId}
    (configured : id < config.tasks.length) : (kernel.core.sched.slot id).Declared := by
  refine lifetime.keeps (fun core => (core.sched.slot id).Declared) ?_ Core.Edit.declared
    Core.declared_decided
  intro console booted seen boots
  obtain ⟨core, decided, -, -, -, -, slot, -⟩ := Kernel.boot_spec boots
  rw [decided]
  apply Core.declared_decided
  rw [slot]
  exact Kernel.declared_bootTask configured

/-- The service that an alarm asks for is for a task of the configuration. -/
theorem target_lt (lifetime : Lifetime config steps kernel) {id : AlarmId} {alarm : Alarm}
    (found : kernel.alarms.alarms[id]? = some alarm) {request : InterruptCall}
    (asks : alarm.action = .service request) : request.target < config.tasks.length := by
  have bound := lifetime.bound_eq id
  rw [found] at bound
  have known := lifetime.built.valid.targets _ (List.mem_of_getElem? bound.symm)
  rw [asks] at known
  exact of_decide_eq_true known

theorem exists_lookup (lifetime : Lifetime config steps kernel) {id : AlarmId} {alarm : Alarm}
    (found : kernel.alarms.alarms[id]? = some alarm) :
    ∃ counter, kernel.alarms.lookup id = .ok (alarm, counter) := by
  have bound := lifetime.bound_eq id
  rw [found] at bound
  have known := lifetime.built.valid.bound _ (List.mem_of_getElem? bound.symm)
  have counter := lifetime.counter_eq (List.getElem?_eq_getElem known)
  exact ⟨_, AlarmTable.lookup_eq_ok.mpr ⟨found, counter⟩⟩

/-- A tick finds the services that alarms ask for refused for one reason only. -/
theorem refused_tick (lifetime : Lifetime config steps kernel) {request : InterruptCall}
    {reason : Refusal}
    (seen : (request, reason) ∈ refusals (Step.done ⟨kernel, .tick⟩).trace) :
    reason = request.onlyRefusal := by
  rw [Step.trace_tick, Kernel.run_tick, refusals_append, List.mem_append] at seen
  rcases seen with expiring | acting
  · obtain ⟨id, -, told⟩ := List.mem_flatMap.mp (mem_refusals.mp expiring)
    unfold AlarmTable.expiry at told
    split at told
    · cases List.mem_singleton.mp told
    · cases told
  · obtain ⟨early, late, actions, refused⟩ := Kernel.mem_refusals_runAlarms.mp acting
    have due : .service request ∈ early ++ .service request :: late := by simp
    rw [← actions] at due
    obtain ⟨id, -, asks⟩ := List.mem_filterMap.mp due
    obtain ⟨alarm, found, asks⟩ := Option.map_eq_some_iff.mp asks
    -- the task was declared when the tick began, and nothing takes that back
    have declared := lifetime.declared (lifetime.target_lt found asks)
    refine Kernel.refused_serve (Core.Course.declared (Kernel.runs_runAlarms early _) ?_) refused
    exact declared

end Lifetime

namespace Configuration

/-- A configuration that was put together from an idle task and any objects offered in turn, some of
them refused, is valid by construction.  Its kernel boots unless the stack of some task is too short,
which is a bad value, and no other check can fail.  From then on, whatever operations are performed
in whatever order, every alarm is bound to a counter and acts on a declared task if on any, and a
tick finds the activation of a task refused only because the task is active, and the delivery of
events only because the task is not. -/
theorem valid_by_construction {C : Type} [Machine C] (idle : TaskSpec)
    (additions : List Addition) (console : Console) :
    (∀ reason, (Kernel.boot (assemble idle additions) console : Except Refusal (Kernel C × Trace)) =
        .error reason ↔
      reason = .badValue ∧
        ∃ spec ∈ (assemble idle additions).tasks, spec.image.stack.size < minStackWords) ∧
    ∀ (steps : List (Step C)) (kernel : Kernel C),
      Lifetime (assemble idle additions) steps kernel →
        (∀ id alarm, kernel.alarms.alarms[id]? = some alarm →
          (∃ counter, kernel.alarms.lookup id = .ok (alarm, counter)) ∧
          ∀ request, alarm.action = .service request →
            ∃ task, kernel.sched.findTask request.target = .ok task) ∧
        (∀ target reason, (.activateTask target, reason) ∈
          refusals (Step.done ⟨kernel, .tick⟩).trace → reason = .alreadyActive) ∧
        ∀ target mask reason, (.setEvent target mask, reason) ∈
          refusals (Step.done ⟨kernel, .tick⟩).trace → reason = .wrongState := by
  refine ⟨Kernel.boot_eq_error_iff (built_assemble idle additions).valid console, ?_⟩
  intro steps kernel lifetime
  refine ⟨fun id alarm found => ⟨lifetime.exists_lookup found, fun request asks => ?_⟩,
    fun target reason => lifetime.refused_tick, fun target mask reason => lifetime.refused_tick⟩
  exact ⟨_, Core.findTask_eq (lifetime.declared (lifetime.target_lt found asks)).state⟩

/-- Objects that are offered to a system, five of them in vain: an alarm that comes before its
counter, a counter that would never advance, and alarms on a counter and for a task that do not
exist.  The stack of the second task has so many words. -/
def offers (words : Nat) : List Addition :=
  [.alarm { counter := 0, action := .service (.activateTask 0) },
   .task (plainTask 2 true),
   .task { priority := 3, image := { entry := 0x400, argument := 0, stack := Stack.zeros words } },
   .counter { maxAllowedValue := 3, ticksPerBase := 0, minCycle := 1 },
   .counter { maxAllowedValue := 3, ticksPerBase := 1, minCycle := 1 },
   .counter { maxAllowedValue := 3, ticksPerBase := 1, minCycle := 4 },
   .alarm { counter := 0, action := .service (.activateTask 1) },
   .alarm { counter := 1, action := .service (.activateTask 1) },
   .alarm { counter := 0, action := .service (.setEvent 2 1) },
   .alarm { counter := 0, action := .service (.setEvent 3 1) }]

/-- The system of those that are accepted. -/
def offeredSystem (words : Nat) : Configuration :=
  assemble (plainTask leastUrgent false) (offers words)

/-- The kernel of the system when both of its alarms are about to expire. -/
def aboutToRing : Kernel FrameIndex :=
  Execution.reached (Execution.booted (offeredSystem minStackWords) Hosted.console)
    [.request (.setRelAlarm 0 1 0), .request (.setRelAlarm 1 1 0), .tick, .tick]

set_option maxRecDepth 8000 in
/-- A system with two alarms, one to activate a task that is active and one to notify a task that is
not, and the same system with a stack that is too short. -/
theorem valid_by_construction_offers :
    (offeredSystem minStackWords).alarms.length = 2 ∧
      refusals (Step.done ⟨aboutToRing, .tick⟩).trace =
        [(.activateTask 1, .alreadyActive), (.setEvent 2 1, .wrongState)] ∧
      (∀ reason, (.activateTask 1, reason) ∈ refusals (Step.done ⟨aboutToRing, .tick⟩).trace →
        reason = .alreadyActive) ∧
      (Kernel.boot (offeredSystem 1) Hosted.console : Except Refusal (Kernel FrameIndex × Trace)) =
        .error .badValue := by
  have lifetime := Lifetime.of_boots (built_assemble (plainTask leastUrgent false)
    (offers minStackWords)) (show (Kernel.boot (offeredSystem minStackWords) Hosted.console :
      Except Refusal (Kernel FrameIndex × Trace)).isOk by decide +kernel)
    [.request (.setRelAlarm 0 1 0), .request (.setRelAlarm 1 1 0), .tick, .tick]
  obtain ⟨-, later⟩ := valid_by_construction (C := FrameIndex) (plainTask leastUrgent false)
    (offers minStackWords) Hosted.console
  obtain ⟨-, started, -⟩ := later _ aboutToRing lifetime
  obtain ⟨boots, -⟩ := valid_by_construction (C := FrameIndex) (plainTask leastUrgent false)
    (offers 1) Hosted.console
  exact ⟨by decide +kernel, by decide +kernel, started 1,
    (boots .badValue).mpr ⟨rfl, by decide +kernel⟩⟩

end Configuration

end Rtos
