/-
Module: Rtos.Proofs.Boot
Purpose: The kernel of a configuration that was put together object by object.  It boots into a
  sound state, with the idle task and every autostart task primed.
Main definitions: Configuration.Built, Configuration.Valid, Core.Unowned
Main statements: `Configuration.Built.valid`, `Kernel.boot_sound`
-/
import Rtos.Proofs.Move

namespace Rtos

namespace Configuration

/-- The configuration was put together by the operations that check what they add. -/
inductive Built : Configuration → Prop where
  | new (idle : TaskSpec) : Built (new idle)
  | addTask {config after : Configuration} {task : TaskSpec} {id : TaskId} (built : Built config)
      (added : config.addTask task = .ok (id, after)) : Built after
  | addResource {config after : Configuration} {ceiling : Priority} {id : ResourceId}
      (built : Built config) (added : config.addResource ceiling = .ok (id, after)) : Built after
  | addCounter {config after : Configuration} {base : AlarmBase} {id : CounterId}
      (built : Built config) (added : config.addCounter base = .ok (id, after)) : Built after
  | addAlarm {config after : Configuration} {alarm : AlarmSpec} {id : AlarmId}
      (built : Built config) (added : config.addAlarm alarm = .ok (id, after)) : Built after

variable {config after : Configuration}

theorem addTask_eq_ok {task : TaskSpec} {id : TaskId}
    (added : config.addTask task = .ok (id, after)) :
    config.tasks.length < maxTasks ∧ after = { config with tasks := config.tasks ++ [task] } := by
  unfold addTask at added
  split at added
  · rename_i room
    cases added
    exact ⟨room, rfl⟩
  · cases added

theorem addResource_eq_ok {ceiling : Priority} {id : ResourceId}
    (added : config.addResource ceiling = .ok (id, after)) :
    config.ceilings.length < maxResources ∧
      after = { config with ceilings := config.ceilings ++ [ceiling] } := by
  unfold addResource at added
  split at added
  · rename_i room
    cases added
    exact ⟨room, rfl⟩
  · cases added

theorem addCounter_eq_ok {base : AlarmBase} {id : CounterId}
    (added : config.addCounter base = .ok (id, after)) :
    Configuration.validBase base ∧ config.counters.length < maxCounters ∧
      after = { config with counters := config.counters ++ [base] } := by
  unfold addCounter at added
  split at added
  · cases added
  · rename_i valid
    split at added
    · rename_i room
      cases added
      exact ⟨by simpa using valid, room, rfl⟩
    · cases added

theorem addAlarm_eq_ok {alarm : AlarmSpec} {id : AlarmId}
    (added : config.addAlarm alarm = .ok (id, after)) :
    alarm.counter < config.counters.length ∧ config.knowsTarget alarm.action ∧
      config.alarms.length < maxAlarms ∧
      after = { config with alarms := config.alarms ++ [alarm] } := by
  unfold addAlarm at added
  split at added
  · cases added
  · rename_i known
    split at added
    · rename_i room
      cases added
      simp only [not_or, Nat.not_le, Bool.not_eq_true', Bool.not_eq_false] at known
      exact ⟨known.1, known.2, room, rfl⟩
    · cases added

/-- What the operations that add objects see to. -/
structure Valid (config : Configuration) : Prop where
  idle : config.tasks ≠ []
  tasks : config.tasks.length ≤ maxTasks
  ceilings : config.ceilings.length ≤ maxResources
  counters : config.counters.length ≤ maxCounters
  alarms : config.alarms.length ≤ maxAlarms
  bases : ∀ base ∈ config.counters, validBase base
  bound : ∀ alarm ∈ config.alarms, alarm.counter < config.counters.length
  targets : ∀ alarm ∈ config.alarms, config.knowsTarget alarm.action

/-- A task that has been added stays there. -/
theorem knowsTarget_mono {action : AlarmAction}
    (more : config.tasks.length ≤ after.tasks.length) (knows : config.knowsTarget action) :
    after.knowsTarget action := by
  cases action with
  | service request =>
      exact decide_eq_true (Nat.lt_of_lt_of_le (of_decide_eq_true knows) more)
  | callback => rfl

/-- Each operation checks what it adds, and what was checked before stays right. -/
theorem Built.valid (built : config.Built) : config.Valid := by
  have grown : ∀ {α : Type} {list : List α} {new : α} {bound : Nat}, list.length < bound →
      (list ++ [new]).length ≤ bound := fun room => by rwa [List.length_append]
  induction built with
  | new idle =>
      exact ⟨nofun, show 1 ≤ maxTasks by decide, Nat.zero_le _, Nat.zero_le _, Nat.zero_le _,
        nofun, nofun, nofun⟩
  | addTask _ added valid =>
      obtain ⟨room, rfl⟩ := addTask_eq_ok added
      exact { valid with
        idle := by simp
        tasks := grown room
        targets := fun alarm member => knowsTarget_mono (by simp) (valid.targets alarm member) }
  | addResource _ added valid =>
      obtain ⟨room, rfl⟩ := addResource_eq_ok added
      exact { valid with ceilings := grown room }
  | addCounter _ added valid =>
      obtain ⟨counts, room, rfl⟩ := addCounter_eq_ok added
      exact { valid with
        counters := grown room
        bases := List.forall_mem_append.mpr ⟨valid.bases, List.forall_mem_singleton.mpr counts⟩
        bound := fun alarm member => Nat.lt_of_lt_of_le (valid.bound alarm member) (by simp) }
  | addAlarm _ added valid =>
      obtain ⟨bound, known, room, rfl⟩ := addAlarm_eq_ok added
      exact { valid with
        alarms := grown room
        bound := List.forall_mem_append.mpr ⟨valid.bound, List.forall_mem_singleton.mpr bound⟩
        targets := List.forall_mem_append.mpr
          ⟨valid.targets, List.forall_mem_singleton.mpr (knowsTarget_mono Nat.le.refl known)⟩ }

end Configuration

namespace Core

variable {C : Type} {core : Core C}

/-- Nobody owns a resource or queues for one. -/
def Unowned (core : Core C) : Prop :=
  ∀ (id : ResourceId) (resource : Resource), core.resources[id]? = some resource →
    resource.owner = none ∧ resource.waiters = []

theorem Unowned.not_holdsAt (unowned : core.Unowned) (task : TaskId) (level : Priority) :
    ¬ core.HoldsAt task level := by
  rintro ⟨id, resource, found, owner, -⟩
  rw [(unowned id resource found).1] at owner
  cases owner

theorem Unowned.not_queuesAt (unowned : core.Unowned) (task : TaskId) (level : Priority) :
    ¬ core.QueuesAt task level := by
  rintro ⟨id, resource, found, waits, -⟩
  rw [(unowned id resource found).2] at waits
  cases waits

theorem Unowned.queuesSound (unowned : core.Unowned) : core.QueuesSound := by
  constructor
  · intro id resource found
    obtain ⟨free, empty⟩ := unowned id resource found
    exact ⟨fun _ => empty, by rw [free]; nofun, by rw [empty]; exact List.nodup_nil⟩
  · intro task id other first second found _ waits
    exact absurd ⟨id, first, found, waits, rfl⟩ (unowned.not_queuesAt task first.ceiling)

end Core

namespace Kernel

variable {C : Type} {sched declared activated : Scheduler C} {id : TaskId}

/-! ### The tasks of a booting kernel -/

/-- Slots are filled from the first one on, in the order of the list. -/
theorem slot_declareAll {specs : List TaskSpec} {first : TaskId}
    (done : declareAll sched first specs = .ok declared) :
    (∀ id < first, declared.slot id = sched.slot id) ∧
      ∀ offset, declared.slot (first + offset) =
        match specs[offset]? with
        | some spec => (sched.slot (first + offset)).declare spec
        | none => sched.slot (first + offset) := by
  induction specs generalizing sched first with
  | nil =>
      cases done
      exact ⟨fun _ _ => rfl, fun _ => rfl⟩
  | cons spec rest ih =>
      unfold declareAll at done
      split at done
      · cases done
      · split at done
        · cases done
        · rename_i room
          have inTable : first < maxTasks := Nat.lt_of_not_le room
          obtain ⟨before, after⟩ := ih done
          refine ⟨?_, ?_⟩
          · intro id earlier
            rw [before id (Nat.lt_succ_of_lt earlier)]
            exact Scheduler.slot_modify_of_ne (Nat.ne_of_gt earlier) _
          · intro offset
            cases offset with
            | zero =>
                rw [Nat.add_zero, before first (Nat.lt_succ_self first)]
                exact Scheduler.slot_modify_self inTable _
            | succ offset =>
                have shift : first + (offset + 1) = first + 1 + offset := by
                  rw [Nat.add_assoc, Nat.add_comm 1 offset]
                have other : first ≠ first + 1 + offset :=
                  Nat.ne_of_lt (Nat.lt_of_lt_of_le (Nat.lt_succ_self first) (Nat.le_add_right _ _))
                rw [shift, after offset, Scheduler.slot_modify_of_ne other]
                rfl

theorem cursors_declareAll {specs : List TaskSpec} {first : TaskId}
    (done : declareAll sched first specs = .ok declared) :
    declared.current = sched.current ∧ declared.selected = sched.selected := by
  induction specs generalizing sched first with
  | nil =>
      cases done
      exact ⟨rfl, rfl⟩
  | cons spec rest ih =>
      unfold declareAll at done
      split at done
      · cases done
      · split at done
        · cases done
        · have cursors := ih done
          exact cursors

/-- Slots are filled only if all the stacks have room to run. -/
theorem roomy_of_declareAll {specs : List TaskSpec} {first : TaskId}
    (done : declareAll sched first specs = .ok declared) :
    ∀ spec ∈ specs, minStackWords ≤ spec.image.stack.size := by
  induction specs generalizing sched first with
  | nil => exact fun _ => nofun
  | cons spec rest ih =>
      unfold declareAll at done
      split at done
      · cases done
      · rename_i room
        split at done
        · cases done
        · exact List.forall_mem_cons.mpr ⟨Nat.le_of_not_lt room, ih done⟩

variable [Machine C]

/-- What one activation at boot does. -/
theorem activateIn_eq (done : activateIn sched id = .ok activated) :
    (sched.slot id).activate Machine.prime = .ok (sched.slot id).started ∧
      activated = sched.modify id Task.started := by
  unfold activateIn at done
  by_cases free : (sched.slot id).state = .free
  · rw [Scheduler.findTask, if_pos free] at done
    cases done
  · rw [Scheduler.findTask, if_neg free] at done
    simp only [bind, Except.bind] at done
    cases fresh : (sched.slot id).activate Machine.prime with
    | error reason =>
        rw [fresh] at done
        cases done
    | ok task =>
        have started : (sched.slot id).started = task := by rw [Task.started, fresh]
        rw [fresh] at done
        cases done
        exact ⟨by rw [started], by rw [← started]; rfl⟩

/-- Each listed task is activated, and no other task changes. -/
theorem slot_activateAll {ids : List TaskId} (nodup : ids.Nodup)
    (done : ids.foldlM activateIn sched = .ok activated) (id : TaskId) :
    (activated.slot id = if id ∈ ids then (sched.slot id).started else sched.slot id) ∧
      (id ∈ ids → (sched.slot id).activate Machine.prime = .ok (sched.slot id).started) := by
  induction ids generalizing sched with
  | nil =>
      cases done
      exact ⟨by simp, by simp⟩
  | cons first rest ih =>
      obtain ⟨apart, nodup⟩ := List.nodup_cons.mp nodup
      rw [List.foldlM_cons] at done
      cases one : activateIn sched first with
      | error reason =>
          rw [one] at done
          cases done
      | ok middle =>
          rw [one] at done
          obtain ⟨activates, rfl⟩ := activateIn_eq one
          obtain ⟨slot, ready⟩ := ih nodup done
          have inTable : first < maxTasks :=
            Scheduler.lt_of_state_ne_free
              (by rw [Task.suspended_of_activate activates]; decide :
                (sched.slot first).state ≠ .free)
          by_cases here : first = id
          · subst here
            rw [if_neg apart, Scheduler.slot_modify_self inTable] at slot
            exact ⟨by simp [slot], fun _ => activates⟩
          · rw [Scheduler.slot_modify_of_ne here] at slot ready
            have other : ¬ id = first := fun same => here same.symm
            simp only [List.mem_cons, other, false_or]
            exact ⟨slot, ready⟩

theorem cursors_activateAll {ids : List TaskId}
    (done : ids.foldlM activateIn sched = .ok activated) :
    activated.current = sched.current ∧ activated.selected = sched.selected := by
  induction ids generalizing sched with
  | nil =>
      cases done
      exact ⟨rfl, rfl⟩
  | cons first rest ih =>
      rw [List.foldlM_cons] at done
      cases one : activateIn sched first with
      | error reason =>
          rw [one] at done
          cases done
      | ok middle =>
          rw [one] at done
          obtain ⟨-, rfl⟩ := activateIn_eq one
          have cursors := ih done
          exact cursors

/-- A slot of a kernel that boots, before the first decision. -/
def bootTask (config : Configuration) (id : TaskId) : Task C :=
  match config.tasks[id]? with
  | none => .vacant id
  | some spec =>
      if id ∈ autostarted config.tasks then ((Task.vacant id).declare spec).started
      else (Task.vacant id).declare spec

omit [Machine C] in
theorem slot_default (id : TaskId) : ({} : Scheduler C).slot id = .vacant id := by
  unfold Scheduler.slot
  by_cases inTable : id < maxTasks
  · simp [inTable]
  · rw [Vector.getElem?_eq_none (Nat.le_of_not_lt inTable)]
    rfl

omit [Machine C] in
theorem lt_of_mem_autostarted {tasks : List TaskSpec} (member : id ∈ autostarted tasks) :
    id < tasks.length := List.mem_range.mp (List.mem_filter.mp member).1

omit [Machine C] in
/-- What succeeds has succeeded step by step. -/
theorem bind_eq_ok {α β : Type} {first : Except Refusal α} {next : α → Except Refusal β} {b : β}
    (done : (first >>= next) = .ok b) : ∃ a, first = .ok a ∧ next a = .ok b := by
  cases first with
  | error reason => cases done
  | ok a => exact ⟨a, rfl, done⟩

/-- What a booted kernel consists of: the tasks that are declared and activated, decided for the
first time, and resources that nobody owns. -/
theorem boot_spec {config : Configuration} {console : Console} {kernel : Kernel C} {seen : Trace}
    (booted : boot config console = .ok (kernel, seen)) :
    ∃ core : Core C, kernel.core = core.decided ∧ kernel.line.pending = false ∧
      core.resources = (config.ceilings.map fun ceiling => ({ ceiling } : Resource)).toArray ∧
      core.sched.current = idleTask ∧ core.sched.selected = idleTask ∧
      (∀ id, core.sched.slot id = bootTask config id) ∧
      ∀ id ∈ autostarted config.tasks, ∃ spec, config.tasks[id]? = some spec ∧
        ((Task.vacant id).declare spec).activate Machine.prime =
          .ok ((Task.vacant id : Task C).declare spec).started := by
  unfold boot at booted
  obtain ⟨resources, table, booted⟩ := bind_eq_ok booted
  obtain ⟨alarms, -, booted⟩ := bind_eq_ok booted
  obtain ⟨declared, filled, booted⟩ := bind_eq_ok booted
  obtain ⟨activated, started, booted⟩ := bind_eq_ok booted
  cases booted
  have nodup : (autostarted config.tasks).Nodup := List.nodup_range.filter _
  have slotDeclared : ∀ id, declared.slot id =
      match config.tasks[id]? with
      | some spec => (Task.vacant id).declare spec
      | none => .vacant id := by
    intro id
    have slot := (slot_declareAll filled).2 id
    rw [Nat.zero_add, slot_default] at slot
    exact slot
  have cursorsDeclared := cursors_declareAll filled
  have cursorsActivated := cursors_activateAll started
  refine ⟨⟨activated, resources⟩, ?_, rfl, ?_, ?_, ?_, ?_, ?_⟩
  · rw [Core.decided]
    exact congrArg (fun sched => Core.mk sched resources)
      (congrArg Outcome.state (Scheduler.run_reschedule activated))
  · unfold resourceTable at table
    split at table
    · cases table
      rfl
    · cases table
  · exact cursorsActivated.1.trans cursorsDeclared.1
  · exact cursorsActivated.2.trans cursorsDeclared.2
  · intro id
    rw [(slot_activateAll nodup started id).1, slotDeclared, bootTask]
    cases found : config.tasks[id]? with
    | some spec => rfl
    | none =>
        rw [if_neg]
        intro member
        rw [List.getElem?_eq_getElem (lt_of_mem_autostarted member)] at found
        cases found
  · intro id member
    have spec := List.getElem?_eq_getElem (lt_of_mem_autostarted member)
    have ready := (slot_activateAll nodup started id).2 member
    rw [slotDeclared, spec] at ready
    exact ⟨_, spec, ready⟩

/-- A kernel boots only if the stacks of all its tasks have room to run. -/
theorem roomy_of_boot {config : Configuration} {console : Console} {kernel : Kernel C}
    {seen : Trace} (booted : boot config console = .ok (kernel, seen)) :
    ∀ spec ∈ config.tasks, minStackWords ≤ spec.image.stack.size := by
  unfold boot at booted
  obtain ⟨_, -, booted⟩ := bind_eq_ok booted
  obtain ⟨_, -, booted⟩ := bind_eq_ok booted
  obtain ⟨_, filled, -⟩ := bind_eq_ok booted
  exact roomy_of_declareAll filled

/-! ### Soundness -/

/-- What is known of a slot before the first decision, whatever the configuration. -/
theorem bootTask_spec {config : Configuration}
    (starts : ∀ id ∈ autostarted config.tasks, ∃ spec, config.tasks[id]? = some spec ∧
      ((Task.vacant id).declare spec).activate Machine.prime =
        .ok ((Task.vacant id : Task C).declare spec).started)
    (id : TaskId) :
    (bootTask config id : Task C).Fits id (fun _ => False) (fun _ => False) ∧
      (bootTask config id : Task C).state ≠ .running ∧
      ((bootTask config id : Task C).context = .dormant ∨
        ∃ handle, (bootTask config id : Task C).context = .primed handle) ∧
      (id ∈ autostarted config.tasks → (bootTask config id : Task C).state.isRunnable) := by
  have vacant : (Task.vacant id : Task C).Fits id (fun _ => False) (fun _ => False) :=
    Task.fits_vacant id (fun _ => not_false) (fun _ => not_false)
  unfold bootTask
  cases found : config.tasks[id]? with
  | none =>
      refine ⟨vacant, nofun, .inl rfl, ?_⟩
      intro member
      rw [List.getElem?_eq_getElem (lt_of_mem_autostarted member)] at found
      cases found
  | some spec =>
      have declared := vacant.declare (fun _ => not_false) (fun _ => not_false) spec
      dsimp only
      by_cases member : id ∈ autostarted config.tasks
      · rw [if_pos member]
        obtain ⟨same, foundSame, activated⟩ := starts id member
        rw [found] at foundSame
        cases foundSame
        refine ⟨declared.activate activated, nofun, .inr ⟨_, rfl⟩, fun _ => rfl⟩
      · rw [if_neg member]
        exact ⟨declared, nofun, .inl rfl, fun autostart => absurd autostart member⟩

/-- In a kernel that has booted nobody owns a resource or queues for one. -/
theorem boot_unowned {config : Configuration} {console : Console} {kernel : Kernel C} {seen : Trace}
    (booted : boot config console = .ok (kernel, seen)) : kernel.core.Unowned := by
  intro id resource found
  obtain ⟨core, decided, -, resources, -⟩ := boot_spec booted
  rw [decided, Core.resources_decided, resources, List.getElem?_toArray, List.getElem?_map] at found
  obtain ⟨ceiling, -, rfl⟩ := Option.map_eq_some_iff.mp found
  exact ⟨rfl, rfl⟩

/-- The scheduler before the first decision: no task is running, and none has live or saved
registers. -/
theorem steady_of_bootTask {config : Configuration} {sched : Scheduler C} (built : config.Built)
    (starts : ∀ id ∈ autostarted config.tasks, ∃ spec, config.tasks[id]? = some spec ∧
      ((Task.vacant id).declare spec).activate Machine.prime =
        .ok ((Task.vacant id : Task C).declare spec).started)
    (slot : ∀ id, sched.slot id = bootTask config id) : sched.Steady := by
  have untouched : ∀ id, (sched.slot id).context = .dormant ∨
      ∃ handle, (sched.slot id).context = .primed handle := by
    intro id
    rw [slot]
    exact (bootTask_spec starts id).2.2.1
  refine ⟨?idle, ?marked, ?onCpu, ?saved⟩
  case idle =>
    rw [slot]
    refine (bootTask_spec starts idleTask).2.2.2 ?_
    have some_task : 0 < config.tasks.length := List.length_pos_iff.mpr built.valid.idle
    exact List.mem_filter.mpr ⟨List.mem_range.mpr some_task, rfl⟩
  case marked =>
    intro id running
    rw [slot] at running
    exact absurd running (bootTask_spec starts id).2.1
  case onCpu =>
    intro id onCpu
    rcases untouched id with dormant | ⟨handle, primed⟩
    · rw [dormant] at onCpu
      cases onCpu
    · rw [primed] at onCpu
      cases onCpu
  case saved =>
    intro id kept saved
    rcases untouched id with dormant | ⟨handle, primed⟩
    · rw [dormant] at saved
      cases saved
    · rw [primed] at saved
      cases saved

/-- Before the first decision tasks and resources are consistent. -/
theorem boot_consistent {config : Configuration} {console : Console} {kernel : Kernel C}
    {seen : Trace} (built : config.Built) (booted : boot config console = .ok (kernel, seen)) :
    ∃ core : Core C, kernel.core = core.decided ∧ core.Consistent ∧
      ∀ id, core.sched.slot id = bootTask config id := by
  obtain ⟨core, decided, -, -, -, -, slot, starts⟩ := boot_spec booted
  have unowned : core.Unowned := by
    have after := boot_unowned booted
    rw [decided] at after
    exact after
  refine ⟨core, decided, ⟨?_, unowned.queuesSound, steady_of_bootTask built starts slot⟩, slot⟩
  intro id
  have noneHeld : core.HoldsAt id = fun _ => False :=
    funext fun level => eq_false (unowned.not_holdsAt id level)
  have noneQueued : core.QueuesAt id = fun _ => False :=
    funext fun level => eq_false (unowned.not_queuesAt id level)
  rw [noneHeld, noneQueued, slot]
  exact (bootTask_spec starts id).1

/-- A kernel boots into a sound state. -/
theorem boot_sound {config : Configuration} {console : Console} {kernel : Kernel C} {seen : Trace}
    (built : config.Built) (booted : boot config console = .ok (kernel, seen)) :
    kernel.core.Sound := by
  obtain ⟨core, decided, consistent, -⟩ := boot_consistent built booted
  rw [decided]
  exact consistent.decided

/-- The first decision leaves registers where they are: tasks that start with the kernel are primed
to start from the top of their stacks, and others have none. -/
theorem boot_context {config : Configuration} {console : Console} {kernel : Kernel C} {seen : Trace}
    (built : config.Built) (booted : boot config console = .ok (kernel, seen)) (id : TaskId) :
    (kernel.core.sched.slot id).context = .dormant ∨
      ∃ spec, config.tasks[id]? = some spec ∧ id ∈ autostarted config.tasks ∧
        (kernel.core.sched.slot id).context = .primed spec.image.freshHandle := by
  obtain ⟨core, decided, consistent, slot⟩ := boot_consistent built booted
  obtain ⟨state, same, -⟩ := consistent.slot_decided id
  rw [decided, same, slot]
  unfold bootTask
  cases found : config.tasks[id]? with
  | none => exact .inl rfl
  | some spec =>
      dsimp only
      by_cases member : id ∈ autostarted config.tasks
      · rw [if_pos member]
        exact .inr ⟨spec, rfl, member, rfl⟩
      · rw [if_neg member]
        exact .inl rfl

end Kernel

end Rtos
