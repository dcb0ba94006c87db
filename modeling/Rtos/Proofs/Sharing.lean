/-
Module: Rtos.Proofs.Sharing
Purpose: Resources change hands: they are taken, queued for, and passed on to the longest waiting
  task.  Each of these leaves a consistent core behind, and what the operations of the kernel do is
  exactly this.
Main definitions: Core.take, Core.queue, Core.pass, Core.passOwned
Main statements: `Core.run_acquire`, `Core.run_release`, `Core.run_releaseOwned`,
  `Core.Consistent.take`, `Core.Consistent.queue`, `Core.Consistent.pass`
-/
import Rtos.Proofs.Consistency

namespace Rtos

/-- The resource with its first waiter as owner, or with none. -/
def Resource.pass (resource : Resource) : Resource :=
  { resource with owner := resource.waiters.head?, waiters := resource.waiters.tail }

/-- The task has neither been started nor ended, though what it waited for may have come. -/
structure Task.SameLife {C : Type} (before after : Task C) : Prop where
  context : after.context = before.context
  image : after.image = before.image
  basePriority : after.basePriority = before.basePriority
  state : after.state = before.state ∨ before.state = .waiting ∧ after.state = .ready

namespace Task.SameLife

variable {C : Type} {first second third : Task C}

theorem refl (task : Task C) : task.SameLife task := ⟨rfl, rfl, rfl, .inl rfl⟩

theorem trans (early : first.SameLife second) (late : second.SameLife third) :
    first.SameLife third where
  context := late.context.trans early.context
  image := late.image.trans early.image
  basePriority := late.basePriority.trans early.basePriority
  state := by
    rcases late.state with same | ⟨waiting, ready⟩
    · rw [same]
      exact early.state
    · rcases early.state with same | ⟨-, other⟩
      · exact .inr ⟨same.symm.trans waiting, ready⟩
      · rw [waiting] at other
        cases other

/-- A task that did not wait is as it was. -/
theorem state_eq (same : first.SameLife second) (moving : first.state ≠ .waiting) :
    second.state = first.state :=
  same.state.resolve_right fun came => moving came.1

/-- A task goes on to exist. -/
theorem ne_free (same : first.SameLife second) (declared : first.state ≠ .free) :
    second.state ≠ .free := by
  rcases same.state with kept | ⟨-, woken⟩
  · rw [kept]
    exact declared
  · rw [woken]
    decide

end Task.SameLife

namespace Core

variable {C : Type} {core : Core C} {id other : ResourceId} {resource : Resource}
  {task next giver : TaskId} {ceiling : Priority}

/-! ### The three ways in which a resource changes -/

/-- A task becomes the owner of a resource. -/
def take (id : ResourceId) (ceiling : Priority) (task : TaskId) (core : Core C) : Core C :=
  (core.modifyResource id fun resource => { resource with owner := some task }).modifyTask task
    fun tcb => { tcb with priority := min tcb.priority ceiling }

/-- A task joins the queue of a resource. -/
def queue (id : ResourceId) (task : TaskId) (core : Core C) : Core C :=
  (core.modifyResource id fun resource =>
    { resource with waiters := resource.waiters ++ [task] }).modifyTask task
    fun tcb => { tcb with state := .waiting }

/-- Nobody owns a resource for the moment, and its first waiter is about to. -/
def free (id : ResourceId) (core : Core C) : Core C :=
  core.modifyResource id fun resource =>
    { resource with owner := none, waiters := resource.waiters.tail }

/-- The owner of a resource gives it up, and the longest waiting task receives it. -/
def pass (id : ResourceId) (giver : TaskId) (core : Core C) : Core C :=
  match core.resources[id]? with
  | none => core
  | some resource =>
      let lowered := (core.free id).modifyTask giver fun tcb =>
        { tcb with priority := (core.free id).effectivePriority giver }
      match resource.waiters with
      | [] => lowered
      | next :: _ =>
          (lowered.take id resource.ceiling next).modifyTask next fun tcb =>
            { tcb with state := .ready }

/-- A task passes on those of the listed resources that it owns. -/
def passOwned (task : TaskId) : List ResourceId → Core C → Core C
  | [], core => core
  | id :: rest, core =>
      if core.owns task id then passOwned task rest (core.pass id task)
      else passOwned task rest core

/-! ### What the operations do -/

theorem findTask_eq (declared : (core.sched.slot task).state ≠ .free) :
    core.sched.findTask task = .ok (core.sched.slot task) := if_neg declared

/-- A resource is granted to any declared task. -/
theorem run_grant (declared : (core.sched.slot task).state ≠ .free) :
    (grant id ceiling task).run core =
      ⟨.ok (), core.take id ceiling task,
        [.logged (.granted task ((core.take id ceiling task).sched.slot task).priority)]⟩ := by
  unfold grant
  rw [Action.run_get_bind, findTask_eq declared]
  rfl

/-- How a request for a resource ends, whatever the state. -/
theorem run_acquire (id : ResourceId) (declared : (core.sched.slot task).state ≠ .free) :
    (acquire id task).run core =
      match core.resources[id]? with
      | none => ⟨.error .unknownId, core, []⟩
      | some resource =>
          if resource.owner = some task ∨
              (core.sched.slot task).basePriority < resource.ceiling then
            ⟨.error .notPermitted, core, []⟩
          else if resource.owner = none then
            let taken := core.take id resource.ceiling task
            ⟨.ok .granted, taken, [.logged (.granted task (taken.sched.slot task).priority)]⟩
          else if task = idleTask then ⟨.error .notPermitted, core, []⟩
          else if maxTasks ≤ resource.waiters.length then ⟨.error .exhausted, core, []⟩
          else ⟨.ok .blocked, core.queue id task, [.logged (.blocked task id)]⟩ := by
  unfold acquire
  rw [Action.run_get_bind]
  cases core.resources[id]? with
  | none => rfl
  | some resource =>
      rw [Action.run_some_bind, findTask_eq declared, Action.run_ok_bind]
      dsimp only
      split
      · rfl
      · split
        · rw [Action.run_bind_of_ok (run_grant declared)]
          rfl
        · split
          · rfl
          · split <;> rfl

theorem pass_of_found (found : core.resources[id]? = some resource) :
    core.pass id giver =
      let lowered := (core.free id).modifyTask giver fun tcb =>
        { tcb with priority := (core.free id).effectivePriority giver }
      match resource.waiters with
      | [] => lowered
      | next :: _ =>
          (lowered.take id resource.ceiling next).modifyTask next fun tcb =>
            { tcb with state := .ready } := by
  unfold pass
  rw [found]

/-- A change that keeps the state of a task keeps it declared. -/
theorem state_modifyTask {f : Task C → Task C} (same : ∀ tcb, (f tcb).state = tcb.state)
    (core : Core C) (id other : TaskId) :
    ((core.modifyTask id f).sched.slot other).state = (core.sched.slot other).state := by
  rw [slot_modifyTask]
  split
  · exact same _
  · rfl

/-- An owner passes its resource on, and nothing is activated by that. -/
theorem run_release (found : core.resources[id]? = some resource)
    (owner : resource.owner = some giver)
    (giverDeclared : (core.sched.slot giver).state ≠ .free)
    (nextDeclared : ∀ next ∈ resource.waiters, (core.sched.slot next).state ≠ .free) :
    ∃ seen, activations seen = [] ∧
      (release id giver).run core = ⟨.ok resource.waiters.head?, core.pass id giver, seen⟩ := by
  unfold release
  rw [Action.run_get_bind, found, Action.run_some_bind, owner, if_neg (not_not_intro rfl),
    Action.run_modify_bind, Action.run_get_bind, findTask_eq (by exact giverDeclared),
    Action.run_ok_bind, Action.run_modify_bind, pass_of_found found]
  cases waiters : resource.waiters with
  | nil => exact ⟨[], rfl, rfl⟩
  | cons next rest =>
      dsimp only
      rw [Action.run_bind_of_ok (run_grant ?declared)]
      case declared =>
        rw [state_modifyTask]
        · exact nextDeclared next (by rw [waiters]; exact List.mem_cons_self)
        · intro tcb
          rfl
      exact ⟨_, rfl, rfl⟩

/-- Nobody but the owner can pass a resource on. -/
theorem run_release_of_ne (differ : ∀ resource, core.resources[id]? = some resource →
    resource.owner ≠ some task) :
    ∃ reason, (release id task).run core = ⟨.error reason, core, []⟩ := by
  unfold release
  rw [Action.run_get_bind]
  cases found : core.resources[id]? with
  | none => exact ⟨.unknownId, rfl⟩
  | some resource =>
      rw [Action.run_some_bind, if_pos (differ resource found)]
      exact ⟨.notOwner, rfl⟩

/-! ### The tables after a change -/

@[simp] theorem resources_free (core : Core C) (id : ResourceId) :
    (core.free id).resources = core.resources.modify id fun resource =>
      { resource with owner := none, waiters := resource.waiters.tail } := rfl

@[simp] theorem resources_take (core : Core C) (id : ResourceId) (ceiling : Priority)
    (task : TaskId) :
    (core.take id ceiling task).resources =
      core.resources.modify id fun resource => { resource with owner := some task } := rfl

theorem slot_take {task : TaskId} (inTable : task < maxTasks) (other : TaskId) :
    (core.take id ceiling task).sched.slot other =
      if task = other then
        { core.sched.slot other with priority := min (core.sched.slot other).priority ceiling }
      else core.sched.slot other := by
  simp [take, slot_modifyTask, inTable]

theorem slot_queue {task : TaskId} (inTable : task < maxTasks) (other : TaskId) :
    (core.queue id task).sched.slot other =
      if task = other then { core.sched.slot other with state := .waiting }
      else core.sched.slot other := by
  simp [queue, slot_modifyTask, inTable]

/-- Two changes of one resource are one change. -/
theorem modify_modify (resources : Array Resource) (f g : Resource → Resource) :
    (resources.modify id f).modify id g = resources.modify id fun resource => g (f resource) := by
  apply Array.ext_getElem?
  intro other
  simp only [Array.getElem?_modify]
  by_cases same : id = other
  · rw [if_pos same, if_pos same, if_pos same, Option.map_map]
    rfl
  · rw [if_neg same, if_neg same, if_neg same]

/-- What a change does matters only where it is made. -/
theorem modify_congr {resources : Array Resource} {f g : Resource → Resource}
    (same : ∀ resource, resources[id]? = some resource → f resource = g resource) :
    resources.modify id f = resources.modify id g := by
  apply Array.ext_getElem?
  intro other
  rw [Array.getElem?_modify, Array.getElem?_modify]
  by_cases here : id = other
  · rw [if_pos here, if_pos here, ← here]
    cases found : resources[id]? with
    | none => rfl
    | some resource => simp [same resource found]
  · rw [if_neg here, if_neg here]

theorem resources_pass (found : core.resources[id]? = some resource) :
    (core.pass id giver).resources = core.resources.modify id Resource.pass := by
  have only : ∀ other, core.resources[id]? = some other → other = resource := by
    intro other foundOther
    rw [found] at foundOther
    exact (Option.some.inj foundOther).symm
  rw [pass_of_found found]
  cases waiters : resource.waiters with
  | nil =>
      dsimp only
      rw [resources_modifyTask, resources_free]
      apply modify_congr
      intro other foundOther
      rw [only other foundOther, Resource.pass, waiters]
      rfl
  | cons next rest =>
      dsimp only
      rw [resources_modifyTask, resources_take, resources_modifyTask, resources_free]
      refine (modify_modify core.resources _ _).trans (modify_congr ?_)
      intro other foundOther
      rw [only other foundOther, Resource.pass, waiters]
      rfl

/-- What passing a resource on does to each task. -/
theorem slot_pass (found : core.resources[id]? = some resource)
    (giverInTable : giver < maxTasks) (nextInTable : ∀ next ∈ resource.waiters, next < maxTasks)
    (apart : giver ∉ resource.waiters) (task : TaskId) :
    (core.pass id giver).sched.slot task =
      if giver = task then
        { core.sched.slot task with priority := (core.free id).effectivePriority giver }
      else if resource.waiters.head? = some task then
        { core.sched.slot task with
          priority := min (core.sched.slot task).priority resource.ceiling, state := .ready }
      else core.sched.slot task := by
  have lowered : ∀ other, ((core.free id).modifyTask giver fun tcb =>
      { tcb with priority := (core.free id).effectivePriority giver }).sched.slot other =
      if giver = other then
        { core.sched.slot other with priority := (core.free id).effectivePriority giver }
      else core.sched.slot other := by
    intro other
    rw [slot_modifyTask]
    simp [free, giverInTable]
  rw [pass_of_found found]
  cases waiters : resource.waiters with
  | nil =>
      rw [List.head?_nil]
      dsimp only
      rw [lowered]
      simp
  | cons next rest =>
      have inTable : next < maxTasks := nextInTable next (by rw [waiters]; exact List.mem_cons_self)
      have differ : giver ≠ next := by
        rintro rfl
        exact apart (by rw [waiters]; exact List.mem_cons_self)
      rw [List.head?_cons]
      dsimp only
      rw [slot_modifyTask, slot_take inTable, lowered]
      by_cases giving : giver = task
      · have other : next ≠ task := by
          rw [← giving]
          exact fun same => differ same.symm
        simp [giving, other]
      · by_cases receiving : next = task
        · subst receiving
          simp [giving, inTable]
        · simp [giving, receiving]

/-- Who owns what after a resource has been passed on. -/
theorem any_pass (found : core.resources[id]? = some resource) {property : Resource → Prop} :
    (core.pass id giver).Any property ↔ property resource.pass ∨ core.AnyBut id property := by
  have same : (core.pass id giver).resources = (core.modifyResource id Resource.pass).resources :=
    resources_pass found
  rw [any_congr same, any_modifyResource found]

/-! ### Consistency -/

/-- An active task has its slot in the table. -/
theorem lt_of_holdsAt (consistent : core.Consistent) (holds : core.HoldsAt task ceiling) :
    task < maxTasks :=
  Scheduler.lt_of_isActive ((consistent.fits task).owner ceiling holds).1

theorem holdsAt_of_found (found : core.resources[id]? = some resource)
    (owner : resource.owner = some task) : core.HoldsAt task resource.ceiling :=
  ⟨id, resource, found, owner, rfl⟩

theorem queuesAt_of_found (found : core.resources[id]? = some resource)
    (waits : task ∈ resource.waiters) : core.QueuesAt task resource.ceiling :=
  ⟨id, resource, found, waits, rfl⟩

/-- A waiting task is in the table, and not on the CPU. -/
theorem Consistent.waiting (consistent : core.Consistent)
    (found : core.resources[id]? = some resource) (waits : task ∈ resource.waiters) :
    (core.sched.slot task).state = .waiting :=
  ((consistent.fits task).waiter _ (queuesAt_of_found found waits)).1

/-- A runnable task takes a free resource that it is entitled to. -/
theorem Consistent.take (consistent : core.Consistent)
    (found : core.resources[id]? = some resource) (free : resource.owner = none)
    (runnable : (core.sched.slot task).state.isRunnable)
    (entitled : resource.ceiling ≤ (core.sched.slot task).basePriority) :
    (core.take id resource.ceiling task).Consistent := by
  have inTable := Scheduler.lt_of_isRunnable runnable
  have noWaiters := (consistent.queues.orderly id resource found).owned free
  have any : ∀ property, (core.take id resource.ceiling task).Any property ↔
      property { resource with owner := some task } ∨ core.AnyBut id property :=
    fun _ => any_modifyResource found
  refine { fits := ?fits, queues := ?queues, steady := ?steady }
  case fits =>
    intro other
    have queued : ∀ level, (core.take id resource.ceiling task).QueuesAt other level ↔
        core.QueuesAt other level := by
      intro level
      rw [QueuesAt, QueuesAt, any, any_iff found]
    rw [slot_take inTable]
    by_cases taking : task = other
    · subst taking
      rw [if_pos rfl]
      refine ((consistent.fits task).take runnable entitled ?_).congr (fun _ => .rfl) queued
      intro level
      rw [HoldsAt, HoldsAt, any, any_iff found, free]
      simp [or_comm, eq_comm]
    · rw [if_neg taking]
      refine (consistent.fits other).congr ?_ queued
      intro level
      rw [HoldsAt, HoldsAt, any, any_iff found, free]
      simp [taking]
  case queues =>
    have orderly : Resource.Orderly { resource with owner := some task } := by
      refine ⟨?_, ?_, ?_⟩ <;> simp [noWaiters]
    have queues : (core.modifyResource id fun resource =>
        { resource with owner := some task }).QueuesSound :=
      consistent.queues.modifyResource found orderly fun _ waits => .inl waits
    exact queues.congr rfl
  case steady =>
    refine consistent.steady.of_keepsMarks rfl rfl ?_ ?_
    · rw [slot_take inTable]
      split
      · exact consistent.steady.idle
      · exact consistent.steady.idle
    · intro other
      rw [slot_take inTable]
      split
      · exact Task.keepsMarks_of_same rfl rfl
      · exact Scheduler.keepsMarks_refl _

/-- The queue of a resource that another task owns is in order when a task joins it. -/
theorem orderly_queue (orderly : resource.Orderly) (owned : resource.owner ≠ none)
    (apart : resource.owner ≠ some task) (outside : task ∉ resource.waiters) :
    Resource.Orderly { resource with waiters := resource.waiters ++ [task] } := by
  refine ⟨fun nobody => absurd nobody owned, ?_, ?_⟩
  · intro owner isOwner waits
    rcases List.mem_append.mp waits with old | new
    · exact orderly.apart owner isOwner old
    · rw [List.mem_singleton.mp new] at isOwner
      exact apart isOwner
  · refine List.nodup_append.mpr ⟨orderly.nodup, by simp, ?_⟩
    intro other waits last member
    rw [List.mem_singleton.mp member]
    rintro rfl
    exact outside waits

/-- A runnable task queues for a resource that another one owns. -/
theorem Consistent.queue (consistent : core.Consistent)
    (found : core.resources[id]? = some resource) (owned : resource.owner ≠ none)
    (apart : resource.owner ≠ some task) (notIdle : task ≠ idleTask)
    (runnable : (core.sched.slot task).state.isRunnable)
    (entitled : resource.ceiling ≤ (core.sched.slot task).basePriority) :
    (core.queue id task).Consistent := by
  have inTable := Scheduler.lt_of_isRunnable runnable
  have orderly := consistent.queues.orderly id resource found
  have nowhere := (consistent.fits task).not_queued (TaskState.ne_waiting_of_isRunnable runnable)
  have outside : task ∉ resource.waiters := fun waits =>
    nowhere resource.ceiling (queuesAt_of_found found waits)
  have any : ∀ property, (core.queue id task).Any property ↔
      property { resource with waiters := resource.waiters ++ [task] } ∨ core.AnyBut id property :=
    fun _ => any_modifyResource found
  refine { fits := ?fits, queues := ?queues, steady := ?steady }
  case fits =>
    intro other
    have held : ∀ level, (core.queue id task).HoldsAt other level ↔ core.HoldsAt other level := by
      intro level
      rw [HoldsAt, HoldsAt, any, any_iff found]
    rw [slot_queue inTable]
    by_cases joining : task = other
    · subst joining
      rw [if_pos rfl]
      refine ((consistent.fits task).queue runnable entitled ?_).congr held (fun _ => .rfl)
      intro level
      rw [QueuesAt, QueuesAt, any, any_iff found]
      simp [outside, or_comm, eq_comm]
    · rw [if_neg joining]
      have differ : other ≠ task := fun same => joining same.symm
      refine (consistent.fits other).congr held ?_
      intro level
      rw [QueuesAt, QueuesAt, any, any_iff found]
      simp [differ]
  case queues =>
    have queues : (core.modifyResource id fun resource =>
        { resource with waiters := resource.waiters ++ [task] }).QueuesSound := by
      refine consistent.queues.modifyResource found (orderly_queue orderly owned apart outside) ?_
      intro other waits
      rcases List.mem_append.mp waits with old | new
      · exact .inl old
      · rw [List.mem_singleton.mp new]
        exact .inr nowhere
    exact queues.congr rfl
  case steady =>
    refine consistent.steady.of_keepsMarks rfl rfl ?_ ?_
    · rw [slot_queue inTable, if_neg notIdle]
      exact consistent.steady.idle
    · intro other
      rw [slot_queue inTable]
      split
      · exact Task.keepsMarks_of_state .waiting rfl (by decide) rfl
      · exact Scheduler.keepsMarks_refl _

/-- A resource in the hands of its longest waiting task is in order. -/
theorem orderly_pass (orderly : resource.Orderly) : resource.pass.Orderly := by
  obtain ⟨-, -, nodup⟩ := orderly
  unfold Resource.pass
  cases waiters : resource.waiters with
  | nil => exact ⟨fun _ => rfl, fun _ _ => List.not_mem_nil, List.nodup_nil⟩
  | cons next rest =>
      rw [waiters, List.nodup_cons] at nodup
      refine ⟨nofun, ?_, nodup.2⟩
      intro task isOwner
      cases isOwner
      exact nodup.1

/-- The longest waiting task is in no queue any more. -/
theorem not_queuesAt_pass (consistent : core.Consistent)
    (found : core.resources[id]? = some resource) (head : resource.waiters.head? = some next) :
    ∀ level, ¬ (core.pass id giver).QueuesAt next level := by
  have waits : next ∈ resource.waiters := List.mem_of_mem_head? head
  intro level queues
  rcases (any_pass found).mp queues with ⟨later, -⟩ | ⟨other, here, differ, foundHere, waitsHere, -⟩
  · have nodup := (consistent.queues.orderly id resource found).nodup
    cases waiters : resource.waiters with
    | nil =>
        rw [waiters] at waits
        cases waits
    | cons first rest =>
        rw [waiters] at head nodup
        cases head
        rw [Resource.pass, waiters] at later
        exact (List.nodup_cons.mp nodup).1 later
  · have unique := consistent.queues.unique next id other resource here found foundHere
    exact differ (unique waits waitsHere)

/-- Whoever is not first in the queue stays in it. -/
theorem queuesAt_pass_iff (found : core.resources[id]? = some resource)
    (notHead : resource.waiters.head? ≠ some task) (level : Priority) :
    (core.pass id giver).QueuesAt task level ↔ core.QueuesAt task level := by
  have tail : task ∈ resource.waiters.tail ↔ task ∈ resource.waiters := by
    cases waiters : resource.waiters with
    | nil => rfl
    | cons first rest =>
        have differ : task ≠ first := by
          rintro rfl
          rw [waiters] at notHead
          exact notHead rfl
        simp [differ]
  rw [QueuesAt, QueuesAt, any_pass found, any_iff found, Resource.pass, tail]

/-- Nothing changes in the hands of the tasks that neither give nor receive. -/
theorem holdsAt_pass_iff (found : core.resources[id]? = some resource)
    (owner : resource.owner = some giver) (notHead : resource.waiters.head? ≠ some task)
    (notGiver : giver ≠ task) (level : Priority) :
    (core.pass id giver).HoldsAt task level ↔ core.HoldsAt task level := by
  rw [HoldsAt, HoldsAt, any_pass found, any_iff found, Resource.pass, owner]
  simp [notHead, notGiver]

/-- What the giver keeps is what it owns besides. -/
theorem holdsAt_pass_giver (found : core.resources[id]? = some resource)
    (notHead : resource.waiters.head? ≠ some giver) (level : Priority) :
    (core.pass id giver).HoldsAt giver level ↔
      core.AnyBut id fun resource => resource.owner = some giver ∧ resource.ceiling = level := by
  rw [HoldsAt, any_pass found, Resource.pass]
  simp [notHead]

theorem holdsAt_free_giver (found : core.resources[id]? = some resource) (level : Priority) :
    (core.free id).HoldsAt giver level ↔
      core.AnyBut id fun resource => resource.owner = some giver ∧ resource.ceiling = level := by
  rw [HoldsAt, free, any_modifyResource found]
  simp

/-- The cursors of the scheduler are not concerned. -/
theorem cursors_pass (id : ResourceId) (giver : TaskId) (core : Core C) :
    (core.pass id giver).sched.current = core.sched.current ∧
      (core.pass id giver).sched.selected = core.sched.selected := by
  cases found : core.resources[id]? with
  | none =>
      rw [pass, found]
      exact ⟨rfl, rfl⟩
  | some resource =>
      rw [pass_of_found found]
      cases resource.waiters <;> exact ⟨rfl, rfl⟩

/-- What passing a resource on does to each task, when the tables agree. -/
theorem slot_pass_of_owner (consistent : core.Consistent)
    (found : core.resources[id]? = some resource) (owner : resource.owner = some giver)
    (task : TaskId) :
    (core.pass id giver).sched.slot task =
      if giver = task then
        { core.sched.slot task with priority := (core.free id).effectivePriority giver }
      else if resource.waiters.head? = some task then
        { core.sched.slot task with
          priority := min (core.sched.slot task).priority resource.ceiling, state := .ready }
      else core.sched.slot task := by
  have inTable := lt_of_holdsAt consistent (holdsAt_of_found found owner)
  refine slot_pass found inTable ?_
    ((consistent.queues.orderly id resource found).apart giver owner) task
  intro next waits
  refine Scheduler.lt_of_state_ne_free (?_ : (core.sched.slot next).state ≠ .free)
  rw [consistent.waiting found waits]
  decide

/-- An owner passes a resource on to the longest waiting task. -/
theorem Consistent.pass (consistent : core.Consistent)
    (found : core.resources[id]? = some resource) (owner : resource.owner = some giver) :
    (core.pass id giver).Consistent := by
  have orderly := consistent.queues.orderly id resource found
  have notHead : resource.waiters.head? ≠ some giver := fun head =>
    orderly.apart giver owner (List.mem_of_mem_head? head)
  have slot := slot_pass_of_owner consistent found owner
  have cursors := cursors_pass id giver core
  refine { fits := ?fits, queues := ?queues, steady := ?steady }
  case fits =>
    intro task
    rw [slot]
    have fits := consistent.fits task
    by_cases giving : giver = task
    · subst giving
      rw [if_pos rfl]
      have effective := isEffective_effectivePriority (core.free id) giver
      have heldEq : (core.free id).HoldsAt giver = (core.pass id giver).HoldsAt giver := by
        funext level
        rw [holdsAt_free_giver found, holdsAt_pass_giver found notHead]
      rw [heldEq] at effective
      refine (fits.giveUp ?_ effective).congr (fun _ => .rfl) (queuesAt_pass_iff found notHead)
      intro level holds
      exact (any_iff found).mpr (.inr ((holdsAt_pass_giver found notHead level).mp holds))
    · rw [if_neg giving]
      by_cases receiving : resource.waiters.head? = some task
      · rw [if_pos receiving]
        have waits : task ∈ resource.waiters := List.mem_of_mem_head? receiving
        refine fits.receive (queuesAt_of_found found waits) ?_
          (not_queuesAt_pass consistent found receiving)
        intro level
        rw [HoldsAt, HoldsAt, any_pass found, any_iff found, Resource.pass, owner]
        simp [receiving, giving, or_comm, eq_comm]
      · rw [if_neg receiving]
        exact fits.congr (holdsAt_pass_iff found owner receiving giving)
          (queuesAt_pass_iff found receiving)
  case queues =>
    have queues : (core.modifyResource id Resource.pass).QueuesSound :=
      consistent.queues.modifyResource found (orderly_pass orderly) fun _ later =>
        .inl (List.mem_of_mem_tail later)
    exact queues.congr (resources_pass found)
  case steady =>
    refine consistent.steady.of_keepsMarks cursors.1 cursors.2 ?_ ?_
    · rw [slot]
      split
      · exact consistent.steady.idle
      · split
        · rfl
        · exact consistent.steady.idle
    · intro task
      rw [slot]
      split
      · exact Task.keepsMarks_of_same rfl rfl
      · split
        · exact Task.keepsMarks_of_state .ready rfl (by decide) rfl
        · exact Scheduler.keepsMarks_refl _

/-! ### Passing on all that a task owns -/

theorem owns_iff :
    core.owns task id = true ↔
      ∃ resource, core.resources[id]? = some resource ∧ resource.owner = some task := by
  unfold owns
  cases core.resources[id]? with
  | none => simp
  | some resource => simp

/-- Passing a resource on neither starts a task nor ends one. -/
theorem sameLife_pass (consistent : core.Consistent)
    (found : core.resources[id]? = some resource) (owner : resource.owner = some giver)
    (task : TaskId) :
    (core.sched.slot task).SameLife ((core.pass id giver).sched.slot task) := by
  rw [slot_pass_of_owner consistent found owner]
  split
  · exact ⟨rfl, rfl, rfl, .inl rfl⟩
  · split
    · rename_i head
      have waiting := consistent.waiting found (List.mem_of_mem_head? head)
      exact ⟨rfl, rfl, rfl, .inr ⟨waiting, rfl⟩⟩
    · exact .refl _

/-- One by one, what a task owns is passed on. -/
theorem Consistent.passOwned (consistent : core.Consistent) (task : TaskId)
    (ids : List ResourceId) : (core.passOwned task ids).Consistent := by
  induction ids generalizing core with
  | nil => exact consistent
  | cons id rest ih =>
      unfold Core.passOwned
      split
      · rename_i owned
        obtain ⟨resource, found, owner⟩ := owns_iff.mp owned
        exact ih (consistent.pass found owner)
      · exact ih consistent

theorem sameLife_passOwned (consistent : core.Consistent) (giver task : TaskId)
    (ids : List ResourceId) :
    (core.sched.slot task).SameLife ((core.passOwned giver ids).sched.slot task) := by
  induction ids generalizing core with
  | nil => exact .refl _
  | cons id rest ih =>
      unfold Core.passOwned
      split
      · rename_i owned
        obtain ⟨resource, found, owner⟩ := owns_iff.mp owned
        exact (sameLife_pass consistent found owner task).trans (ih (consistent.pass found owner))
      · exact ih consistent

theorem cursors_passOwned (core : Core C) (giver : TaskId) (ids : List ResourceId) :
    (core.passOwned giver ids).sched.current = core.sched.current ∧
      (core.passOwned giver ids).sched.selected = core.sched.selected := by
  induction ids generalizing core with
  | nil => exact ⟨rfl, rfl⟩
  | cons id rest ih =>
      unfold Core.passOwned
      split
      · have next := ih (core.pass id giver)
        have first := cursors_pass id giver core
        exact ⟨next.1.trans first.1, next.2.trans first.2⟩
      · exact ih core

/-- A resource that changes hands goes to a task that waited for it. -/
theorem owner_pass (found : core.resources[id]? = some resource) {receiver : TaskId}
    {other : ResourceId} {here : Resource}
    (foundHere : (core.pass id giver).resources[other]? = some here)
    (owner : here.owner = some receiver) :
    (∃ old, core.resources[other]? = some old ∧ old.owner = some receiver ∧
        old.ceiling = here.ceiling ∧ id ≠ other) ∨
      (id = other ∧ receiver ∈ resource.waiters) := by
  have same : (core.pass id giver).resources = (core.modifyResource id Resource.pass).resources :=
    resources_pass found
  rw [same] at foundHere
  rcases found_modifyResource found foundHere with ⟨rfl, rfl⟩ | ⟨differ, old⟩
  · exact .inr ⟨rfl, List.mem_of_mem_head? owner⟩
  · exact .inl ⟨here, old, owner, rfl, differ⟩

/-- A task that waits for nothing, and goes through all that it owns, ends up with nothing. -/
theorem not_owns_passOwned (consistent : core.Consistent)
    (moving : (core.sched.slot giver).state ≠ .waiting) (ids : List ResourceId)
    (complete : ∀ id, core.owns giver id → id ∈ ids) (id : ResourceId) :
    ¬ (core.passOwned giver ids).owns giver id := by
  induction ids generalizing core with
  | nil => exact fun owned => List.not_mem_nil (complete id owned)
  | cons first rest ih =>
      unfold Core.passOwned
      split
      · rename_i owned
        obtain ⟨resource, found, owner⟩ := owns_iff.mp owned
        refine ih (consistent.pass found owner) ?_ ?_
        · rw [(sameLife_pass consistent found owner giver).state_eq moving]
          exact moving
        · intro other ownedAfter
          obtain ⟨here, foundHere, ownerHere⟩ := owns_iff.mp ownedAfter
          rcases owner_pass found foundHere ownerHere with
            ⟨old, foundOld, ownerOld, -, differ⟩ | ⟨-, waits⟩
          · have member := complete other (owns_iff.mpr ⟨old, foundOld, ownerOld⟩)
            exact (List.mem_cons.mp member).resolve_left fun same => differ same.symm
          · exact absurd (consistent.waiting found waits) moving
      · rename_i notOwned
        refine ih consistent moving ?_
        intro other owned
        refine (List.mem_cons.mp (complete other owned)).resolve_left ?_
        rintro rfl
        exact notOwned owned

/-- Owners are declared tasks. -/
theorem Consistent.ne_free_of_holdsAt (consistent : core.Consistent) {level : Priority}
    (holds : core.HoldsAt task level) : (core.sched.slot task).state ≠ .free :=
  TaskState.ne_free_of_isActive ((consistent.fits task).owner level holds).1

/-- When the tables agree, nothing keeps an owner from passing its resource on. -/
theorem Consistent.run_release (consistent : core.Consistent)
    (found : core.resources[id]? = some resource) (owner : resource.owner = some giver) :
    ∃ seen, activations seen = [] ∧
      (release id giver).run core = ⟨.ok resource.waiters.head?, core.pass id giver, seen⟩ := by
  have declared := consistent.ne_free_of_holdsAt (holdsAt_of_found found owner)
  refine Core.run_release found owner declared ?_
  intro next waits
  rw [consistent.waiting found waits]
  decide

/-- Releasing in turn what a task owns is passing it on; nothing is activated by that. -/
theorem run_releaseOwned (consistent : core.Consistent) (task : TaskId) (ids : List ResourceId) :
    ∃ seen, activations seen = [] ∧
      (releaseOwned task ids).run core = ⟨.ok (), core.passOwned task ids, seen⟩ := by
  induction ids generalizing core with
  | nil => exact ⟨[], rfl, rfl⟩
  | cons id rest ih =>
      unfold releaseOwned Core.passOwned
      rw [Action.run_get_bind]
      split
      · rename_i owned
        obtain ⟨resource, found, owner⟩ := owns_iff.mp owned
        obtain ⟨first, quiet, done⟩ := consistent.run_release found owner
        obtain ⟨later, quietLater, doneLater⟩ := ih (consistent.pass found owner)
        have attempted : (Action.attempt (release id task)).run core =
            ⟨.ok (.ok resource.waiters.head?), core.pass id task, first⟩ := by
          rw [Action.run_attempt, done]
        refine ⟨first ++ later, by rw [activations_append, quiet, quietLater]; rfl, ?_⟩
        refine (Action.run_bind_of_ok attempted _).trans ?_
        rw [doneLater]
      · obtain ⟨later, quiet, done⟩ := ih consistent
        exact ⟨later, quiet, done⟩

end Core

end Rtos
