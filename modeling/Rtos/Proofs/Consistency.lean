/-
Module: Rtos.Proofs.Consistency
Purpose: What the task table, the resource table and the two cursors of the scheduler have to say
  about each other.  A consistent core may await a decision; a sound one has been decided.
Main definitions: Core.HoldsAt, Core.QueuesAt, Scheduler.Steady, Core.Consistent, Core.Sound
Main statements: `Core.Consistent.modifyTask`, `Core.Consistent.decided`
-/
import Rtos.Proofs.Fits

namespace Rtos

/-! ### The resource table -/

/-- The owner of a resource and its queue. -/
structure Resource.Orderly (resource : Resource) : Prop where
  /-- Nobody queues for a resource that is free. -/
  owned : resource.owner = none → resource.waiters = []
  apart : ∀ task, resource.owner = some task → task ∉ resource.waiters
  nodup : resource.waiters.Nodup

namespace Core

variable {C : Type} {core : Core C} {id other : ResourceId} {resource : Resource} {task : TaskId}
  {property : Resource → Prop} {f : Resource → Resource}

theorem getElem?_modifyResource :
    (core.modifyResource id f).resources[other]? =
      if id = other then core.resources[other]?.map f else core.resources[other]? := by
  simp only [modifyResource, Array.getElem?_modify]

@[simp] theorem resources_modifyTask (core : Core C) (task : TaskId) (f : Task C → Task C) :
    (core.modifyTask task f).resources = core.resources := rfl

theorem slot_modifyTask (core : Core C) (task other : TaskId) (f : Task C → Task C) :
    (core.modifyTask task f).sched.slot other =
      if task = other ∧ task < maxTasks then f (core.sched.slot other)
      else core.sched.slot other := Scheduler.slot_modify core.sched task other f

@[simp] theorem sched_modifyResource : (core.modifyResource id f).sched = core.sched := rfl

/-- What is found after a change is the changed resource in its place, or another one as it was. -/
theorem found_modifyResource {here : Resource} (found : core.resources[id]? = some resource)
    (foundHere : (core.modifyResource id f).resources[other]? = some here) :
    (id = other ∧ here = f resource) ∨ (id ≠ other ∧ core.resources[other]? = some here) := by
  rw [getElem?_modifyResource] at foundHere
  by_cases same : id = other
  · subst same
    rw [if_pos rfl, found] at foundHere
    cases foundHere
    exact .inl ⟨rfl, rfl⟩
  · rw [if_neg same] at foundHere
    exact .inr ⟨same, foundHere⟩

/-- Some resource has the property. -/
def Any (core : Core C) (property : Resource → Prop) : Prop :=
  ∃ (id : ResourceId) (resource : Resource), core.resources[id]? = some resource ∧ property resource

/-- Some resource other than this one has the property. -/
def AnyBut (core : Core C) (id : ResourceId) (property : Resource → Prop) : Prop :=
  ∃ (other : ResourceId) (resource : Resource),
    id ≠ other ∧ core.resources[other]? = some resource ∧ property resource

/-- The resources decide alone. -/
theorem any_congr {after : Core C} (same : after.resources = core.resources) :
    after.Any property ↔ core.Any property := by
  unfold Any
  rw [same]

/-- Either one resource has the property or another has. -/
theorem any_iff (found : core.resources[id]? = some resource) :
    core.Any property ↔ property resource ∨ core.AnyBut id property := by
  constructor
  · rintro ⟨place, here, foundHere, has⟩
    by_cases same : id = place
    · subst same
      rw [found] at foundHere
      cases foundHere
      exact .inl has
    · exact .inr ⟨place, here, same, foundHere, has⟩
  · rintro (has | ⟨place, here, -, foundHere, has⟩)
    · exact ⟨id, resource, found, has⟩
    · exact ⟨place, here, foundHere, has⟩

/-- A change of one resource matters for a property only through that resource. -/
theorem any_modifyResource (found : core.resources[id]? = some resource) :
    (core.modifyResource id f).Any property ↔ property (f resource) ∨ core.AnyBut id property := by
  have changed : (core.modifyResource id f).resources[id]? = some (f resource) := by
    rw [getElem?_modifyResource, if_pos rfl, found, Option.map_some]
  rw [any_iff changed]
  refine or_congr_right ?_
  unfold AnyBut
  refine exists_congr fun place => exists_congr fun here => and_congr_right fun differ => ?_
  rw [getElem?_modifyResource, if_neg differ]

/-- The task owns a resource with this ceiling. -/
def HoldsAt (core : Core C) (task : TaskId) (ceiling : Priority) : Prop :=
  core.Any fun resource => resource.owner = some task ∧ resource.ceiling = ceiling

/-- The task queues for a resource with this ceiling. -/
def QueuesAt (core : Core C) (task : TaskId) (ceiling : Priority) : Prop :=
  core.Any fun resource => task ∈ resource.waiters ∧ resource.ceiling = ceiling

/-- The effective priority is the one that the held ceilings ask for. -/
theorem isEffective_effectivePriority (core : Core C) (task : TaskId) :
    IsEffective (core.HoldsAt task) (core.sched.slot task).basePriority
      (core.effectivePriority task) := by
  have least := IsEffective.foldl_min (core.heldCeilings task) (core.sched.slot task).basePriority
  have same : core.HoldsAt task = (· ∈ core.heldCeilings task) := by
    funext ceiling
    apply propext
    simp only [HoldsAt, Any, heldCeilings, List.mem_map, List.mem_filter, Array.mem_toList_iff,
      Array.mem_iff_getElem?, decide_eq_true_eq]
    constructor
    · rintro ⟨place, here, found, owner, level⟩
      exact ⟨here, ⟨⟨place, found⟩, owner⟩, level⟩
    · rintro ⟨here, ⟨⟨place, found⟩, owner⟩, level⟩
      exact ⟨place, here, found, owner, level⟩
  rw [same]
  exact least

/-- Every queue is in order, and a task is in one queue at most. -/
structure QueuesSound (core : Core C) : Prop where
  orderly : ∀ (id : ResourceId) (resource : Resource),
    core.resources[id]? = some resource → resource.Orderly
  unique : ∀ (task : TaskId) (id other : ResourceId) (first second : Resource),
    core.resources[id]? = some first → core.resources[other]? = some second →
    task ∈ first.waiters → task ∈ second.waiters → id = other

theorem QueuesSound.congr {after : Core C} (queues : core.QueuesSound)
    (same : after.resources = core.resources) : after.QueuesSound :=
  ⟨by rw [same]; exact queues.orderly, by rw [same]; exact queues.unique⟩

/-- A queue may lose tasks, and gain tasks that are in no other queue. -/
theorem QueuesSound.modifyResource (queues : core.QueuesSound)
    (found : core.resources[id]? = some resource) (orderly : (f resource).Orderly)
    (members : ∀ task ∈ (f resource).waiters,
      task ∈ resource.waiters ∨ ∀ ceiling, ¬ core.QueuesAt task ceiling) :
    (core.modifyResource id f).QueuesSound := by
  -- a member of the changed queue is in none of the unchanged ones
  have alone : ∀ (task : TaskId) (place : ResourceId) (here : Resource), id ≠ place →
      core.resources[place]? = some here → task ∈ (f resource).waiters → task ∉ here.waiters := by
    intro task place here differ foundHere joined member
    rcases members task joined with old | nowhere
    · exact differ (queues.unique task id place resource here found foundHere old member)
    · exact nowhere here.ceiling ⟨place, here, foundHere, member, rfl⟩
  constructor
  · intro place here foundHere
    rcases found_modifyResource found foundHere with ⟨-, rfl⟩ | ⟨-, old⟩
    · exact orderly
    · exact queues.orderly place here old
  · intro task first second left right foundLeft foundRight inLeft inRight
    rcases found_modifyResource found foundLeft with ⟨rfl, rfl⟩ | ⟨differLeft, oldLeft⟩
    · rcases found_modifyResource found foundRight with ⟨rfl, -⟩ | ⟨differRight, oldRight⟩
      · rfl
      · exact absurd inRight (alone task second right differRight oldRight inLeft)
    · rcases found_modifyResource found foundRight with ⟨rfl, rfl⟩ | ⟨-, oldRight⟩
      · exact absurd inLeft (alone task first left differLeft oldLeft inRight)
      · exact queues.unique task first second left right oldLeft oldRight inLeft inRight

end Core

/-! ### The scheduler -/

/-- The scheduler has the running marks and the registers that it moves to itself. -/
structure Task.KeepsMarks {C : Type} (before after : Task C) : Prop where
  running : after.state = .running → before.state = .running
  onCpu : after.context = .onCpu → before.context = .onCpu
  saved : ∀ handle, after.context = .saved handle → before.context = .saved handle

namespace Task

variable {C : Type} {before after : Task C}

/-- A task keeps its marks as long as its state and its context stay. -/
theorem keepsMarks_of_same (same : after.state = before.state)
    (context : after.context = before.context) : before.KeepsMarks after where
  running := fun running => same.symm.trans running
  onCpu := fun onCpu => context.symm.trans onCpu
  saved := fun _ saved => context.symm.trans saved

/-- A task may be put into any state but running. -/
theorem keepsMarks_of_state (state : TaskState) (put : after.state = state)
    (moving : state ≠ .running) (context : after.context = before.context) :
    before.KeepsMarks after where
  running := fun running => absurd (put.symm.trans running) moving
  onCpu := fun onCpu => context.symm.trans onCpu
  saved := fun _ saved => context.symm.trans saved

end Task

namespace Scheduler

variable {C : Type} {sched : Scheduler C} {id next : TaskId}

/-- What holds between two operations of the scheduler, whatever else happens to the tasks. -/
structure Steady (sched : Scheduler C) : Prop where
  /-- There is always a task to choose. -/
  idle : (sched.slot idleTask).state.isRunnable
  marked : sched.Marked
  onCpu : ∀ id, (sched.slot id).context = .onCpu → id = sched.current
  saved : ∀ id handle, (sched.slot id).context = .saved handle → id ≠ sched.current

/-- Tasks may change as long as they keep their marks and the idle task stays runnable. -/
theorem Steady.of_keepsMarks {after : Scheduler C} (steady : sched.Steady)
    (current : after.current = sched.current) (selected : after.selected = sched.selected)
    (idle : (after.slot idleTask).state.isRunnable)
    (keeps : ∀ id, (sched.slot id).KeepsMarks (after.slot id)) : after.Steady where
  idle := idle
  marked := by
    intro id running
    rw [current, selected]
    exact steady.marked id ((keeps id).running running)
  onCpu := by
    intro id onCpu
    rw [current]
    exact steady.onCpu id ((keeps id).onCpu onCpu)
  saved := by
    intro id handle saved
    rw [current]
    exact steady.saved id handle ((keeps id).saved handle saved)

theorem keepsMarks_refl (task : Task C) : task.KeepsMarks task :=
  Task.keepsMarks_of_same rfl rfl

/-- One task changes. -/
theorem Steady.modify {f : Task C → Task C} (steady : sched.Steady)
    (idle : id = idleTask → (f (sched.slot id)).state.isRunnable)
    (keeps : (sched.slot id).KeepsMarks (f (sched.slot id))) : (sched.modify id f).Steady := by
  refine steady.of_keepsMarks rfl rfl ?_ ?_
  · rw [slot_modify]
    split
    · rename_i here
      rw [← here.1]
      exact idle here.1
    · exact steady.idle
  · intro other
    rw [slot_modify]
    split
    · rename_i here
      rw [← here.1]
      exact keeps
    · exact keepsMarks_refl _

/-! ### After a decision -/

theorem priority_settle (inTable : next < maxTasks) :
    ((sched.settle next).slot id).priority = (sched.slot id).priority := by
  rw [settle_eq_with_state inTable]

theorem context_settle (inTable : next < maxTasks) :
    ((sched.settle next).slot id).context = (sched.slot id).context := by
  rw [settle_eq_with_state inTable]

theorem running_settle_iff (marked : sched.Marked) (inTable : next < maxTasks) :
    ((sched.settle next).slot id).state = .running ↔ id = (sched.settle next).selected := by
  rw [state_settle marked inTable, selected_settle]
  by_cases chosen : id = next
  · simp [chosen]
  · rw [if_neg chosen]
    split <;> simp_all

/-- A decision makes nobody runnable, and nobody stops being so. -/
theorem isRunnable_settle (marked : sched.Marked) (runnable : (sched.slot next).state.isRunnable) :
    ((sched.settle next).slot id).state.isRunnable = (sched.slot id).state.isRunnable := by
  rw [state_settle marked (lt_of_isRunnable runnable)]
  split
  · rename_i chosen
    rw [chosen, runnable]
    rfl
  · split
    · rename_i running
      rw [running]
      rfl
    · rfl

/-- A decision leaves a task alone that is not runnable. -/
theorem state_settle_of_blocked (marked : sched.Marked)
    (runnable : (sched.slot next).state.isRunnable)
    (blocked : ¬ (sched.slot id).state.isRunnable) :
    ((sched.settle next).slot id).state = (sched.slot id).state := by
  rw [state_settle marked (lt_of_isRunnable runnable), if_neg, if_neg]
  · intro running
    rw [running] at blocked
    exact blocked rfl
  · rintro rfl
    exact blocked runnable

/-- A decision changes no more of a task than its state, and no more of the state than the running
mark of a runnable task. -/
theorem slot_decided (ids : ∀ id, (sched.slot id).id = id) (marked : sched.Marked) (id : TaskId) :
    ∃ state, sched.decided.slot id = { sched.slot id with state } ∧
      (state = (sched.slot id).state ∨ state.isRunnable ∧ (sched.slot id).state.isRunnable) := by
  cases chosen : sched.decide with
  | none => exact ⟨_, by rw [decided, chosen], .inl rfl⟩
  | some next =>
      have runnable := (decide_spec ids chosen).1
      rw [decided_eq chosen]
      refine ⟨_, settle_eq_with_state (lt_of_isRunnable runnable) id, ?_⟩
      by_cases before : (sched.slot id).state.isRunnable
      · exact .inr ⟨(isRunnable_settle marked runnable).trans before, before⟩
      · exact .inl (state_settle_of_blocked marked runnable before)

theorem Steady.settle (steady : sched.Steady) (runnable : (sched.slot next).state.isRunnable) :
    (sched.settle next).Steady := by
  have inTable := lt_of_isRunnable runnable
  refine ⟨?_, ?_, ?_, ?_⟩
  · rw [isRunnable_settle steady.marked runnable]
    exact steady.idle
  · intro id running
    exact .inr ((running_settle_iff steady.marked inTable).mp running)
  · intro id onCpu
    rw [context_settle inTable] at onCpu
    rw [current_settle]
    exact steady.onCpu id onCpu
  · intro id handle saved
    rw [context_settle inTable] at saved
    rw [current_settle]
    exact steady.saved id handle saved

end Scheduler

/-! ### Consistency -/

namespace Core

variable {C : Type} {core : Core C} {id : TaskId}

/-- Tasks, resources and cursors agree, though the tasks may have changed since the last
decision. -/
structure Consistent (core : Core C) : Prop where
  fits : ∀ id, (core.sched.slot id).Fits id (core.HoldsAt id) (core.QueuesAt id)
  queues : core.QueuesSound
  steady : core.sched.Steady

/-- A consistent core whose last decision is still the right one. -/
structure Sound (core : Core C) : Prop extends core.Consistent where
  running : ∀ id, (core.sched.slot id).state = .running ↔ id = core.sched.selected
  mostUrgent : ∀ id, (core.sched.slot id).state.isRunnable →
    (core.sched.slot core.sched.selected).priority ≤ (core.sched.slot id).priority

theorem Consistent.id_eq (consistent : core.Consistent) (id : TaskId) :
    (core.sched.slot id).id = id := (consistent.fits id).id_eq

/-- The chosen task is runnable. -/
theorem Sound.selected_runnable (sound : core.Sound) :
    (core.sched.slot core.sched.selected).state.isRunnable := by
  rw [(sound.running core.sched.selected).mpr rfl]
  rfl

theorem Sound.selected_lt (sound : core.Sound) : core.sched.selected < maxTasks :=
  Scheduler.lt_of_isRunnable sound.selected_runnable

/-- A task that acts is runnable, since it is the chosen one. -/
theorem Sound.current_runnable (sound : core.Sound)
    (chosen : core.sched.selected = core.sched.current) :
    (core.sched.slot core.sched.current).state.isRunnable := by
  rw [← chosen]
  exact sound.selected_runnable

/-- One task changes, and the resources do not. -/
theorem Consistent.modifyTask {f : Task C → Task C} (consistent : core.Consistent)
    (fits : (f (core.sched.slot id)).Fits id (core.HoldsAt id) (core.QueuesAt id))
    (idle : id = idleTask → (f (core.sched.slot id)).state.isRunnable)
    (keeps : (core.sched.slot id).KeepsMarks (f (core.sched.slot id))) :
    (core.modifyTask id f).Consistent where
  fits := by
    intro other
    rw [slot_modifyTask]
    split
    · rename_i here
      rw [← here.1]
      exact fits
    · exact consistent.fits other
  queues := consistent.queues.congr rfl
  steady := consistent.steady.modify idle keeps

/-- A change that neither makes a task runnable nor touches a runnable one, cannot make the last
decision wrong. -/
theorem Sound.of_consistent {after : Core C} (sound : core.Sound) (consistent : after.Consistent)
    (selected : after.sched.selected = core.sched.selected)
    (same : ∀ id, (core.sched.slot id).state.isRunnable ∨ (after.sched.slot id).state.isRunnable →
      (after.sched.slot id).state = (core.sched.slot id).state ∧
        (after.sched.slot id).priority = (core.sched.slot id).priority) : after.Sound where
  toConsistent := consistent
  running := by
    intro id
    rw [selected, ← sound.running id]
    constructor
    · intro running
      rwa [(same id (.inr (by rw [running]; rfl))).1] at running
    · intro running
      rwa [(same id (.inl (by rw [running]; rfl))).1]
  mostUrgent := by
    intro id runnable
    have before := same id (.inr runnable)
    rw [before.1] at runnable
    rw [selected, before.2, (same _ (.inl sound.selected_runnable)).2]
    exact sound.mostUrgent id runnable

/-- Deciding a consistent core makes it sound. -/
theorem Consistent.decided (consistent : core.Consistent) : core.decided.Sound := by
  obtain ⟨next, chosen⟩ := Scheduler.exists_decide consistent.steady.idle
  obtain ⟨runnable, least⟩ := Scheduler.decide_spec consistent.id_eq chosen
  have inTable := Scheduler.lt_of_isRunnable runnable
  have sched : core.decided.sched = core.sched.settle next := Scheduler.decided_eq chosen
  have marked := consistent.steady.marked
  refine { fits := ?fits, queues := consistent.queues.congr rfl,
           steady := ?steady, running := ?running, mostUrgent := ?mostUrgent }
  case fits =>
    intro id
    change (core.decided.sched.slot id).Fits id (core.HoldsAt id) (core.QueuesAt id)
    rw [sched, Scheduler.settle_eq_with_state inTable]
    by_cases before : (core.sched.slot id).state.isRunnable
    · refine (consistent.fits id).withRunnable before ?_
      rw [Scheduler.isRunnable_settle marked runnable]
      exact before
    · rw [Scheduler.state_settle_of_blocked marked runnable before]
      exact consistent.fits id
  case steady =>
    rw [sched]
    exact consistent.steady.settle runnable
  case running =>
    intro id
    rw [sched]
    exact Scheduler.running_settle_iff marked inTable
  case mostUrgent =>
    intro id before
    rw [sched, Scheduler.isRunnable_settle marked runnable] at before
    rw [sched, Scheduler.selected_settle, Scheduler.priority_settle inTable,
      Scheduler.priority_settle inTable]
    exact least id before

/-- A decision changes no more of a task than its state, and no more of the state than the running
mark of a runnable task. -/
theorem Consistent.slot_decided (consistent : core.Consistent) (id : TaskId) :
    ∃ state, core.decided.sched.slot id = { core.sched.slot id with state } ∧
      (state = (core.sched.slot id).state ∨
        state.isRunnable ∧ (core.sched.slot id).state.isRunnable) :=
  Scheduler.slot_decided consistent.id_eq consistent.steady.marked id

end Core

end Rtos
