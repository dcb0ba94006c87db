/-
Module: Rtos.Proofs.Move
Purpose: The changes to tasks and resources that the kernel makes, each in one piece.  Every service
  comes down to one of them at most, and a sound core stays sound.
Main definitions: Move, Move.Allowed, Move.edit, Move.apply
Main statements: `Move.Allowed.sound`
-/
import Rtos.Kernel
import Rtos.Proofs.Sharing

namespace Rtos

/-- One change of tasks and resources.  Where no task is named, it is the task on the CPU that
changes. -/
inductive Move where
  /-- A vacant slot is filled. -/
  | declare (id : TaskId) (spec : TaskSpec)
  /-- A suspended task is activated. -/
  | start (id : TaskId)
  /-- Events are delivered to a task that goes on as before. -/
  | deliver (id : TaskId) (mask : EventMask)
  /-- Events are delivered to a task that waits for one of them. -/
  | wake (id : TaskId) (mask : EventMask)
  | clear (mask : EventMask)
  | await (mask : EventMask)
  /-- A free resource is taken. -/
  | take (id : ResourceId)
  /-- The queue of a resource gets longer. -/
  | queue (id : ResourceId)
  | release (id : ResourceId)
  /-- The task on the CPU ends. -/
  | finish
  /-- The task on the CPU ends and another one, or itself, is activated. -/
  | chain (id : TaskId)

/-- The handle of a fresh start. -/
def TaskImage.freshHandle {C : Type} [Machine C] (image : TaskImage) : C :=
  (Machine.prime image.stack image.entry image.argument).2

namespace Task

variable {C : Type} [Machine C]

/-- The task as an activation leaves it, or as it was when it cannot be activated. -/
def started (task : Task C) : Task C :=
  match task.activate Machine.prime with
  | .ok fresh => fresh
  | .error _ => task

/-- The handle of a fresh start, if the slot was ever declared. -/
def freshHandle? (task : Task C) : Option C := task.image.map TaskImage.freshHandle

/-- A suspended task with something to run can be activated. -/
theorem activate_started {task : Task C} (suspended : task.state = .suspended)
    (imaged : task.image.isSome) : task.activate Machine.prime = .ok task.started := by
  obtain ⟨image, has⟩ := Option.isSome_iff_exists.mp imaged
  rw [started, activate, suspended, has]

omit [Machine C] in
/-- What can be activated is suspended. -/
theorem suspended_of_activate {task fresh : Task C} {prime : Primer C}
    (activated : task.activate prime = .ok fresh) : task.state = .suspended := by
  unfold activate at activated
  split at activated
  · assumption
  all_goals cases activated

end Task

namespace Core

variable {C : Type}

/-- The task on the CPU passes on what it owns and ends. -/
def finish (core : Core C) : Core C :=
  (core.passOwned core.sched.current core.resourceIds.reverse).modifyTask core.sched.current
    Task.terminate

/-- A suspended task is activated. -/
def start [Machine C] (id : TaskId) (core : Core C) : Core C := core.modifyTask id Task.started

/-- The task on the CPU. -/
def caller (core : Core C) : Task C := core.sched.slot core.sched.current

variable {core : Core C}

/-- In a sound core, what a suspended task needs to be activated is there. -/
theorem Consistent.activate_started [Machine C] (consistent : core.Consistent) {id : TaskId}
    (suspended : (core.sched.slot id).state = .suspended) :
    (core.sched.slot id).activate Machine.prime = .ok (core.sched.slot id).started := by
  refine Task.activate_started suspended ((consistent.fits id).image_isSome ?_)
  rw [suspended]
  decide

theorem Consistent.start [Machine C] (consistent : core.Consistent) {id : TaskId}
    (suspended : (core.sched.slot id).state = .suspended) : (core.start id).Consistent := by
  have activated := consistent.activate_started suspended
  have fits := (consistent.fits id).activate activated
  have fresh : (core.sched.slot id).started.state = .ready ∧
      ∃ handle, (core.sched.slot id).started.context = .primed handle := by
    obtain ⟨image, imaged⟩ := Option.isSome_iff_exists.mp
      ((consistent.fits id).image_isSome (by rw [suspended]; decide))
    rw [Task.activate, suspended, imaged] at activated
    rw [← Except.ok.inj activated]
    exact ⟨rfl, _, rfl⟩
  obtain ⟨ready, handle, primed⟩ := fresh
  refine consistent.modifyTask fits (fun _ => by rw [ready]; rfl) ⟨?_, ?_, ?_⟩
  · intro running
    rw [ready] at running
    cases running
  · intro onCpu
    rw [primed] at onCpu
    cases onCpu
  · intro _ saved
    rw [primed] at saved
    cases saved

/-- When a task has passed on everything, it may end. -/
theorem Consistent.finish (consistent : core.Consistent) (notIdle : core.sched.current ≠ idleTask)
    (runnable : core.caller.state.isRunnable) : core.finish.Consistent := by
  have passed := consistent.passOwned core.sched.current core.resourceIds.reverse
  have life := sameLife_passOwned consistent core.sched.current core.sched.current
    core.resourceIds.reverse
  have moving := TaskState.ne_waiting_of_isRunnable runnable
  have state := life.state_eq moving
  refine passed.modifyTask ?_ (fun idle => absurd idle notIdle) ⟨nofun, nofun, fun _ => nofun⟩
  refine (passed.fits core.sched.current).terminate ?_ ?_ ?_
  · rw [state]
    exact TaskState.ne_free_of_isRunnable runnable
  · rintro level ⟨id, resource, found, owner, -⟩
    refine not_owns_passOwned consistent moving core.resourceIds.reverse ?_ id
      (owns_iff.mpr ⟨resource, found, owner⟩)
    intro other owned
    obtain ⟨here, foundHere, -⟩ := owns_iff.mp owned
    have inTable : other < core.resources.size := (Array.getElem?_eq_some_iff.mp foundHere).1
    simpa [resourceIds] using inTable
  · refine (passed.fits core.sched.current).not_queued ?_
    rw [state]
    exact moving

end Core

namespace Core

variable {C : Type} {core : Core C}

/-! ### The end of a task -/

theorem slot_finish (inTable : core.sched.current < maxTasks) (id : TaskId) :
    core.finish.sched.slot id =
      let passed := core.passOwned core.sched.current core.resourceIds.reverse
      if core.sched.current = id then (passed.sched.slot id).terminate
      else passed.sched.slot id := by
  rw [finish, slot_modifyTask]
  simp [inTable]

/-- The task that ends is suspended, and its registers are dropped. -/
theorem finish_caller (consistent : core.Consistent) (inTable : core.sched.current < maxTasks) :
    (core.finish.sched.slot core.sched.current).state = .suspended ∧
      (core.finish.sched.slot core.sched.current).context = .dormant ∧
      (core.finish.sched.slot core.sched.current).image = core.caller.image ∧
      (core.finish.sched.slot core.sched.current).basePriority = core.caller.basePriority := by
  have life := sameLife_passOwned consistent core.sched.current core.sched.current
    core.resourceIds.reverse
  rw [slot_finish inTable]
  simp only [if_pos]
  exact ⟨rfl, rfl, life.image, life.basePriority⟩

/-- Every other task at most receives what it waited for. -/
theorem sameLife_finish (consistent : core.Consistent) (inTable : core.sched.current < maxTasks)
    {id : TaskId} (other : core.sched.current ≠ id) :
    (core.sched.slot id).SameLife (core.finish.sched.slot id) := by
  rw [slot_finish inTable]
  simp only [if_neg other]
  exact sameLife_passOwned consistent core.sched.current id core.resourceIds.reverse

/-- The successor of the task that ends can be activated. -/
theorem suspended_finish (consistent : core.Consistent) (inTable : core.sched.current < maxTasks)
    {id : TaskId} (target : id = core.sched.current ∨ (core.sched.slot id).state = .suspended) :
    (core.finish.sched.slot id).state = .suspended := by
  by_cases self : core.sched.current = id
  · rw [← self]
    exact (finish_caller consistent inTable).1
  · have suspended := target.resolve_left fun same => self same.symm
    rw [(sameLife_finish consistent inTable self).state_eq (by rw [suspended]; decide)]
    exact suspended

end Core

namespace Move

variable {C : Type}

/-- The change, before any decision. -/
def edit [Machine C] (core : Core C) : Move → Core C
  | declare id spec => core.modifyTask id (Task.declare spec)
  | start id => core.start id
  | deliver id mask => core.modifyTask id (Task.deliver mask)
  | wake id mask => core.modifyTask id fun task => (task.deliver mask).wake
  | clear mask => core.modifyTask core.sched.current fun task =>
      { task with eventFlags := task.eventFlags &&& ~~~mask }
  | await mask => core.modifyTask core.sched.current (Task.await mask)
  | take id =>
      match core.resources[id]? with
      | some resource => core.take id resource.ceiling core.sched.current
      | none => core
  | queue id => core.queue id core.sched.current
  | release id => core.pass id core.sched.current
  | finish => core.finish
  | chain id => core.finish.start id

/-- The change may make another task the one to run, and is followed by a decision. -/
def decides : Move → Bool
  | declare .. | deliver .. | clear .. => false
  | start .. | wake .. | await .. | take .. | queue .. | release .. | finish | chain .. => true

/-- The change is made on behalf of the task on the CPU. -/
def isCaller : Move → Bool
  | clear .. | await .. | take .. | queue .. | release .. | finish | chain .. => true
  | declare .. | start .. | deliver .. | wake .. => false

/-- When the kernel makes the change. -/
def Permitted (core : Core C) : Move → Prop
  | declare id _ => id < maxTasks ∧ (core.sched.slot id).state = .free
  | start id => (core.sched.slot id).state = .suspended
  | deliver id mask => (core.sched.slot id).state.isActive ∧
      ((core.sched.slot id).deliver mask).hasAwaited = false
  | wake id mask => ((core.sched.slot id).deliver mask).hasAwaited
  | clear _ => True
  | await mask => core.sched.current ≠ idleTask ∧ core.caller.eventFlags &&& mask = 0
  | take id => ∃ resource, core.resources[id]? = some resource ∧ resource.owner = none ∧
      resource.ceiling ≤ core.caller.basePriority
  | queue id => ∃ resource, core.resources[id]? = some resource ∧ resource.owner ≠ none ∧
      resource.owner ≠ some core.sched.current ∧ core.sched.current ≠ idleTask ∧
      resource.ceiling ≤ core.caller.basePriority
  | release id => ∃ resource, core.resources[id]? = some resource ∧
      resource.owner = some core.sched.current
  | finish => core.sched.current ≠ idleTask
  | chain id => core.sched.current ≠ idleTask ∧
      (id = core.sched.current ∨ (core.sched.slot id).state = .suspended)

/-- When a disciplined kernel makes the change: a task acts only while it is the chosen one. -/
structure Allowed (core : Core C) (move : Move) : Prop where
  permitted : move.Permitted core
  chosen : move.isCaller → core.sched.selected = core.sched.current

/-- The change with the decision that follows on it. -/
def apply [Machine C] (core : Core C) (move : Move) : Core C :=
  if move.decides then (move.edit core).decided else move.edit core

/-- The task that the change activates. -/
def activates? : Move → Option TaskId
  | start id | chain id => some id
  | declare .. | deliver .. | wake .. | clear .. | await .. | take .. | queue .. | release ..
  | finish => none

/-! ### Soundness -/

section Soundness

variable [Machine C] {core : Core C} {move : Move}

omit [Machine C] in
/-- A task that acts is runnable. -/
theorem Allowed.caller_runnable (allowed : move.Allowed core) (sound : core.Sound)
    (caller : move.isCaller) : core.caller.state.isRunnable :=
  sound.current_runnable (allowed.chosen caller)

/-- Whatever the kernel changes, it leaves tasks and resources consistent. -/
theorem Allowed.consistent (allowed : move.Allowed core) (sound : core.Sound) :
    (move.edit core).Consistent := by
  have consistent := sound.toConsistent
  have permitted := allowed.permitted
  cases move with
  | declare id spec =>
      obtain ⟨-, free⟩ := permitted
      have fits := consistent.fits id
      refine consistent.modifyTask (fits.declare (fits.not_held ?inactive) (fits.not_queued ?moving)
        spec) ?_ ⟨nofun, nofun, fun _ => nofun⟩
      case inactive =>
        rw [free]
        rfl
      case moving =>
        rw [free]
        decide
      rintro rfl
      have idle := consistent.steady.idle
      rw [free] at idle
      cases idle
  | start id => exact consistent.start permitted
  | deliver id mask =>
      refine consistent.modifyTask ((consistent.fits id).deliver permitted.2) ?_
        (Task.keepsMarks_of_same rfl rfl)
      rintro rfl
      exact consistent.steady.idle
  | wake id mask =>
      exact consistent.modifyTask ((consistent.fits id).wake permitted) (fun _ => rfl)
        (Task.keepsMarks_of_state .ready rfl (by decide) rfl)
  | clear mask =>
      refine consistent.modifyTask (consistent.fits core.sched.current).clear ?_
        (Task.keepsMarks_of_same rfl rfl)
      intro idle
      rw [idle]
      exact consistent.steady.idle
  | await mask =>
      obtain ⟨notIdle, missing⟩ := permitted
      have runnable := allowed.caller_runnable sound rfl
      exact consistent.modifyTask ((consistent.fits core.sched.current).await runnable missing)
        (fun idle => absurd idle notIdle) (Task.keepsMarks_of_state .waiting rfl (by decide) rfl)
  | take id =>
      obtain ⟨resource, found, free, entitled⟩ := permitted
      rw [edit, found]
      exact consistent.take found free (allowed.caller_runnable sound rfl) entitled
  | queue id =>
      obtain ⟨resource, found, owned, apart, notIdle, entitled⟩ := permitted
      exact consistent.queue found owned apart notIdle (allowed.caller_runnable sound rfl) entitled
  | release id =>
      obtain ⟨resource, found, owner⟩ := permitted
      exact consistent.pass found owner
  | finish => exact consistent.finish permitted (allowed.caller_runnable sound rfl)
  | chain id =>
      obtain ⟨notIdle, target⟩ := permitted
      have runnable := allowed.caller_runnable sound rfl
      have inTable := Scheduler.lt_of_isRunnable runnable
      exact (consistent.finish notIdle runnable).start
        (Core.suspended_finish consistent inTable target)

/-- A change on which no decision follows concerns no runnable task in its state or priority. -/
theorem Allowed.state_eq (allowed : move.Allowed core) (quiet : move.decides = false) (id : TaskId)
    (runnable : (core.sched.slot id).state.isRunnable ∨
      ((move.edit core).sched.slot id).state.isRunnable) :
    ((move.edit core).sched.slot id).state = (core.sched.slot id).state ∧
      ((move.edit core).sched.slot id).priority = (core.sched.slot id).priority := by
  have permitted := allowed.permitted
  cases move with
  | declare other spec =>
      rw [edit, Core.slot_modifyTask] at runnable ⊢
      by_cases here : other = id ∧ other < maxTasks
      · obtain ⟨rfl, -⟩ := here
        rw [if_pos ⟨rfl, permitted.1⟩, permitted.2] at runnable
        rcases runnable with before | after
        · cases before
        · cases after
      · rw [if_neg here]
        exact ⟨rfl, rfl⟩
  | deliver other mask =>
      rw [edit, Core.slot_modifyTask]
      split <;> exact ⟨rfl, rfl⟩
  | clear mask =>
      rw [edit, Core.slot_modifyTask]
      split <;> exact ⟨rfl, rfl⟩
  | _ => cases quiet

/-- The cursors are moved by decisions and switches only. -/
theorem cursors_edit (move : Move) (core : Core C) :
    (move.edit core).sched.current = core.sched.current ∧
      (move.edit core).sched.selected = core.sched.selected := by
  have passed := core.cursors_passOwned core.sched.current core.resourceIds.reverse
  cases move with
  | take id =>
      rw [edit]
      split <;> exact ⟨rfl, rfl⟩
  | release id => exact Core.cursors_pass id core.sched.current core
  | finish => exact passed
  | chain id => exact passed
  | _ => exact ⟨rfl, rfl⟩

/-- A sound core stays sound. -/
theorem Allowed.sound (allowed : move.Allowed core) (sound : core.Sound) :
    (move.apply core).Sound := by
  have consistent := allowed.consistent sound
  unfold apply
  split
  · exact consistent.decided
  · rename_i quiet
    exact sound.of_consistent consistent (cursors_edit move core).2
      fun id => allowed.state_eq (Bool.eq_false_iff.mpr quiet) id

end Soundness

end Move

end Rtos
