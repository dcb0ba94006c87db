/-
Module: Rtos.Proofs.Change
Purpose: All that a move can do to one task.  Whatever is to be known of a task across a move is
  read off from here.
Main definitions: TaskImage.laid, Task.FreshFrom, Task.Change
Main statements: `Move.Allowed.change`
-/
import Rtos.Proofs.Move

namespace Rtos

/-- The task on the CPU is blocked by the move. -/
def Move.blocks : Move → Bool
  | await .. | queue .. => true
  | declare .. | start .. | deliver .. | wake .. | clear .. | take .. | release .. | finish
  | chain .. => false

/-- The task on the CPU ends by the move. -/
def Move.ends : Move → Bool
  | finish | chain .. => true
  | declare .. | start .. | deliver .. | wake .. | clear .. | await .. | take .. | queue ..
  | release .. => false

/-- The image with an initial frame laid on its stack. -/
def TaskImage.laid (image : TaskImage) : TaskImage :=
  { image with stack := (image.stack.prime image.entry image.argument).1 }

/-- The task is as an activation from this image leaves it. -/
structure Task.FreshFrom {C : Type} [Machine C] (origin : TaskImage) (task : Task C) : Prop where
  image : task.image = some origin.laid
  context : task.context = .primed origin.freshHandle

/-- What becomes of one task by a move. -/
inductive Task.Change {C : Type} [Machine C] (move : Move) (current id : TaskId)
    (before after : Task C) : Prop where
  /-- It goes on as before, though what it waited for may have come. -/
  | kept (same : before.SameLife after) (other : move.activates? ≠ some id)
  | declared (spec : TaskSpec) (place : move = .declare id spec) (free : before.state = .free)
      (filled : after = before.declare spec)
  | started (target : move.activates? = some id) (ready : after.state = .ready)
      (base : after.basePriority = before.basePriority)
      (primed : ∃ handle, before.freshHandle? = some handle ∧ after.context = .primed handle)
      (fresh : after.freshHandle? = before.freshHandle?)
      (laid : ∃ origin, before.image = some origin ∧ after.FreshFrom origin)
  | blocked (caller : id = current) (blocks : move.blocks) (waiting : after.state = .waiting)
      (context : after.context = before.context) (image : after.image = before.image)
      (base : after.basePriority = before.basePriority)
  | ended (caller : id = current) (ends : move.ends) (other : move.activates? ≠ some id)
      (suspended : after.state = .suspended) (dormant : after.context = .dormant)
      (image : after.image = before.image) (base : after.basePriority = before.basePriority)

namespace Task

variable {C : Type} [Machine C]

/-- A fresh start lays a frame on a stack of the same size, so that the handle stays the same. -/
theorem freshHandle?_started (task : Task C) : task.started.freshHandle? = task.freshHandle? := by
  unfold started activate
  split
  · rename_i fresh activated
    split at activated
    · rename_i imaged
      cases activated
      simp [freshHandle?, TaskImage.freshHandle, imaged, Machine.prime, Stack.prime]
    all_goals cases activated
  · rfl

/-- What starting a suspended task makes of it. -/
theorem change_started {move : Move} {current id : TaskId} {before ended : Task C}
    (target : move.activates? = some id) (suspended : ended.state = .suspended)
    (imaged : ended.image.isSome) (image : ended.image = before.image)
    (base : ended.basePriority = before.basePriority) :
    Change move current id before ended.started := by
  have handle : ended.freshHandle? = before.freshHandle? := by
    rw [freshHandle?, freshHandle?, image]
  have activated := activate_started suspended imaged
  obtain ⟨found, has⟩ := Option.isSome_iff_exists.mp imaged
  rw [activate, suspended, has] at activated
  have started := Except.ok.inj activated
  refine .started target ?_ ?_ ?_ ((freshHandle?_started ended).trans handle) ?_
  · rw [← started]
  · rw [← started, ← base]
  · rw [← handle, ← started, freshHandle?, has]
    exact ⟨_, rfl, rfl⟩
  · rw [← image, ← started]
    exact ⟨found, has, rfl, rfl⟩

end Task

namespace Move

variable {C : Type} [Machine C] {core : Core C} {move : Move}

/-- When a task ends and another, or itself, is activated, it is the two of them that change. -/
theorem Allowed.change_chain {target : TaskId} (allowed : Allowed core (chain target))
    (sound : core.Sound) (id : TaskId) :
    Task.Change (chain target) core.sched.current id (core.sched.slot id)
      (((chain target).edit core).sched.slot id) := by
  obtain ⟨notIdle, suspendable⟩ := allowed.permitted
  have consistent := sound.toConsistent
  have runnable := allowed.caller_runnable sound rfl
  have inTable := Scheduler.lt_of_isRunnable runnable
  have suspended := Core.suspended_finish consistent inTable suspendable
  have declared : (core.finish.sched.slot target).state ≠ .free := by
    rw [suspended]
    decide
  have imaged := ((consistent.finish notIdle runnable).fits target).image_isSome declared
  obtain ⟨ended, dormant, image, base⟩ := Core.finish_caller consistent inTable
  rw [edit, Core.start, Core.slot_modifyTask]
  by_cases chained : target = id
  · subst chained
    rw [if_pos ⟨rfl, Scheduler.lt_of_state_ne_free declared⟩]
    by_cases caller : core.sched.current = target
    · subst caller
      exact Task.change_started rfl suspended imaged image base
    · have life := Core.sameLife_finish consistent inTable caller
      exact Task.change_started rfl suspended imaged life.image life.basePriority
  · rw [if_neg fun both => chained both.1]
    have other : activates? (.chain target) ≠ some id :=
      fun same => chained (Option.some.inj same)
    by_cases caller : core.sched.current = id
    · subst caller
      exact .ended rfl rfl other ended dormant image base
    · exact .kept (Core.sameLife_finish consistent inTable caller) other

/-- A move changes each task in one of five ways. -/
theorem Allowed.change (allowed : move.Allowed core) (sound : core.Sound) (id : TaskId) :
    Task.Change move core.sched.current id (core.sched.slot id)
      ((move.edit core).sched.slot id) := by
  have consistent := sound.toConsistent
  have permitted := allowed.permitted
  have nobody : ∀ other : TaskId, none ≠ some other :=
    fun other => (Option.some_ne_none other).symm
  have one : ∀ {f : Task C → Task C} {target : TaskId},
      (¬ (target = id ∧ target < maxTasks) → move.activates? ≠ some id) →
      Task.Change move core.sched.current target (core.sched.slot target)
        (f (core.sched.slot target)) →
      Task.Change move core.sched.current id (core.sched.slot id)
        ((core.modifyTask target f).sched.slot id) := by
    intro f target apart change
    rw [Core.slot_modifyTask]
    split
    · rename_i here
      rw [← here.1]
      exact change
    · rename_i elsewhere
      exact .kept (.refl _) (apart elsewhere)
  cases move with
  | declare target spec => exact one (fun _ => nobody id) (.declared spec rfl permitted.2 rfl)
  | start target =>
      have declared : (core.sched.slot target).state ≠ .free := by
        rw [permitted]
        decide
      have inTable := Scheduler.lt_of_state_ne_free declared
      have imaged := (consistent.fits target).image_isSome declared
      refine one ?_ (Task.change_started rfl permitted imaged rfl rfl)
      exact fun elsewhere same => elsewhere ⟨Option.some.inj same, inTable⟩
  | deliver target mask =>
      exact one (fun _ => nobody id) (.kept ⟨rfl, rfl, rfl, .inl rfl⟩ (nobody _))
  | wake target mask =>
      have waiting : (core.sched.slot target).state = .waiting :=
        Task.Fits.state_of_hasAwaited permitted
      exact one (fun _ => nobody id) (.kept ⟨rfl, rfl, rfl, .inr ⟨waiting, rfl⟩⟩ (nobody _))
  | clear mask => exact one (fun _ => nobody id) (.kept ⟨rfl, rfl, rfl, .inl rfl⟩ (nobody _))
  | await mask => exact one (fun _ => nobody id) (.blocked rfl rfl rfl rfl rfl rfl)
  | take target =>
      obtain ⟨resource, found, -, -⟩ := permitted
      have inTable := Scheduler.lt_of_isRunnable (allowed.caller_runnable sound rfl)
      rw [edit, found]
      change Task.Change _ _ _ _
        ((core.take target resource.ceiling core.sched.current).sched.slot id)
      rw [Core.slot_take inTable]
      split
      · exact .kept ⟨rfl, rfl, rfl, .inl rfl⟩ (nobody id)
      · exact .kept (.refl _) (nobody id)
  | queue target =>
      have inTable := Scheduler.lt_of_isRunnable (allowed.caller_runnable sound rfl)
      rw [edit, Core.slot_queue inTable]
      split
      · rename_i caller
        exact .blocked caller.symm rfl rfl rfl rfl rfl
      · exact .kept (.refl _) (nobody id)
  | release target =>
      obtain ⟨resource, found, owner⟩ := permitted
      exact .kept (Core.sameLife_pass consistent found owner id) (nobody id)
  | finish =>
      have inTable := Scheduler.lt_of_isRunnable (allowed.caller_runnable sound rfl)
      by_cases caller : core.sched.current = id
      · subst caller
        obtain ⟨suspended, dormant, image, base⟩ := Core.finish_caller consistent inTable
        exact .ended rfl rfl (nobody _) suspended dormant image base
      · exact .kept (Core.sameLife_finish consistent inTable caller) (nobody id)
  | chain target => exact allowed.change_chain sound id

/-- The decision that may follow on a move changes no more than running marks. -/
theorem Allowed.slot_apply (allowed : move.Allowed core) (sound : core.Sound) (id : TaskId) :
    ∃ state, (move.apply core).sched.slot id = { (move.edit core).sched.slot id with state } ∧
      (state = ((move.edit core).sched.slot id).state ∨
        state.isRunnable ∧ ((move.edit core).sched.slot id).state.isRunnable) := by
  unfold apply
  split
  · exact (allowed.consistent sound).slot_decided id
  · exact ⟨_, rfl, .inl rfl⟩

/-- Decisions leave the resources alone. -/
theorem resources_apply (move : Move) (core : Core C) :
    (move.apply core).resources = (move.edit core).resources := by
  unfold apply
  split
  · exact Core.resources_decided _
  · rfl

/-- The base priority of a task is fixed when it is declared. -/
theorem Allowed.basePriority_apply (allowed : move.Allowed core) (sound : core.Sound) {id : TaskId}
    (declared : (core.sched.slot id).state ≠ .free) :
    ((move.apply core).sched.slot id).basePriority = (core.sched.slot id).basePriority := by
  obtain ⟨state, applied, -⟩ := allowed.slot_apply sound id
  rw [applied]
  cases allowed.change sound id with
  | kept same => exact same.basePriority
  | declared _ _ free => exact absurd free declared
  | started _ _ base => exact base
  | blocked _ _ _ _ _ base => exact base
  | ended _ _ _ _ _ _ base => exact base

/-- A declared task stays declared. -/
theorem Allowed.ne_free_apply (allowed : move.Allowed core) (sound : core.Sound) {id : TaskId}
    (declared : (core.sched.slot id).state ≠ .free) :
    ((move.apply core).sched.slot id).state ≠ .free := by
  have edited : ((move.edit core).sched.slot id).state ≠ .free := by
    cases allowed.change sound id with
    | kept same => exact same.ne_free declared
    | declared _ _ free => exact absurd free declared
    | started _ ready =>
        rw [ready]
        decide
    | blocked _ _ waiting =>
        rw [waiting]
        decide
    | ended _ _ _ suspended =>
        rw [suspended]
        decide
  obtain ⟨state, applied, same | ⟨runnable, -⟩⟩ := allowed.slot_apply sound id
  · rw [applied, same]
    exact edited
  · rw [applied]
    exact TaskState.ne_free_of_isRunnable runnable

/-- Moves leave the task on the CPU there. -/
theorem current_apply (move : Move) (core : Core C) :
    (move.apply core).sched.current = core.sched.current := by
  unfold apply
  split
  · exact Scheduler.current_decided.trans (cursors_edit move core).1
  · exact (cursors_edit move core).1

/-- Only a declaration changes from where a task would start. -/
theorem Allowed.freshHandle?_apply (allowed : move.Allowed core) (sound : core.Sound)
    (other : ∀ id spec, move ≠ .declare id spec) (id : TaskId) :
    ((move.apply core).sched.slot id).freshHandle? = (core.sched.slot id).freshHandle? := by
  obtain ⟨state, applied, -⟩ := allowed.slot_apply sound id
  rw [applied]
  have of_image : ((move.edit core).sched.slot id).image = (core.sched.slot id).image →
      ((move.edit core).sched.slot id).freshHandle? = (core.sched.slot id).freshHandle? := by
    intro image
    rw [Task.freshHandle?, Task.freshHandle?, image]
  cases allowed.change sound id with
  | kept same => exact of_image same.image
  | declared spec place => exact absurd place (other id spec)
  | started _ _ _ _ fresh => exact fresh
  | blocked _ _ _ _ image => exact of_image image
  | ended _ _ _ _ _ image => exact of_image image

/-- Only the task on the CPU begins to wait, and only by a move that blocks it. -/
theorem Allowed.waiting_apply (allowed : move.Allowed core) (sound : core.Sound) {id : TaskId}
    (waiting : ((move.apply core).sched.slot id).state = .waiting) :
    (core.sched.slot id).state = .waiting ∨ id = core.sched.current ∧ move.blocks := by
  obtain ⟨state, applied, marks⟩ := allowed.slot_apply sound id
  have edited : ((move.edit core).sched.slot id).state = .waiting := by
    rw [applied] at waiting
    rcases marks with same | ⟨runnable, -⟩
    · rw [← same]
      exact waiting
    · exact absurd waiting (TaskState.ne_waiting_of_isRunnable runnable)
  cases allowed.change sound id with
  | kept same =>
      rcases same.state with still | ⟨before, -⟩
      · exact .inl (still.symm.trans edited)
      · exact .inl before
  | declared spec _ _ filled =>
      rw [filled] at edited
      cases edited
  | started _ ready =>
      rw [ready] at edited
      cases edited
  | blocked caller blocks => exact .inr ⟨caller, blocks⟩
  | ended _ _ _ suspended =>
      rw [suspended] at edited
      cases edited

/-- A task that waits for events goes to sleep. -/
theorem Allowed.waiting_of_await {mask : EventMask} (allowed : Allowed core (await mask))
    (sound : core.Sound) :
    (((await mask).apply core).sched.slot core.sched.current).state = .waiting := by
  have inTable := Scheduler.lt_of_isRunnable (allowed.caller_runnable sound rfl)
  have edited : (((await mask).edit core).sched.slot core.sched.current).state = .waiting := by
    rw [edit, Core.slot_modifyTask, if_pos ⟨rfl, inTable⟩]
    rfl
  obtain ⟨state, applied, same | ⟨-, runnable⟩⟩ := allowed.slot_apply sound core.sched.current
  · rw [applied]
    exact same.trans edited
  · rw [edited] at runnable
    cases runnable

end Move

end Rtos
