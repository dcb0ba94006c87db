/-
Module: Rtos.Proofs.Sleep
Purpose: A task that waits for events and for nothing else.  No move touches it but the delivery of
  events to itself; a delivery adds to the events that it has, and wakes it exactly when one of them
  is awaited.  Once awake it stays so while interrupts act.
Main definitions: Core.Asleep, Core.Woken, Move.delivered
Main statements: `Move.Allowed.asleep_apply`, `Move.Allowed.woken_apply`,
  `Move.Allowed.woken_kept`
-/
import Rtos.Proofs.Custody
import Rtos.Proofs.FirstCome

namespace Rtos

theorem and_or_distrib (first second third : EventMask) :
    first &&& (second ||| third) = first &&& second ||| first &&& third := by
  apply UInt32.toBitVec_inj.mp
  simp only [UInt32.toBitVec_and, UInt32.toBitVec_or]
  exact BitVec.and_or_distrib_left

namespace Core

variable {C : Type} {core : Core C} {id : ResourceId} {resource : Resource}
  {task giver : TaskId} {mask flags : EventMask}

/-- The task waits for the events of the mask, and for no resource.  The flags are the events that
have been delivered to it. -/
structure Asleep (core : Core C) (task : TaskId) (mask flags : EventMask) : Prop where
  waiting : (core.sched.slot task).state = .waiting
  awaited : (core.sched.slot task).eventWait = mask
  delivered : (core.sched.slot task).eventFlags = flags
  unqueued : ∀ id, task ∉ core.queueOf id

/-- The task can run and waits for nothing.  The flags are the events that have been delivered to
it. -/
structure Woken (core : Core C) (task : TaskId) (flags : EventMask) : Prop where
  runnable : (core.sched.slot task).state.isRunnable
  awaited : (core.sched.slot task).eventWait = 0
  delivered : (core.sched.slot task).eventFlags = flags

/-- Whether a task is in a queue can be read off the table. -/
theorem unqueued_iff :
    (∀ id, task ∉ core.queueOf id) ↔
      ∀ resource ∈ core.resources.toList, task ∉ resource.waiters := by
  constructor
  · intro unqueued resource member waits
    obtain ⟨id, found⟩ := Array.mem_iff_getElem?.mp (Array.mem_toList_iff.mp member)
    exact unqueued id (mem_queueOf.mpr ⟨resource, found, waits⟩)
  · intro each id queued
    obtain ⟨resource, found, waits⟩ := mem_queueOf.mp queued
    exact each resource (Array.mem_toList_iff.mpr (Array.mem_of_getElem? found)) waits

/-- What a task waits for is not there. -/
theorem Asleep.missing (asleep : core.Asleep task mask flags) (sound : core.Sound) :
    mask &&& flags = 0 := by
  rw [← asleep.awaited, ← asleep.delivered]
  refine ((sound.fits task).blocked asleep.waiting).resolve_left ?_
  rintro ⟨level, id, resource, found, waits, -⟩
  exact asleep.unqueued id (mem_queueOf.mpr ⟨resource, found, waits⟩)

/-- A delivery hits a task that is asleep when it brings one of the awaited events. -/
theorem Asleep.hasAwaited_iff (asleep : core.Asleep task mask flags) (sound : core.Sound)
    (events : EventMask) :
    ((core.sched.slot task).deliver events).hasAwaited ↔ events &&& mask ≠ 0 := by
  have some_awaited : mask &&& (flags ||| events) = events &&& mask := by
    rw [and_or_distrib, asleep.missing sound, UInt32.zero_or, UInt32.and_comm]
  simp [Task.hasAwaited, Task.deliver, asleep.waiting, asleep.awaited, asleep.delivered,
    some_awaited]

theorem Asleep.lt_maxTasks (asleep : core.Asleep task mask flags) : task < maxTasks := by
  refine Scheduler.lt_of_isActive (?_ : (core.sched.slot task).state.isActive)
  rw [asleep.waiting]
  rfl

/-- A switch neither wakes anybody nor puts anybody to sleep. -/
theorem Sound.asleep_switched_iff (sound : core.Sound) (outgoing : C) :
    (core.switched outgoing).Asleep task mask flags ↔ core.Asleep task mask flags := by
  have moved := switched_eq_with_context sound.selected_lt outgoing task
  constructor
  · rintro ⟨waiting, awaited, delivered, unqueued⟩
    rw [moved] at waiting awaited delivered
    exact ⟨waiting, awaited, delivered, unqueued⟩
  · rintro ⟨waiting, awaited, delivered, unqueued⟩
    refine ⟨?_, ?_, ?_, unqueued⟩ <;> rw [moved]
    · exact waiting
    · exact awaited
    · exact delivered

/-! ### Resources that change hands -/

/-- A resource that is passed on concerns its giver and those who queue for it. -/
theorem Consistent.slot_pass_of_unqueued (consistent : core.Consistent)
    (found : core.resources[id]? = some resource) (owner : resource.owner = some giver)
    (apart : giver ≠ task) (unqueued : task ∉ core.queueOf id) :
    (core.pass id giver).sched.slot task = core.sched.slot task := by
  rw [queueOf_of_found found] at unqueued
  rw [slot_pass_of_owner consistent found owner, if_neg apart, if_neg]
  exact fun head => unqueued (List.mem_of_mem_head? head)

/-- A task that ends wakes nobody who is in no queue. -/
theorem Consistent.slot_finish_of_unqueued (consistent : core.Consistent)
    (apart : core.sched.current ≠ task) (unqueued : ∀ id, task ∉ core.queueOf id) :
    core.finish.sched.slot task = core.sched.slot task := by
  refine slot_quit_of_not_inherits consistent apart (fun id resource inherits => ?_) _
  exact unqueued id
    (mem_queueOf.mpr ⟨resource, inherits.found, List.mem_of_mem_head? inherits.head⟩)

end Core

namespace Move

variable {C : Type} [Machine C] {core : Core C} {move : Move} {id : ResourceId}
  {task : TaskId} {mask flags : EventMask}

/-- The events that a move delivers to a task. -/
def delivered (task : TaskId) : Move → EventMask
  | deliver id mask | wake id mask => if id = task then mask else 0
  | declare .. | start .. | clear .. | await .. | take .. | queue .. | release .. | finish
  | chain .. => 0

/-- The move delivers events to the task, be it none. -/
def notifies (task : TaskId) : Move → Bool
  | deliver id _ | wake id _ => id = task
  | declare .. | start .. | clear .. | await .. | take .. | queue .. | release .. | finish
  | chain .. => false

theorem delivered_of_not_notifies (other : move.notifies task = false) :
    move.delivered task = 0 := by
  cases move with
  | deliver | wake => exact if_neg (of_decide_eq_false other)
  | _ => rfl

/-- Interrupts leave the queues alone. -/
theorem resources_apply_of_isInterrupt (interrupt : move.isInterrupt) (core : Core C) :
    (move.apply core).resources = core.resources := by
  rw [resources_apply]
  cases move <;> first | rfl | cases interrupt

/-- A task joins a queue by its own move only. -/
theorem Allowed.mem_queueOf_apply (allowed : move.Allowed core)
    (queued : task ∈ (move.apply core).queueOf id) :
    task ∈ core.queueOf id ∨ task = core.sched.current ∧ move = .queue id := by
  obtain ⟨after, foundAfter, waits⟩ := Core.mem_queueOf.mp queued
  have inTable : id < core.resources.size := by
    rw [← size_apply move core]
    exact (Array.getElem?_eq_some_iff.mp foundAfter).1
  have found := Array.getElem?_eq_getElem inTable
  obtain ⟨same, foundSame, change⟩ := allowed.resourceChange found
  rw [foundAfter] at foundSame
  cases foundSame
  rw [Core.queueOf_of_found found]
  cases change with
  | kept same =>
      rw [same] at waits
      exact .inl waits
  | taken _ _ taken =>
      rw [taken] at waits
      exact .inl waits
  | joined asked _ joined =>
      rw [joined] at waits
      rcases List.mem_append.mp waits with old | new
      · exact .inl old
      · exact .inr ⟨List.mem_singleton.mp new, asked⟩
  | passed _ _ passed =>
      rw [passed] at waits
      exact .inl (List.mem_of_mem_tail waits)

/-- A task that is asleep is touched by nothing but deliveries of events to itself. -/
theorem Allowed.slot_edit_of_not_notifies (allowed : move.Allowed core) (sound : core.Sound)
    (asleep : core.Asleep task mask flags) (other : move.notifies task = false) :
    (move.edit core).sched.slot task = core.sched.slot task := by
  have consistent := sound.toConsistent
  have permitted := allowed.permitted
  have waiting := asleep.waiting
  -- it is neither the task on the CPU nor one that is not active
  have apart : move.isCaller → core.sched.current ≠ task := by
    rintro caller rfl
    exact TaskState.ne_waiting_of_isRunnable (allowed.caller_runnable sound caller) waiting
  have inTable : move.isCaller → core.sched.current < maxTasks := fun caller =>
    Scheduler.lt_of_isRunnable (allowed.caller_runnable sound caller)
  have elsewhere : ∀ {target : TaskId} {f : Task C → Task C}, target ≠ task →
      (core.modifyTask target f).sched.slot task = core.sched.slot task := by
    intro target f differ
    rw [Core.slot_modifyTask, if_neg fun both => differ both.1]
  cases move with
  | declare target spec =>
      refine elsewhere ?_
      rintro rfl
      rw [permitted.2] at waiting
      cases waiting
  | start target =>
      refine elsewhere ?_
      rintro rfl
      rw [permitted] at waiting
      cases waiting
  | deliver target | wake target => exact elsewhere (of_decide_eq_false other)
  | clear | await => exact elsewhere (apart rfl)
  | take target =>
      obtain ⟨resource, found, -⟩ := permitted
      rw [edit, found]
      exact (Core.slot_take (inTable rfl) task).trans (if_neg (apart rfl))
  | queue target =>
      rw [edit, Core.slot_queue (inTable rfl), if_neg (apart rfl)]
  | release target =>
      obtain ⟨resource, found, owner⟩ := permitted
      exact consistent.slot_pass_of_unqueued found owner (apart rfl) (asleep.unqueued target)
  | finish =>
      exact consistent.slot_finish_of_unqueued (apart rfl) asleep.unqueued
  | chain target =>
      have finished :=
        consistent.slot_finish_of_unqueued (apart rfl) asleep.unqueued
      rw [edit, Core.start, Core.slot_modifyTask, if_neg, finished]
      rintro ⟨rfl, -⟩
      have suspended := Core.suspended_finish consistent (inTable rfl) permitted.2
      rw [finished, waiting] at suspended
      cases suspended

/-- What becomes of a task that is asleep, before any decision: it has the events that are delivered
to it, and wakes up if one of them is awaited. -/
theorem Allowed.slot_edit_of_asleep (allowed : move.Allowed core) (sound : core.Sound)
    (asleep : core.Asleep task mask flags) :
    (move.edit core).sched.slot task =
      if move.delivered task &&& mask = 0 then
        (core.sched.slot task).deliver (move.delivered task)
      else ((core.sched.slot task).deliver (move.delivered task)).wake := by
  have here : ∀ f : Task C → Task C,
      (core.modifyTask task f).sched.slot task = f (core.sched.slot task) :=
    Scheduler.slot_modify_self asleep.lt_maxTasks
  cases other : move.notifies task with
  | false =>
      rw [allowed.slot_edit_of_not_notifies sound asleep other, delivered_of_not_notifies other]
      simp [Task.deliver]
  | true =>
      have permitted := allowed.permitted
      cases move with
      | deliver id events =>
          obtain rfl : id = task := of_decide_eq_true other
          have missed := mt (asleep.hasAwaited_iff sound events).mpr
            (by rw [permitted.2]; exact Bool.false_ne_true)
          rw [edit, here, delivered, if_pos rfl, if_pos (Decidable.not_not.mp missed)]
      | wake id events =>
          obtain rfl : id = task := of_decide_eq_true other
          have hit := (asleep.hasAwaited_iff sound events).mp permitted
          rw [edit, here, delivered, if_pos rfl, if_neg hit]
      | _ => cases other

/-- The queues are still without a task that is asleep. -/
theorem Allowed.unqueued_apply (allowed : move.Allowed core) (sound : core.Sound)
    (asleep : core.Asleep task mask flags) (id : ResourceId) :
    task ∉ (move.apply core).queueOf id := by
  intro queued
  rcases allowed.mem_queueOf_apply queued with before | ⟨caller, rfl⟩
  · exact asleep.unqueued id before
  · have runnable := allowed.caller_runnable sound rfl
    rw [Core.caller, ← caller] at runnable
    exact TaskState.ne_waiting_of_isRunnable runnable asleep.waiting

/-- As long as none of the events is delivered that a task waits for, it stays asleep.  What is
delivered is added to its events. -/
theorem Allowed.asleep_apply (allowed : move.Allowed core) (sound : core.Sound)
    (asleep : core.Asleep task mask flags) (missed : move.delivered task &&& mask = 0) :
    (move.apply core).Asleep task mask (flags ||| move.delivered task) := by
  have edited := allowed.slot_edit_of_asleep sound asleep
  rw [if_pos missed] at edited
  obtain ⟨state, applied, marks⟩ := allowed.slot_apply sound task
  rw [edited] at applied marks
  have waiting : state = .waiting := by
    rcases marks with same | ⟨-, runnable⟩
    · exact same.trans asleep.waiting
    · exact absurd asleep.waiting (TaskState.ne_waiting_of_isRunnable runnable)
  refine ⟨?_, ?_, ?_, allowed.unqueued_apply sound asleep⟩
  · rw [applied, waiting]
  · rw [applied]
    exact asleep.awaited
  · rw [applied, ← asleep.delivered]
    rfl

/-- Whoever is awake before the decision that follows on a move is so after it. -/
theorem Allowed.woken_of_edit (allowed : move.Allowed core) (sound : core.Sound)
    (woken : (move.edit core).Woken task flags) : (move.apply core).Woken task flags := by
  obtain ⟨state, applied, marks⟩ := allowed.slot_apply sound task
  refine ⟨?_, ?_, ?_⟩
  · rw [applied]
    rcases marks with same | ⟨runnable, -⟩
    · rw [same]
      exact woken.runnable
    · exact runnable
  · rw [applied]
    exact woken.awaited
  · rw [applied]
    exact woken.delivered

/-- When one of the events is delivered that a task waits for, it wakes up and has them all. -/
theorem Allowed.woken_apply (allowed : move.Allowed core) (sound : core.Sound)
    (asleep : core.Asleep task mask flags) (hit : move.delivered task &&& mask ≠ 0) :
    (move.apply core).Woken task (flags ||| move.delivered task) := by
  have edited := allowed.slot_edit_of_asleep sound asleep
  rw [if_neg hit] at edited
  refine allowed.woken_of_edit sound ⟨?_, ?_, ?_⟩ <;> rw [edited]
  · rfl
  · rfl
  · rw [← asleep.delivered]
    rfl

/-- Interrupts touch a task that is awake only by deliveries of events to it. -/
theorem Allowed.slot_edit_of_woken (allowed : move.Allowed core) (interrupt : move.isInterrupt)
    (woken : core.Woken task flags) :
    (move.edit core).sched.slot task = (core.sched.slot task).deliver (move.delivered task) := by
  have permitted := allowed.permitted
  have moving := woken.runnable
  have elsewhere : ∀ {target : TaskId} {f : Task C → Task C}, target ≠ task →
      (core.modifyTask target f).sched.slot task = (core.sched.slot task).deliver 0 := by
    intro target f other
    refine (Scheduler.slot_modify_of_ne other f).trans ?_
    rw [Task.deliver, UInt32.or_zero]
  cases move with
  | start target =>
      refine elsewhere ?_
      rintro rfl
      rw [permitted] at moving
      cases moving
  | deliver target events =>
      rw [delivered]
      split
      · rename_i here
        subst here
        exact Scheduler.slot_modify_self (Scheduler.lt_of_isRunnable moving) _
      · rename_i other
        exact elsewhere other
  | wake target events =>
      have other : target ≠ task := by
        rintro rfl
        exact TaskState.ne_waiting_of_isRunnable moving (Task.Fits.state_of_hasAwaited permitted)
      rw [delivered, if_neg other]
      exact elsewhere other
  | _ => cases interrupt

/-- A task that is awake stays so while interrupts act, and has all that they deliver to it. -/
theorem Allowed.woken_kept (allowed : move.Allowed core) (sound : core.Sound)
    (interrupt : move.isInterrupt) (woken : core.Woken task flags) :
    (move.apply core).Woken task (flags ||| move.delivered task) := by
  have edited := allowed.slot_edit_of_woken interrupt woken
  refine allowed.woken_of_edit sound ⟨?_, ?_, ?_⟩ <;> rw [edited]
  · exact woken.runnable
  · exact woken.awaited
  · rw [← woken.delivered]
    rfl

/-- A task that is blocked on events falls asleep with the events that it had. -/
theorem Allowed.asleep_of_await (allowed : Allowed core (await mask)) (sound : core.Sound) :
    ((await mask).apply core).Asleep core.sched.current mask core.caller.eventFlags := by
  have runnable := allowed.caller_runnable sound rfl
  have edited : ((await mask).edit core).sched.slot core.sched.current = core.caller.await mask :=
    Scheduler.slot_modify_self (Scheduler.lt_of_isRunnable runnable) _
  obtain ⟨state, applied, -⟩ := allowed.slot_apply sound core.sched.current
  rw [edited] at applied
  refine ⟨allowed.waiting_of_await sound, ?_, ?_, ?_⟩
  · rw [applied]
    rfl
  · rw [applied]
    rfl
  · intro id queued
    -- before the move the task was running, and so in no queue
    have before := (allowed.mem_queueOf_apply queued).resolve_right fun both => nomatch both.2
    obtain ⟨resource, found, waits⟩ := Core.mem_queueOf.mp before
    exact TaskState.ne_waiting_of_isRunnable runnable (sound.waiting found waits)

end Move

end Rtos
