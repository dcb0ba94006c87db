/-
Module: Rtos.Proofs.Refusal
Purpose: A call that is refused leaves nothing behind.  Whatever may fail in a call fails before the
  first change, or cannot fail any more once the change has begun; only the source of stacks
  remembers that it was asked in vain.
Main definitions: Kernel.Call, Kernel.withFreshHeap, Kernel.Atomic
Main statements: `Kernel.Call.atomic`, `Execution.refused_unchanged`
-/
import Mathlib.Tactic.SplitIfs
import Rtos.Proofs.Execution

namespace Rtos

/-- The source as it would be had nobody asked it yet. -/
def StackSource.fresh (source : StackSource) : StackSource := { source with requests := [] }

namespace Action

variable {σ α β : Type} {first : Action σ α} {next : α → Action σ β}

/-- There is no state in which the operation is refused. -/
def NeverRefused (action : Action σ α) : Prop := ∀ state, ∃ a, (action.run state).result = .ok a

theorem neverRefused_pure (a : α) : (pure a : Action σ α).NeverRefused := fun _ => ⟨a, rfl⟩

theorem neverRefused_modify (f : σ → σ) : (modify f).NeverRefused := fun _ => ⟨(), rfl⟩

theorem neverRefused_emit (seen : Observation) : (emit seen : Action σ Unit).NeverRefused :=
  fun _ => ⟨(), rfl⟩

/-- A refusal that is reported is not one. -/
theorem neverRefused_attempt (action : Action σ α) : action.attempt.NeverRefused :=
  fun state => ⟨(action.run state).result, rfl⟩

theorem NeverRefused.within {τ : Type} {action : Action τ α} (never : action.NeverRefused)
    (part : σ → τ) (put : τ → σ → σ) : (Action.within part put action).NeverRefused :=
  fun state => never (part state)

theorem NeverRefused.bind (early : first.NeverRefused) (late : ∀ a, (next a).NeverRefused) :
    (first >>= next).NeverRefused := by
  intro state
  obtain ⟨a, done⟩ := early state
  rw [run_bind, done]
  exact late a (first.run state).state

end Action

namespace Core

variable {C : Type} {core : Core C} {id : ResourceId} {task : TaskId} {reason : Refusal}

/-- A request for a resource is refused before anything is changed. -/
theorem state_of_acquire_refused
    (refused : ((acquire id task).run core).result = .error reason) :
    ((acquire id task).run core).state = core := by
  by_cases free : (core.sched.slot task).state = .free
  · unfold acquire
    rw [Action.run_get_bind]
    cases core.resources[id]? with
    | none => rfl
    | some resource =>
        have unknown : core.sched.findTask task = .error .unknownId := if_pos free
        rw [Action.run_some_bind, unknown, Action.run_error_bind]
  · rw [run_acquire id free] at refused ⊢
    cases found : core.resources[id]? with
    | none => rfl
    | some resource =>
        rw [found] at refused
        dsimp only at refused ⊢
        split_ifs at refused ⊢ <;> rfl

/-- Only the owner can give a resource up, and nothing keeps it from doing so. -/
theorem Consistent.state_of_release_refused (consistent : core.Consistent)
    (refused : ((release id task).run core).result = .error reason) :
    ((release id task).run core).state = core := by
  by_cases owned : core.owns task id
  · obtain ⟨resource, found, owner⟩ := owns_iff.mp owned
    obtain ⟨seen, -, released⟩ := consistent.run_release found owner
    rw [released] at refused
    cases refused
  · obtain ⟨reason, released⟩ := run_release_of_ne fun resource found owner =>
      owned (owns_iff.mpr ⟨resource, found, owner⟩)
    rw [released]

/-- A task that does not exist has nothing to pass on. -/
theorem Consistent.passOwned_of_free (consistent : core.Consistent)
    (free : (core.sched.slot task).state = .free) (ids : List ResourceId) :
    core.passOwned task ids = core := by
  induction ids with
  | nil => rfl
  | cons id rest ih =>
      unfold Core.passOwned
      rw [if_neg, ih]
      intro owned
      obtain ⟨resource, found, owner⟩ := owns_iff.mp owned
      exact consistent.ne_free_of_holdsAt (holdsAt_of_found found owner) free

end Core

namespace Kernel

variable {C α β : Type} {kernel : Kernel C}

/-- The kernel, but for what its source of stacks remembers. -/
def withFreshHeap (kernel : Kernel C) : Kernel C :=
  { kernel with heap := kernel.heap.map StackSource.fresh }

/-- If the operation was refused, then it changed nothing but what the source of stacks
remembers. -/
def Atomic (kernel : Kernel C) (done : Outcome (Kernel C) α) : Prop :=
  ∀ reason, done.result = .error reason → done.state.withFreshHeap = kernel.withFreshHeap

/-! ### Putting calls together -/

theorem atomic_of_state_eq {done : Outcome (Kernel C) α} (same : done.state = kernel) :
    kernel.Atomic done := fun _ _ => congrArg withFreshHeap same

theorem atomic_of_ok {done : Outcome (Kernel C) α} {answer : α}
    (accepted : done.result = .ok answer) : kernel.Atomic done := by
  intro reason refused
  rw [accepted] at refused
  cases refused

theorem atomic_of_neverRefused {action : Action (Kernel C) α} (never : action.NeverRefused) :
    kernel.Atomic (action.run kernel) := by
  obtain ⟨answer, accepted⟩ := never kernel
  exact atomic_of_ok accepted

theorem Refuses.atomic {done : Outcome (Kernel C) α} (refused : Refuses kernel done) :
    kernel.Atomic done := by
  obtain ⟨reason, rfl⟩ := refused
  exact atomic_of_state_eq rfl

/-- What follows on a call does no harm if it cannot be refused. -/
theorem Atomic.bind {first : Action (Kernel C) α} {next : α → Action (Kernel C) β}
    (early : kernel.Atomic (first.run kernel)) (late : ∀ a, (next a).NeverRefused) :
    kernel.Atomic ((first >>= next).run kernel) := by
  intro reason refused
  rw [Action.run_bind] at refused ⊢
  cases done : (first.run kernel).result with
  | error other => exact early other done
  | ok a =>
      obtain ⟨b, accepted⟩ := late a (first.run kernel).state
      rw [done] at refused
      exact nomatch accepted.symm.trans refused

theorem atomic_onCore {action : Action (Core C) α}
    (same : ∀ reason, (action.run kernel.core).result = .error reason →
      (action.run kernel.core).state = kernel.core) :
    kernel.Atomic ((onCore action).run kernel) := by
  intro reason refused
  rw [onCore, Action.run_within] at refused ⊢
  dsimp only at refused ⊢
  rw [same reason refused]

/-- A question changes nothing. -/
theorem atomic_ofExcept (answer : Kernel C → Except Refusal α) :
    kernel.Atomic
      ((Action.get >>= fun kernel => Action.ofExcept (answer kernel)).run kernel) :=
  atomic_of_state_eq rfl

theorem atomic_taskState (kernel : Kernel C) (id : TaskId) :
    kernel.Atomic ((taskState id).run kernel) := by
  rw [taskState, Action.run_get_bind]
  cases kernel.sched.findSlot id <;> exact atomic_of_state_eq rfl

theorem neverRefused_reschedule : (reschedule : Action (Kernel C) Unit).NeverRefused := by
  have decision : (onScheduler Scheduler.reschedule : Action (Kernel C) Bool).NeverRefused := by
    intro kernel
    rw [onScheduler, onCore, Action.run_within, Core.onScheduler, Action.run_within,
      Scheduler.run_reschedule]
    cases kernel.core.sched.decide <;> exact ⟨_, rfl⟩
  apply decision.bind
  intro needed
  split
  · exact Action.neverRefused_modify _
  · exact Action.neverRefused_pure _

/-! ### Tasks -/

/-- Only the source of stacks can still refuse when a declaration has begun. -/
theorem atomic_declare (kernel : Kernel C) (entry : Entry) (priority : Priority)
    (stackWords : Nat) (argument : Int32) :
    kernel.Atomic ((declare entry priority stackWords argument).run kernel) := by
  rcases run_declare kernel entry priority stackWords argument with
    refused | ⟨source, id, heap, -, done⟩
  · exact refused.atomic
  · rw [done]
    dsimp only
    split
    · intro reason refused
      simp [withFreshHeap, heap, StackSource.fresh, StackSource.alloc]
    · exact atomic_of_ok rfl

/-- There is nothing to end in a vacant slot. -/
theorem run_finish_of_free (consistent : kernel.core.Consistent) {id : TaskId}
    (free : (kernel.core.sched.slot id).state = .free) :
    ∃ seen, (finish id).run kernel = ⟨.error .unknownId, kernel, seen⟩ := by
  obtain ⟨seen, -, released⟩ :=
    Core.run_releaseOwned consistent id kernel.core.resourceIds.reverse
  rw [consistent.passOwned_of_free free] at released
  have first : (onCore (Core.releaseAll id)).run kernel = ⟨.ok (), kernel, seen⟩ := by
    rw [onCore, Action.run_within, Core.releaseAll, Action.run_get_bind, released]
  have unknown : kernel.sched.findTask id = .error .unknownId := findTask_eq_error free
  have second : (updateTask id fun task => .ok task.terminate).run kernel =
      ⟨.error .unknownId, kernel, []⟩ := by
    rw [updateTask, Action.run_get_bind, unknown, Action.run_error_bind]
  refine ⟨seen ++ [], ?_⟩
  rw [finish, Action.run_bind_of_ok first, Action.run_bind_of_error second]

/-- Ending a task is refused before the first change, or not at all. -/
theorem atomic_finish (consistent : kernel.core.Consistent) (id : TaskId) :
    kernel.Atomic ((finish id).run kernel) := by
  by_cases free : (kernel.core.sched.slot id).state = .free
  · obtain ⟨seen, refused⟩ := run_finish_of_free consistent free
    exact atomic_of_state_eq (congrArg Outcome.state refused)
  · obtain ⟨seen, -, finished⟩ := run_finish_of_declared consistent free
    exact atomic_of_ok (congrArg Outcome.result finished)

theorem atomic_terminateTask (consistent : kernel.core.Consistent) :
    kernel.Atomic (terminateTask.run kernel) := by
  unfold terminateTask
  have caller := run_callerToEnd kernel
  split at caller
  · exact Refuses.atomic (Refuses.bind ⟨_, caller⟩ _)
  · rw [Action.run_bind_of_ok caller]
    exact (atomic_finish consistent kernel.core.sched.current).bind fun _ =>
      neverRefused_reschedule

variable [Machine C]

/-- When the caller has ended, its successor is there to be started: it is another task, suspended
before as after, or the caller itself. -/
theorem run_ready_of_ended (consistent : kernel.core.Consistent) {caller id : TaskId}
    (target : id = caller ∨ (kernel.core.sched.slot id).state = .suspended)
    (declared : (kernel.core.sched.slot id).state ≠ .free) :
    ∃ after, (ready id).run
      { kernel with
        core := (kernel.core.passOwned caller kernel.core.resourceIds.reverse).modifyTask caller
          Task.terminate } = ⟨.ok (), after, []⟩ := by
  let passed := kernel.core.passOwned caller kernel.core.resourceIds.reverse
  have life := Core.sameLife_passOwned consistent caller id kernel.core.resourceIds.reverse
  have imaged : (passed.sched.slot id).image.isSome := by
    rw [life.image]
    exact (consistent.fits id).image_isSome declared
  have inTable := Scheduler.lt_of_state_ne_free declared
  have startable : ((passed.modifyTask caller Task.terminate).sched.slot id).state = .suspended ∧
      ((passed.modifyTask caller Task.terminate).sched.slot id).image.isSome := by
    rw [Core.slot_modifyTask]
    by_cases self : caller = id
    · rw [if_pos ⟨self, self ▸ inTable⟩]
      exact ⟨rfl, imaged⟩
    · rw [if_neg fun same => self same.1]
      have suspended := target.resolve_left fun same => self same.symm
      refine ⟨?_, imaged⟩
      rw [life.state_eq (by rw [suspended]; decide), suspended]
  obtain ⟨suspended, imaged⟩ := startable
  exact ⟨_, run_updateTask (by rw [suspended]; decide) (Task.activate_started suspended imaged)⟩

/-- Once the caller has ended, nothing keeps its successor from starting. -/
theorem atomic_chainTask (consistent : kernel.core.Consistent) (id : TaskId) :
    kernel.Atomic ((chainTask id).run kernel) := by
  unfold chainTask
  have caller := run_callerToEnd kernel
  split at caller
  · exact Refuses.atomic (Refuses.bind ⟨_, caller⟩ _)
  · rw [Action.run_bind_of_ok caller, Action.run_get_bind]
    change kernel.Atomic ((Action.ofExcept (kernel.core.sched.findTask id) >>= _).run kernel)
    by_cases free : (kernel.core.sched.slot id).state = .free
    · rw [findTask_eq_error free]
      exact atomic_of_state_eq rfl
    · rw [Core.findTask_eq free, Action.run_ok_bind]
      split
      · exact atomic_of_state_eq rfl
      · rename_i idle
        have target : id = kernel.core.sched.current ∨
            (kernel.core.sched.slot id).state = .suspended := by
          by_cases self : id = kernel.core.sched.current
          · exact .inl self
          · exact .inr (Decidable.not_not.mp fun active => idle ⟨self, active⟩)
        by_cases vacant : (kernel.core.sched.slot kernel.core.sched.current).state = .free
        · obtain ⟨seen, refused⟩ := run_finish_of_free consistent vacant
          rw [Action.run_bind_of_error refused]
          exact atomic_of_state_eq rfl
        · obtain ⟨seen, -, finished⟩ := run_finish_of_declared consistent vacant
          obtain ⟨after, started⟩ := run_ready_of_ended consistent target free
          obtain ⟨answer, accepted⟩ := neverRefused_reschedule after
          rw [Action.run_bind_of_ok finished, Action.run_bind_of_ok started, Action.run_log_bind]
          exact atomic_of_ok accepted

theorem atomic_activateTask (sound : kernel.core.Sound) (id : TaskId) :
    kernel.Atomic ((activateTask id).run kernel) := by
  rcases activateTask_makes sound id with makes | refused
  · exact atomic_of_ok makes.result
  · exact refused.atomic

/-! ### Resources, events and alarms -/

omit [Machine C] in
theorem atomic_getResource (kernel : Kernel C) (id : ResourceId) :
    kernel.Atomic ((getResource id).run kernel) := by
  rw [getResource, Action.run_get_bind]
  apply Atomic.bind
  · exact atomic_onCore fun _ => Core.state_of_acquire_refused
  · intro outcome
    exact neverRefused_reschedule.bind fun _ => Action.neverRefused_pure outcome

omit [Machine C] in
theorem atomic_releaseResource (consistent : kernel.core.Consistent) (id : ResourceId) :
    kernel.Atomic ((releaseResource id).run kernel) := by
  rw [releaseResource, Action.run_get_bind]
  apply Atomic.bind
  · exact atomic_onCore fun _ => consistent.state_of_release_refused
  · exact fun _ => neverRefused_reschedule

theorem atomic_setEvent (sound : kernel.core.Sound) (id : TaskId) (mask : EventMask) :
    kernel.Atomic ((setEvent id mask).run kernel) := by
  rcases setEvent_makes sound id mask with makes | makes | refused
  · exact atomic_of_ok makes.result
  · exact atomic_of_ok makes.result
  · exact refused.atomic

omit [Machine C] in
theorem atomic_waitEvent (kernel : Kernel C) (mask : EventMask) :
    kernel.Atomic ((waitEvent mask).run kernel) := by
  apply Atomic.bind
  · apply atomic_onCore
    intro reason refused
    rw [Core.onScheduler, Action.run_within, Scheduler.run_waitEvent] at refused ⊢
    dsimp only at refused ⊢
    split_ifs at refused ⊢
    rfl
  · intro blocked
    cases blocked with
    | false => exact Action.neverRefused_pure ()
    | true => exact neverRefused_reschedule

omit [Machine C] in
/-- A new table of alarms is there before the old one is given up. -/
theorem atomic_updateAlarms (kernel : Kernel C) (f : AlarmTable → Except Refusal AlarmTable) :
    kernel.Atomic ((updateAlarms f).run kernel) := by
  rw [updateAlarms, Action.run_get_bind]
  cases f kernel.alarms with
  | error reason => exact atomic_of_state_eq rfl
  | ok alarms => exact atomic_of_ok rfl

theorem atomic_serve (sound : kernel.core.Sound) (call : InterruptCall) :
    kernel.Atomic ((serve call).run kernel) := by
  cases call with
  | activateTask target => exact atomic_activateTask sound target
  | setEvent target mask => exact atomic_setEvent sound target mask

/-! ### Ticks -/

theorem neverRefused_runHandler (tag : Nat) (handler : Handler) :
    (runHandler tag handler : Action (Kernel C) Unit).NeverRefused := by
  induction handler with
  | done => exact Action.neverRefused_pure ()
  | call request next ih =>
      exact (Action.neverRefused_attempt _).bind fun result =>
        (Action.neverRefused_emit _).bind fun _ => ih result
  | note severity message next ih => exact (Action.neverRefused_emit _).bind fun _ => ih

theorem neverRefused_runAlarm (action : AlarmAction) :
    (runAlarm action : Action (Kernel C) Unit).NeverRefused := by
  cases action with
  | service request =>
      apply (Action.neverRefused_attempt _).bind
      intro result
      cases result with
      | ok => exact Action.neverRefused_pure ()
      | error reason => exact Action.neverRefused_emit _
  | callback code =>
      exact (Action.neverRefused_emit _).bind fun _ => neverRefused_runHandler code.tag code.body

theorem neverRefused_runAlarms (actions : List AlarmAction) :
    (runAlarms actions : Action (Kernel C) Unit).NeverRefused := by
  induction actions with
  | nil => exact Action.neverRefused_pure ()
  | cons action rest ih => exact (neverRefused_runAlarm action).bind fun _ => ih

/-- A tick never fails. -/
theorem neverRefused_tick : (tick : Action (Kernel C) Unit).NeverRefused := by
  have expired : AlarmTable.expire.NeverRefused :=
    fun table => ⟨_, congrArg Outcome.result table.run_expire⟩
  apply (expired.within _ _).bind
  intro due
  apply (neverRefused_runAlarms due).bind
  intro _
  exact (Action.neverRefused_modify _).within _ _

/-! ### All calls -/

/-- The calls that can be made on a kernel, by a task or an interrupt, directly, as a request or as
a trap. -/
inductive Call : {α : Type} → Action (Kernel C) α → Prop where
  | declare (entry : Entry) (priority : Priority) (stackWords : Nat) (argument : Int32) :
      Call (Kernel.declare entry priority stackWords argument)
  | activateTask (id : TaskId) : Call (Kernel.activateTask id)
  | terminateTask : Call Kernel.terminateTask
  | chainTask (id : TaskId) : Call (Kernel.chainTask id)
  | taskId : Call Kernel.taskId
  | taskState (id : TaskId) : Call (Kernel.taskState id)
  | getResource (id : ResourceId) : Call (Kernel.getResource id)
  | releaseResource (id : ResourceId) : Call (Kernel.releaseResource id)
  | setEvent (id : TaskId) (mask : EventMask) : Call (Kernel.setEvent id mask)
  | clearEvent (mask : EventMask) : Call (Kernel.clearEvent mask)
  | getEvent (id : TaskId) : Call (Kernel.getEvent id)
  | waitEvent (mask : EventMask) : Call (Kernel.waitEvent mask)
  | alarmBase (id : AlarmId) : Call (Kernel.alarmBase id)
  | getAlarm (id : AlarmId) : Call (Kernel.getAlarm id)
  | setRelativeAlarm (id : AlarmId) (increment cycle : Tick) :
      Call (Kernel.setRelativeAlarm id increment cycle)
  | setAbsoluteAlarm (id : AlarmId) (start cycle : Tick) :
      Call (Kernel.setAbsoluteAlarm id start cycle)
  | cancelAlarm (id : AlarmId) : Call (Kernel.cancelAlarm id)
  | print (message : String) : Call (Kernel.print message)
  | serve (call : InterruptCall) : Call (Kernel.serve call)
  | tick : Call Kernel.tick
  | switchContext (outgoing : C) : Call (Kernel.switchContext outgoing)
  | perform (request : Request) : Call (Kernel.perform request)
  | performTrap (memory : Memory) (number : Nat) (words : Registers) :
      Call (Kernel.performTrap memory number words)

theorem atomic_perform (sound : kernel.core.Sound) (request : Request) :
    kernel.Atomic ((perform request).run kernel) := by
  have consistent := sound.toConsistent
  have answered : ∀ {β : Type} {action : Action (Kernel C) β} {reply : β → Reply},
      kernel.Atomic (action.run kernel) →
      kernel.Atomic ((action >>= fun answer => pure (reply answer)).run kernel) :=
    fun atomic => atomic.bind fun _ => Action.neverRefused_pure _
  cases request with
  | debug message => exact answered (atomic_of_ok rfl)
  | declare entry priority stackWords argument =>
      exact answered (atomic_declare kernel entry priority stackWords argument)
  | activateTask task => exact answered (atomic_activateTask sound task)
  | terminateTask => exact answered (atomic_terminateTask consistent)
  | chainTask task => exact answered (atomic_chainTask consistent task)
  | getTaskId => exact answered (atomic_of_ok rfl)
  | getTaskState task => exact answered (atomic_taskState kernel task)
  | getResource resource => exact answered (atomic_getResource kernel resource)
  | releaseResource resource => exact answered (atomic_releaseResource consistent resource)
  | setEvent task mask => exact answered (atomic_setEvent sound task mask)
  | clearEvent mask => exact answered (atomic_of_ok rfl)
  | getEvent task => exact answered (atomic_ofExcept _)
  | waitEvent mask => exact answered (atomic_waitEvent kernel mask)
  | getAlarmBase alarm => exact answered (atomic_ofExcept _)
  | getAlarm alarm => exact answered (atomic_ofExcept _)
  | setRelAlarm alarm increment cycle => exact answered (atomic_updateAlarms kernel _)
  | setAbsAlarm alarm start cycle => exact answered (atomic_updateAlarms kernel _)
  | cancelAlarm alarm => exact answered (atomic_updateAlarms kernel _)

/-- A trap that cannot be read is refused at once. -/
theorem atomic_performTrap (sound : kernel.core.Sound) (memory : Memory) (number : Nat)
    (words : Registers) : kernel.Atomic ((performTrap memory number words).run kernel) := by
  rw [performTrap]
  cases Request.decode memory number words with
  | error reason => exact atomic_of_state_eq rfl
  | ok request => exact atomic_perform sound request

theorem Call.atomic (sound : kernel.core.Sound) {action : Action (Kernel C) α}
    (call : Call action) : kernel.Atomic (action.run kernel) := by
  have consistent := sound.toConsistent
  cases call with
  | declare entry priority stackWords argument =>
      exact atomic_declare kernel entry priority stackWords argument
  | activateTask id => exact atomic_activateTask sound id
  | terminateTask => exact atomic_terminateTask consistent
  | chainTask id => exact atomic_chainTask consistent id
  | taskId => exact atomic_of_ok rfl
  | taskState id => exact atomic_taskState kernel id
  | getResource id => exact atomic_getResource kernel id
  | releaseResource id => exact atomic_releaseResource consistent id
  | setEvent id mask => exact atomic_setEvent sound id mask
  | clearEvent mask => exact atomic_of_ok rfl
  | getEvent id => exact atomic_ofExcept _
  | waitEvent mask => exact atomic_waitEvent kernel mask
  | alarmBase id => exact atomic_ofExcept _
  | getAlarm id => exact atomic_ofExcept _
  | setRelativeAlarm id increment cycle => exact atomic_updateAlarms kernel _
  | setAbsoluteAlarm id start cycle => exact atomic_updateAlarms kernel _
  | cancelAlarm id => exact atomic_updateAlarms kernel _
  | print message => exact atomic_of_ok rfl
  | serve call => exact atomic_serve sound call
  | tick => exact atomic_of_neverRefused neverRefused_tick
  | switchContext outgoing =>
      exact atomic_of_ok (congrArg Outcome.result (run_switchContext sound outgoing))
  | perform request => exact atomic_perform sound request
  | performTrap memory number words => exact atomic_performTrap sound memory number words

end Kernel

namespace Execution

variable {C : Type} [Machine C] {admits : Step C → Prop} {config : Configuration}
  {steps : List (Step C)} {kernel : Kernel C}

/-- A call that is refused leaves the kernel as it was, but for what the source of stacks
remembers, and a trap that is refused answers with the code of the reason and three zeros. -/
theorem refused_unchanged (execution : Execution admits config steps kernel) :
    (∀ (α : Type) (call : Action (Kernel C) α) (reason : Refusal), Kernel.Call call →
      (call.run kernel).result = .error reason →
      (call.run kernel).state.withFreshHeap = kernel.withFreshHeap) ∧
    ∀ (memory : Memory) (number : Nat) (words : Registers) (reason : Refusal),
      ((Kernel.performTrap memory number words).run kernel).result = .error reason →
      ((Kernel.handleTrap memory number words).run kernel).result =
          .ok { r0 := UInt64.ofNat reason.code, r1 := 0, r2 := 0, r3 := 0 } ∧
        ((Kernel.handleTrap memory number words).run kernel).state.withFreshHeap =
          kernel.withFreshHeap := by
  have sound := execution.core_sound
  constructor
  · intro α call reason known refused
    exact known.atomic sound reason refused
  · intro memory number words reason refused
    have unchanged := Kernel.atomic_performTrap sound memory number words reason refused
    rw [Kernel.run_handleTrap, refused]
    exact ⟨rfl, unchanged⟩

/-- A task owns a resource while a more urgent one is ready and the source of stacks is empty. -/
def cornered : List (Operation FrameIndex) :=
  [.launch ⟨0⟩, .install (.budget 0), .request (.getResource 0), .request (.activateTask 2)]

set_option maxRecDepth 8000 in
theorem refused_cornered :
    ∃ (steps : List (Step FrameIndex)) (kernel : Kernel FrameIndex),
      Execution (fun _ => True) (Configuration.pair 2) steps kernel ∧
        ((Kernel.chainTask 2).run kernel).result = .error .alreadyActive ∧
        ((Kernel.chainTask 2).run kernel).state.withFreshHeap = kernel.withFreshHeap ∧
        ((Kernel.declare 0x400 7 64 0).run kernel).result = .error .exhausted ∧
        ((Kernel.declare 0x400 7 64 0).run kernel).state.withFreshHeap = kernel.withFreshHeap ∧
        ((Kernel.handleTrap (fun _ _ => ByteArray.empty) 99 {}).run kernel).result =
          .ok { r0 := 5, r1 := 0, r2 := 0, r3 := 0 } := by
  have execution : Execution (fun _ => True) (Configuration.pair 2) (pairSteps 2 cornered)
      (pairReached 2 cornered) :=
    of_pair (by decide) (by decide) (by decide)
  obtain ⟨unchanged, answered⟩ := execution.refused_unchanged
  have chained : ((Kernel.chainTask 2).run (pairReached 2 cornered)).result =
      .error .alreadyActive := rfl
  have declared : ((Kernel.declare 0x400 7 64 0).run (pairReached 2 cornered)).result =
      .error .exhausted := rfl
  have trapped := answered (fun _ _ => ByteArray.empty) 99 {} .notPermitted rfl
  exact ⟨_, _, execution, chained, unchanged _ _ _ (.chainTask 2) chained, declared,
    unchanged _ _ _ (.declare 0x400 7 64 0) declared, trapped.1⟩

end Execution

end Rtos
