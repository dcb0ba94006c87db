/-
Module: Rtos.Proofs.Services
Purpose: What the services of the kernel come down to.  Each of them makes one allowed move at most,
  and one that is refused makes none.
Main definitions: Situation, Situation.make, Situation.Sound, Kernel.Makes, Kernel.Refuses,
  Kernel.finishInOrder
Main statements: one lemma for each service, and `Situation.Sound.make`
-/
import Rtos.Kernel.Services
import Rtos.Proofs.Move
import Rtos.Proofs.Switch

namespace Rtos

/-- The part of the kernel that settles who runs: the tasks and resources, and whether the machine
has been asked for a switch. -/
structure Situation (C : Type) where
  core : Core C
  pending : Bool

namespace Situation

variable {C : Type} [Machine C] {situation : Situation C} {move : Move}

/-- The situation after a move.  A decision that needs a switch asks for it. -/
def make (situation : Situation C) (move : Move) : Situation C where
  core := move.apply situation.core
  pending := situation.pending || (move.decides && (move.apply situation.core).sched.needsSwitch)

/-- A task that is chosen but not on the CPU with its registers is on its way there. -/
structure Sound (situation : Situation C) : Prop where
  core : situation.core.Sound
  settled : situation.pending = false → situation.core.Settled

/-- Without a decision, what is on the CPU stays there. -/
theorem settled_edit {core : Core C} (allowed : move.Allowed core) (sound : core.Sound)
    (quiet : move.decides = false) (settled : core.Settled) : (move.edit core).Settled := by
  obtain ⟨chosen, live⟩ := settled
  obtain ⟨current, selected⟩ := move.cursors_edit core
  refine ⟨by rw [current, selected, chosen], ?_⟩
  rw [current, ← live]
  have permitted := allowed.permitted
  cases move with
  | declare other spec =>
      rw [Move.edit, Core.slot_modifyTask, if_neg]
      rintro ⟨rfl, -⟩
      have dormant := (sound.fits core.sched.current).dormant_iff.mpr (by rw [permitted.2]; rfl)
      rw [live] at dormant
      cases dormant
  | deliver other mask =>
      rw [Move.edit, Core.slot_modifyTask]
      split <;> rfl
  | clear mask =>
      rw [Move.edit, Core.slot_modifyTask]
      split <;> rfl
  | _ => cases quiet

/-- A move that is allowed loses no switch. -/
theorem Sound.make (sound : situation.Sound) (allowed : move.Allowed situation.core) :
    (situation.make move).Sound where
  core := allowed.sound sound.core
  settled := by
    intro idle
    obtain ⟨before, unasked⟩ := Bool.or_eq_false_iff.mp idle
    cases decides : move.decides with
    | true =>
        rw [decides, Bool.true_and, Scheduler.needsSwitch_eq_false_iff] at unasked
        obtain ⟨chosen, live⟩ := unasked
        rw [chosen] at live
        exact ⟨chosen, live⟩
    | false =>
        have edited : (situation.make move).core = move.edit situation.core := by
          change move.apply situation.core = _
          rw [Move.apply, decides]
          rfl
        rw [edited]
        exact settled_edit allowed sound.core decides (sound.settled before)

end Situation

namespace Scheduler

variable {C : Type} {sched : Scheduler C} {id : TaskId}

theorem findSlot_eq (inTable : id < maxTasks) : sched.findSlot id = .ok (sched.slot id) := by
  rw [findSlot, slot, Vector.getElem?_eq_getElem inTable]
  rfl

theorem eventTarget_eq (active : (sched.slot id).state.isActive) :
    sched.eventTarget id = .ok (sched.slot id) := by
  rw [eventTarget, findSlot_eq (lt_of_isActive active)]
  exact if_pos active

theorem eventTarget_of_inactive (inTable : id < maxTasks)
    (inactive : ¬ (sched.slot id).state.isActive) :
    sched.eventTarget id = .error .wrongState := by
  rw [eventTarget, findSlot_eq inTable]
  exact if_neg inactive

/-- Only active tasks can be sent events. -/
theorem eventTarget_eq_error (inactive : ¬ (sched.slot id).state.isActive) :
    ∃ reason, sched.eventTarget id = .error reason := by
  by_cases inTable : id < maxTasks
  · exact ⟨.wrongState, eventTarget_of_inactive inTable inactive⟩
  · rw [eventTarget, findSlot, Vector.getElem?_eq_none (Nat.le_of_not_lt inTable)]
    exact ⟨.unknownId, rfl⟩

/-- Events are delivered to an active task, and wake it if it waits for one of them. -/
theorem run_setEvent (active : (sched.slot id).state.isActive) (mask : EventMask) :
    (setEvent id mask).run sched =
      if ((sched.slot id).deliver mask).hasAwaited then
        ⟨.ok true, sched.modify id fun task => (task.deliver mask).wake, []⟩
      else ⟨.ok false, sched.modify id (Task.deliver mask), []⟩ := by
  unfold setEvent
  rw [Action.run_get_bind, eventTarget_eq active, Action.run_ok_bind, Action.run_modify_bind,
    Action.run_get_bind, slot_modify_self (lt_of_isActive active)]
  split
  · rw [Action.run_modify_bind, modify_modify]
    rfl
  · rfl

/-- How a wait for events ends, whatever the state. -/
theorem run_waitEvent (mask : EventMask) (sched : Scheduler C) :
    (waitEvent mask).run sched =
      if (sched.slot sched.current).eventFlags &&& mask ≠ 0 then ⟨.ok false, sched, []⟩
      else if sched.current = idleTask then ⟨.error .notPermitted, sched, []⟩
      else ⟨.ok true, sched.modify sched.current (Task.await mask), []⟩ := by
  unfold waitEvent
  rw [Action.run_get_bind]
  change (if (sched.slot sched.current).eventFlags &&& mask ≠ 0 then _ else _ :
    Action (Scheduler C) Bool).run sched = _
  split
  · rfl
  · split <;> rfl

end Scheduler

namespace Kernel

variable {C α : Type} [Machine C] {kernel : Kernel C} {move : Move}

/-- What settles who runs. -/
def situation (kernel : Kernel C) : Situation C := ⟨kernel.core, kernel.line.pending⟩

/-- A service succeeds by making one move. -/
structure Makes (kernel : Kernel C) (move : Move) (answer : α) (done : Outcome (Kernel C) α) :
    Prop where
  allowed : move.Allowed kernel.core
  result : done.result = .ok answer
  situation : done.state.situation = kernel.situation.make move
  shown : activations done.trace = move.activates?.toList

/-- A service is refused, and leaves nothing behind. -/
def Refuses (kernel : Kernel C) (done : Outcome (Kernel C) α) : Prop :=
  ∃ reason, done = ⟨.error reason, kernel, []⟩

/-! ### Decisions -/

/-- The kernel after a decision, with the request for a switch if it needs one. -/
def redecided (kernel : Kernel C) : Kernel C :=
  { kernel with
    core := kernel.core.decided
    line := if kernel.core.decided.sched.needsSwitch then kernel.line.request else kernel.line }

omit [Machine C] in
/-- As long as the idle task can run, there is a task to choose. -/
theorem run_reschedule_of_idle (idle : (kernel.core.sched.slot idleTask).state.isRunnable) :
    reschedule.run kernel = ⟨.ok (), kernel.redecided, kernel.core.sched.decisionTrace⟩ := by
  have decision : (onScheduler Scheduler.reschedule).run kernel =
      ⟨.ok kernel.core.decided.sched.needsSwitch, { kernel with core := kernel.core.decided },
        kernel.core.sched.decisionTrace⟩ := by
    obtain ⟨next, chosen⟩ := Scheduler.exists_decide idle
    rw [onScheduler, onCore, Action.run_within, Core.onScheduler, Action.run_within,
      Scheduler.run_reschedule, chosen]
    rfl
  unfold reschedule redecided
  rw [Action.run_bind_of_ok decision]
  cases needs : kernel.core.decided.sched.needsSwitch <;> simp [requestSwitch]

omit [Machine C] in
theorem run_reschedule (consistent : kernel.core.Consistent) :
    reschedule.run kernel = ⟨.ok (), kernel.redecided, kernel.core.sched.decisionTrace⟩ :=
  run_reschedule_of_idle consistent.steady.idle

/-- A change followed by a decision is a move. -/
theorem makes_redecided {edited : Kernel C} {seen : Trace} {answer : α}
    (allowed : move.Allowed kernel.core) (decides : move.decides)
    (core : edited.core = move.edit kernel.core) (line : edited.line = kernel.line)
    (shown : activations seen = move.activates?.toList) :
    kernel.Makes move answer ⟨.ok answer, edited.redecided, seen⟩ where
  allowed := allowed
  result := rfl
  situation := by
    have applied : move.apply kernel.core = edited.core.decided := by
      rw [Move.apply, if_pos decides, core]
    unfold Kernel.situation Situation.make redecided
    dsimp only
    rw [applied, decides, Bool.true_and, line]
    split
    · rename_i needs
      rw [needs, Bool.or_true]
      rfl
    · rename_i needs
      rw [Bool.eq_false_iff.mpr needs, Bool.or_false]
  shown := shown

/-- A change on which no decision follows is a move as it stands. -/
theorem makes_edited {edited : Kernel C} {seen : Trace} {answer : α}
    (allowed : move.Allowed kernel.core) (quiet : move.decides = false)
    (core : edited.core = move.edit kernel.core) (line : edited.line = kernel.line)
    (shown : activations seen = move.activates?.toList) :
    kernel.Makes move answer ⟨.ok answer, edited, seen⟩ where
  allowed := allowed
  result := rfl
  situation := by
    have applied : move.apply kernel.core = edited.core := by
      rw [Move.apply, quiet, core]
      rfl
    unfold Kernel.situation Situation.make
    dsimp only
    rw [applied, quiet, Bool.false_and, Bool.or_false, line]
  shown := shown

/-! ### Tasks -/

omit [Machine C] in
theorem findTask_eq_error {sched : Scheduler C} {id : TaskId}
    (free : (sched.slot id).state = .free) : sched.findTask id = .error .unknownId := if_pos free

omit [Machine C] in
/-- A declared task is updated if it allows it as it stands. -/
theorem run_updateTask_of_declared {id : TaskId} {f : Task C → Except Refusal (Task C)}
    (declared : (kernel.core.sched.slot id).state ≠ .free) :
    (updateTask id f).run kernel =
      match f (kernel.core.sched.slot id) with
      | .ok fresh => ⟨.ok (), { kernel with core := kernel.core.modifyTask id fun _ => fresh }, []⟩
      | .error reason => ⟨.error reason, kernel, []⟩ := by
  unfold updateTask
  rw [Action.run_get_bind]
  change (Action.ofExcept (kernel.core.sched.findTask id) >>= _).run kernel = _
  rw [Core.findTask_eq declared, Action.run_ok_bind]
  cases f (kernel.core.sched.slot id) <;> rfl

omit [Machine C] in
/-- An update that the task as it stands allows. -/
theorem run_updateTask {id : TaskId} {f : Task C → Except Refusal (Task C)} {fresh : Task C}
    (declared : (kernel.core.sched.slot id).state ≠ .free)
    (updated : f (kernel.core.sched.slot id) = .ok fresh) :
    (updateTask id f).run kernel =
      ⟨.ok (), { kernel with core := kernel.core.modifyTask id fun _ => fresh }, []⟩ := by
  rw [run_updateTask_of_declared declared, updated]

/-- A suspended task is made ready. -/
theorem run_ready (consistent : kernel.core.Consistent) {id : TaskId}
    (suspended : (kernel.core.sched.slot id).state = .suspended) :
    (ready id).run kernel = ⟨.ok (), { kernel with core := kernel.core.start id }, []⟩ := by
  have declared : (kernel.core.sched.slot id).state ≠ .free := by
    rw [suspended]
    decide
  exact run_updateTask declared (consistent.activate_started suspended)

omit [Machine C] in
/-- An update that is refused for the task as it stands. -/
theorem run_updateTask_of_error {id : TaskId} {f : Task C → Except Refusal (Task C)}
    (refused : ∀ fresh, f (kernel.core.sched.slot id) ≠ .ok fresh) :
    Refuses kernel ((updateTask id f).run kernel) := by
  by_cases free : (kernel.core.sched.slot id).state = .free
  · unfold updateTask
    rw [Action.run_get_bind]
    change Refuses kernel ((Action.ofExcept (kernel.core.sched.findTask id) >>= _).run kernel)
    rw [findTask_eq_error free]
    exact ⟨.unknownId, rfl⟩
  · rw [run_updateTask_of_declared free]
    cases updated : f (kernel.core.sched.slot id) with
    | ok fresh => exact absurd updated (refused fresh)
    | error reason => exact ⟨reason, rfl⟩

omit [Machine C] in
/-- A refusal is the end of what follows. -/
theorem Refuses.bind {β : Type} {first : Action (Kernel C) α}
    (refused : Refuses kernel (first.run kernel)) (next : α → Action (Kernel C) β) :
    Refuses kernel ((first >>= next).run kernel) := by
  obtain ⟨reason, done⟩ := refused
  exact ⟨reason, Action.run_bind_of_error done next⟩

/-- Activation starts a suspended task, and is refused for any other. -/
theorem activateTask_makes (sound : kernel.core.Sound) (id : TaskId) :
    kernel.Makes (.start id) () ((activateTask id).run kernel) ∨
      Refuses kernel ((activateTask id).run kernel) := by
  unfold activateTask
  by_cases suspended : (kernel.core.sched.slot id).state = .suspended
  · refine .inl ?_
    have allowed : Move.Allowed kernel.core (.start id) := ⟨suspended, nofun⟩
    rw [Action.run_bind_of_ok (run_ready sound.toConsistent suspended), Action.run_log_bind,
      run_reschedule (allowed.consistent sound)]
    exact makes_redecided allowed rfl rfl rfl (by simp [Observation.activated?, Move.activates?])
  · refine .inr ((run_updateTask_of_error ?_).bind _)
    exact fun fresh activated => suspended (Task.suspended_of_activate activated)

/-- End a task, and release what it owns of the listed resources in their order. -/
def finishInOrder (order : List ResourceId) (id : TaskId) : Action (Kernel C) Unit := do
  onCore (Core.releaseOwned id order)
  updateTask id fun task => .ok task.terminate
  Action.log (.terminated id)

omit [Machine C] in
/-- The kernel releases from the last resource of the table to the first. -/
theorem run_finish_eq (kernel : Kernel C) (id : TaskId) :
    (finish id).run kernel = (finishInOrder kernel.core.resourceIds.reverse id).run kernel := rfl

omit [Machine C] in
/-- The end of a declared task, whatever its state: what it owns is passed on first. -/
theorem run_finishInOrder (consistent : kernel.core.Consistent) {id : TaskId}
    (declared : (kernel.core.sched.slot id).state ≠ .free) (order : List ResourceId) :
    ∃ seen, activations seen = [] ∧
      (finishInOrder order id).run kernel =
        ⟨.ok (), { kernel with
          core := (kernel.core.passOwned id order).modifyTask id Task.terminate }, seen⟩ := by
  obtain ⟨seen, quiet, released⟩ := Core.run_releaseOwned consistent id order
  have life := Core.sameLife_passOwned consistent id id order
  let passed : Kernel C := { kernel with core := kernel.core.passOwned id order }
  have first : (onCore (Core.releaseOwned id order)).run kernel = ⟨.ok (), passed, seen⟩ := by
    rw [onCore, Action.run_within, released]
  have second : (updateTask id fun task => .ok task.terminate).run passed =
      ⟨.ok (), { kernel with core := passed.core.modifyTask id Task.terminate }, []⟩ :=
    run_updateTask (life.ne_free declared) rfl
  refine ⟨seen ++ [.logged (.terminated id)], ?_, ?_⟩
  · rw [activations_append, quiet]
    rfl
  · unfold finishInOrder
    rw [Action.run_bind_of_ok first, Action.run_bind_of_ok second]
    rfl

omit [Machine C] in
theorem run_finish_of_declared (consistent : kernel.core.Consistent) {id : TaskId}
    (declared : (kernel.core.sched.slot id).state ≠ .free) :
    ∃ seen, activations seen = [] ∧
      (finish id).run kernel =
        ⟨.ok (), { kernel with
          core := (kernel.core.passOwned id kernel.core.resourceIds.reverse).modifyTask id
            Task.terminate }, seen⟩ :=
  run_finishInOrder consistent declared kernel.core.resourceIds.reverse

omit [Machine C] in
/-- The end of the calling task, before the decision. -/
theorem run_finish (sound : kernel.core.Sound)
    (chosen : kernel.core.sched.selected = kernel.core.sched.current) :
    ∃ seen, activations seen = [] ∧
      (finish kernel.core.sched.current).run kernel =
        ⟨.ok (), { kernel with core := kernel.core.finish }, seen⟩ :=
  run_finish_of_declared sound.toConsistent
    (TaskState.ne_free_of_isRunnable (sound.current_runnable chosen))

omit [Machine C] in
theorem run_callerToEnd (kernel : Kernel C) :
    callerToEnd.run kernel =
      if kernel.core.sched.current = idleTask then ⟨.error .notPermitted, kernel, []⟩
      else ⟨.ok kernel.core.sched.current, kernel, []⟩ := by
  unfold callerToEnd
  rw [Action.run_get_bind]
  change (if kernel.core.sched.current = idleTask then _ else _ : Action (Kernel C) TaskId).run
    kernel = _
  split <;> rfl

/-- A task other than the idle task ends when it asks to. -/
theorem terminateTask_makes (sound : kernel.core.Sound)
    (chosen : kernel.core.sched.selected = kernel.core.sched.current) :
    kernel.Makes .finish () (terminateTask.run kernel) ∨
      Refuses kernel (terminateTask.run kernel) := by
  unfold terminateTask
  have caller := run_callerToEnd kernel
  split at caller
  · exact .inr (Refuses.bind ⟨_, caller⟩ _)
  · rename_i notIdle
    refine .inl ?_
    obtain ⟨seen, quiet, finished⟩ := run_finish sound chosen
    have allowed : Move.Allowed kernel.core .finish := ⟨notIdle, fun _ => chosen⟩
    rw [Action.run_bind_of_ok caller, Action.run_bind_of_ok finished,
      run_reschedule (allowed.consistent sound)]
    refine makes_redecided allowed rfl rfl rfl ?_
    simp [quiet, Move.activates?]

/-- A task other than the idle task hands over to a suspended task, or to itself. -/
theorem chainTask_makes (sound : kernel.core.Sound)
    (chosen : kernel.core.sched.selected = kernel.core.sched.current) (id : TaskId) :
    kernel.Makes (.chain id) () ((chainTask id).run kernel) ∨
      Refuses kernel ((chainTask id).run kernel) := by
  unfold chainTask
  have caller := run_callerToEnd kernel
  split at caller
  · exact .inr (Refuses.bind ⟨_, caller⟩ _)
  · rename_i notIdle
    have inTable := Scheduler.lt_of_isRunnable (sound.current_runnable chosen)
    rw [Action.run_bind_of_ok caller, Action.run_get_bind]
    change kernel.Makes _ _ ((Action.ofExcept (kernel.core.sched.findTask id) >>= _).run kernel) ∨
      Refuses kernel ((Action.ofExcept (kernel.core.sched.findTask id) >>= _).run kernel)
    by_cases free : (kernel.core.sched.slot id).state = .free
    · rw [findTask_eq_error free]
      exact .inr ⟨.unknownId, rfl⟩
    · rw [Core.findTask_eq free, Action.run_ok_bind]
      by_cases busy : id ≠ kernel.core.sched.current ∧
          (kernel.core.sched.slot id).state ≠ .suspended
      · rw [if_pos busy]
        exact .inr ⟨.alreadyActive, rfl⟩
      · rw [if_neg busy]
        have target : id = kernel.core.sched.current ∨
            (kernel.core.sched.slot id).state = .suspended := by
          by_cases self : id = kernel.core.sched.current
          · exact .inl self
          · exact .inr (Decidable.not_not.mp fun active => busy ⟨self, active⟩)
        refine .inl ?_
        obtain ⟨seen, quiet, finished⟩ := run_finish sound chosen
        have runnable := sound.current_runnable chosen
        have consistent := sound.toConsistent
        have started : (ready id).run { kernel with core := kernel.core.finish } =
            ⟨.ok (), { kernel with core := kernel.core.finish.start id }, []⟩ :=
          run_ready (consistent.finish notIdle runnable)
            (Core.suspended_finish consistent inTable target)
        have allowed : Move.Allowed kernel.core (.chain id) := ⟨⟨notIdle, target⟩, fun _ => chosen⟩
        rw [Action.run_bind_of_ok finished, Action.run_bind_of_ok started, Action.run_log_bind,
          run_reschedule (allowed.consistent sound)]
        refine makes_redecided allowed rfl rfl rfl ?_
        simp [quiet, Move.activates?, Observation.activated?]

/-! ### Resources -/

omit [Machine C] in
theorem run_onCore {β : Type} {action : Action (Core C) β} {answer : β} {after : Core C}
    {seen : Trace} (done : action.run kernel.core = ⟨.ok answer, after, seen⟩) :
    (onCore action).run kernel = ⟨.ok answer, { kernel with core := after }, seen⟩ := by
  rw [onCore, Action.run_within, done]

omit [Machine C] in
theorem refuses_onCore {β : Type} {action : Action (Core C) β} {reason : Refusal}
    (done : action.run kernel.core = ⟨.error reason, kernel.core, []⟩) :
    Refuses kernel ((onCore action).run kernel) :=
  ⟨reason, by rw [onCore, Action.run_within, done]⟩

/-- A request for a resource is granted, or blocks the caller, or is refused. -/
theorem getResource_makes (sound : kernel.core.Sound)
    (chosen : kernel.core.sched.selected = kernel.core.sched.current) (id : ResourceId) :
    kernel.Makes (.take id) .granted ((getResource id).run kernel) ∨
      kernel.Makes (.queue id) .blocked ((getResource id).run kernel) ∨
      Refuses kernel ((getResource id).run kernel) := by
  have runnable := sound.current_runnable chosen
  have acquired := Core.run_acquire id (TaskState.ne_free_of_isRunnable runnable)
  have service : (getResource id).run kernel =
      (onCore (Core.acquire id kernel.core.sched.current) >>= fun outcome =>
        reschedule >>= fun _ => pure outcome).run kernel := by
    simp only [getResource, Action.run_get_bind, Kernel.current, Kernel.sched]
  rw [service]
  cases found : kernel.core.resources[id]? with
  | none =>
      rw [found] at acquired
      exact .inr (.inr ((refuses_onCore acquired).bind _))
  | some resource =>
      rw [found] at acquired
      dsimp only at acquired
      split at acquired
      · exact .inr (.inr ((refuses_onCore acquired).bind _))
      · rename_i entitled
        obtain ⟨apart, entitled⟩ := not_or.mp entitled
        split at acquired
        · rename_i free
          have allowed : Move.Allowed kernel.core (.take id) :=
            ⟨⟨resource, found, free, Nat.le_of_not_lt entitled⟩, fun _ => chosen⟩
          have edit : Move.edit kernel.core (.take id) =
              kernel.core.take id resource.ceiling kernel.core.sched.current := by
            rw [Move.edit, found]
          have consistent := allowed.consistent sound
          rw [edit] at consistent
          refine .inl ?_
          rw [Action.run_bind_of_ok (run_onCore acquired), Action.run_bind_of_ok
            (run_reschedule consistent)]
          exact makes_redecided allowed rfl edit.symm rfl
            (by simp [Observation.activated?, Move.activates?])
        · rename_i owned
          split at acquired
          · exact .inr (.inr ((refuses_onCore acquired).bind _))
          · rename_i notIdle
            split at acquired
            · exact .inr (.inr ((refuses_onCore acquired).bind _))
            · have allowed : Move.Allowed kernel.core (.queue id) :=
                ⟨⟨resource, found, owned, apart, notIdle, Nat.le_of_not_lt entitled⟩,
                  fun _ => chosen⟩
              refine .inr (.inl ?_)
              rw [Action.run_bind_of_ok (run_onCore acquired), Action.run_bind_of_ok
                (run_reschedule (allowed.consistent sound))]
              exact makes_redecided allowed rfl rfl rfl
                (by simp [Observation.activated?, Move.activates?])

/-- An owner gives a resource up, and nobody else can. -/
theorem releaseResource_makes (sound : kernel.core.Sound)
    (chosen : kernel.core.sched.selected = kernel.core.sched.current) (id : ResourceId) :
    kernel.Makes (.release id) () ((releaseResource id).run kernel) ∨
      Refuses kernel ((releaseResource id).run kernel) := by
  have service : (releaseResource id).run kernel =
      (onCore (Core.release id kernel.core.sched.current) >>= fun _ => reschedule).run kernel := by
    simp only [releaseResource, Action.run_get_bind, Kernel.current, Kernel.sched]
  rw [service]
  by_cases owner : ∃ resource, kernel.core.resources[id]? = some resource ∧
      resource.owner = some kernel.core.sched.current
  · obtain ⟨resource, found, owner⟩ := owner
    obtain ⟨seen, quiet, released⟩ := sound.toConsistent.run_release found owner
    have allowed : Move.Allowed kernel.core (.release id) :=
      ⟨⟨resource, found, owner⟩, fun _ => chosen⟩
    refine .inl ?_
    rw [Action.run_bind_of_ok (run_onCore released), run_reschedule (allowed.consistent sound)]
    exact makes_redecided allowed rfl rfl rfl (by simp [quiet, Move.activates?])
  · refine .inr ?_
    obtain ⟨reason, refused⟩ := Core.run_release_of_ne
      fun resource found owned => owner ⟨resource, found, owned⟩
    exact (refuses_onCore refused).bind _

/-! ### Events -/

omit [Machine C] in
theorem run_onScheduler {β : Type} {action : Action (Scheduler C) β} {answer : β}
    {after : Scheduler C} {seen : Trace}
    (done : action.run kernel.core.sched = ⟨.ok answer, after, seen⟩) :
    (onScheduler action).run kernel =
      ⟨.ok answer, { kernel with core := { kernel.core with sched := after } }, seen⟩ := by
  have inCore : (Core.onScheduler action).run kernel.core =
      ⟨.ok answer, { kernel.core with sched := after }, seen⟩ := by
    rw [Core.onScheduler, Action.run_within, done]
  exact run_onCore inCore

omit [Machine C] in
theorem refuses_onScheduler {β : Type} {action : Action (Scheduler C) β} {reason : Refusal}
    (done : action.run kernel.core.sched = ⟨.error reason, kernel.core.sched, []⟩) :
    Refuses kernel ((onScheduler action).run kernel) := by
  have inCore : (Core.onScheduler action).run kernel.core = ⟨.error reason, kernel.core, []⟩ := by
    rw [Core.onScheduler, Action.run_within, done]
  exact refuses_onCore inCore

/-- Events reach an active task and may wake it; for any other they are refused. -/
theorem setEvent_makes (sound : kernel.core.Sound) (id : TaskId) (mask : EventMask) :
    kernel.Makes (.deliver id mask) () ((setEvent id mask).run kernel) ∨
      kernel.Makes (.wake id mask) () ((setEvent id mask).run kernel) ∨
      Refuses kernel ((setEvent id mask).run kernel) := by
  unfold setEvent
  by_cases active : (kernel.core.sched.slot id).state.isActive
  · have done := Scheduler.run_setEvent active mask
    split at done
    · rename_i hit
      have allowed : Move.Allowed kernel.core (.wake id mask) := ⟨hit, nofun⟩
      refine .inr (.inl ?_)
      rw [Action.run_bind_of_ok (run_onScheduler done), if_pos rfl,
        run_reschedule (allowed.consistent sound)]
      exact makes_redecided allowed rfl rfl rfl (by simp [Move.activates?])
    · rename_i missed
      have allowed : Move.Allowed kernel.core (.deliver id mask) :=
        ⟨⟨active, Bool.eq_false_iff.mpr missed⟩, nofun⟩
      refine .inl ?_
      rw [Action.run_bind_of_ok (run_onScheduler done), if_neg Bool.false_ne_true]
      exact makes_edited allowed rfl rfl rfl rfl
  · refine .inr (.inr ?_)
    obtain ⟨reason, unknown⟩ := Scheduler.eventTarget_eq_error active
    have done : (Scheduler.setEvent id mask).run kernel.core.sched =
        ⟨.error reason, kernel.core.sched, []⟩ := by
      unfold Scheduler.setEvent
      rw [Action.run_get_bind, unknown, Action.run_error_bind]
    exact (refuses_onScheduler done).bind _

/-- A task clears its own events. -/
theorem clearEvent_makes (chosen : kernel.core.sched.selected = kernel.core.sched.current)
    (mask : EventMask) : kernel.Makes (.clear mask) () ((clearEvent mask).run kernel) :=
  makes_edited ⟨trivial, fun _ => chosen⟩ rfl rfl rfl rfl

/-- A task blocks on events that are not there, unless it is the idle task. -/
theorem waitEvent_makes (sound : kernel.core.Sound)
    (chosen : kernel.core.sched.selected = kernel.core.sched.current) (mask : EventMask) :
    kernel.Makes (.await mask) () ((waitEvent mask).run kernel) ∨
      (waitEvent mask).run kernel = ⟨.ok (), kernel, []⟩ ∨
      Refuses kernel ((waitEvent mask).run kernel) := by
  unfold waitEvent
  have done := Scheduler.run_waitEvent mask kernel.core.sched
  split at done
  · refine .inr (.inl ?_)
    rw [Action.run_bind_of_ok (run_onScheduler done)]
    rfl
  · rename_i missing
    split at done
    · exact .inr (.inr ((refuses_onScheduler done).bind _))
    · rename_i notIdle
      have allowed : Move.Allowed kernel.core (.await mask) :=
        ⟨⟨notIdle, Decidable.not_not.mp missing⟩, fun _ => chosen⟩
      refine .inl ?_
      rw [Action.run_bind_of_ok (run_onScheduler done), if_pos rfl,
        run_reschedule (allowed.consistent sound)]
      exact makes_redecided allowed rfl rfl rfl (by simp [Move.activates?])

end Kernel

end Rtos
