/-
Module: Rtos.Proofs.Lifetime
Purpose: Lifetimes of a kernel: operations in any order whatever, without the discipline of a
  machine.  In all of them the alarms go their own way: what an operation does to their table
  depends on the table alone, and a tick tells of exactly those that are due.
Main definitions: Lifetime, Action.Ignores, Operation.onAlarms, expirations
Main statements: `Step.alarms_after`, `Step.expirations_tick`
-/
import Rtos.Proofs.Refusal

namespace Rtos

/-- The steps that a kernel of a configuration has gone through since it booted, latest first, and
where they led.  Any operation may follow on any other. -/
inductive Lifetime {C : Type} [Machine C] (config : Configuration) :
    List (Step C) → Kernel C → Prop where
  | boot {console : Console} {kernel : Kernel C} {seen : Trace} (built : config.Built)
      (booted : Kernel.boot config console = .ok (kernel, seen)) (heap : Option StackSource) :
      Lifetime config [] { kernel with heap }
  | step {steps : List (Step C)} {kernel : Kernel C} (earlier : Lifetime config steps kernel)
      (operation : Operation C) :
      Lifetime config (⟨kernel, operation⟩ :: steps) (Step.after ⟨kernel, operation⟩)

namespace Lifetime

variable {C : Type} [Machine C] {config : Configuration} {steps : List (Step C)}
  {kernel : Kernel C}

/-- The latest step of a lifetime. -/
theorem latest {step : Step C} (lifetime : Lifetime config (step :: steps) kernel) :
    Lifetime config steps step.before ∧ kernel = step.after := by
  cases lifetime with
  | step earlier operation => exact ⟨earlier, rfl⟩

/-- Any operations continue a lifetime. -/
theorem continued (lifetime : Lifetime config steps kernel) (operations : List (Operation C)) :
    Lifetime config (Execution.replay kernel steps operations)
      (Execution.reached kernel operations) := by
  induction operations generalizing kernel steps with
  | nil => exact lifetime
  | cons operation rest ih => exact ih (lifetime.step operation)

/-- What is performed in turn are the given operations. -/
theorem mem_replay {step : Step C} {operations : List (Operation C)}
    (member : step ∈ Execution.replay kernel steps operations) :
    step ∈ steps ∨ step.operation ∈ operations := by
  induction operations generalizing kernel steps with
  | nil => exact .inl member
  | cons operation rest ih =>
      rcases ih member with before | after
      · rcases List.mem_cons.mp before with rfl | old
        · exact .inr List.mem_cons_self
        · exact .inl old
      · exact .inr (List.mem_cons_of_mem _ after)

end Lifetime

/-! ### What operations have nothing to do with -/

namespace Action

variable {σ τ α β : Type} {put : τ → σ → σ} {first : Action σ α} {next : α → Action σ β}

/-- The operation neither looks at a part of the state nor changes it: whatever is put there, it
ends in the same way, and what was put there is still there. -/
def Ignores (put : τ → σ → σ) (action : Action σ α) : Prop :=
  ∀ value state, action.run (put value state) =
    ⟨(action.run state).result, put value (action.run state).state, (action.run state).trace⟩

theorem ignores_pure (a : α) : (pure a : Action σ α).Ignores put := fun _ _ => rfl

theorem ignores_refuse (reason : Refusal) : (refuse reason : Action σ α).Ignores put :=
  fun _ _ => rfl

theorem ignores_emit (seen : Observation) : (emit seen : Action σ Unit).Ignores put :=
  fun _ _ => rfl

theorem ignores_modify {f : σ → σ}
    (apart : ∀ value state, f (put value state) = put value (f state)) :
    (modify f).Ignores put := by
  intro value state
  rw [run_modify, apart]
  rfl

theorem ignores_ofExcept (value : Except Refusal α) :
    (ofExcept value : Action σ α).Ignores put := fun _ _ => rfl

theorem ignores_require (reason : Refusal) (value : Option α) :
    (require reason value : Action σ α).Ignores put := by
  cases value <;> exact fun _ _ => rfl

/-- What is looked at is another part of the state. -/
theorem ignores_get_bind {next : σ → Action σ β}
    (apart : ∀ value state, next (put value state) = next state)
    (late : ∀ state, (next state).Ignores put) : (get >>= next).Ignores put := by
  intro value state
  rw [run_get_bind, run_get_bind, apart]
  exact late state value state

theorem Ignores.attempt {action : Action σ α} (ignores : action.Ignores put) :
    action.attempt.Ignores put := by
  intro value state
  rw [run_attempt, ignores value state]
  rfl

/-- What two operations have nothing to do with, they have nothing to do with one after the
other. -/
theorem Ignores.bind (early : first.Ignores put) (late : ∀ a, (next a).Ignores put) :
    (first >>= next).Ignores put := by
  intro value state
  rw [run_bind, run_bind, early value state]
  cases (first.run state).result with
  | ok a =>
      dsimp only
      rw [late a value]
  | error reason => rfl

end Action

namespace Kernel

variable {C α : Type}

/-! ### Alarms and the rest of the kernel -/

/-- The kernel with other alarms. -/
def withAlarms (alarms : AlarmTable) (kernel : Kernel C) : Kernel C := { kernel with alarms }

/-- What has nothing to do with the alarms leaves them alone. -/
theorem alarms_of_ignores {action : Action (Kernel C) α} (ignores : action.Ignores withAlarms)
    (kernel : Kernel C) : (action.run kernel).state.alarms = kernel.alarms := by
  have same : (action.run kernel).state =
      withAlarms kernel.alarms (action.run kernel).state :=
    congrArg Outcome.state (ignores kernel.alarms kernel)
  rw [same]
  rfl

theorem ignores_onCore (action : Action (Core C) α) : (onCore action).Ignores withAlarms :=
  fun _ _ => rfl

theorem ignores_updateTask (id : TaskId) (f : Task C → Except Refusal (Task C)) :
    (updateTask id f).Ignores withAlarms :=
  Action.ignores_get_bind (fun _ _ => rfl) fun _ => (Action.ignores_ofExcept _).bind fun _ =>
    (Action.ignores_ofExcept _).bind fun _ => ignores_onCore _

theorem ignores_reschedule : (reschedule : Action (Kernel C) Unit).Ignores withAlarms := by
  apply (ignores_onCore _).bind
  intro needed
  split
  · exact Action.ignores_modify fun _ _ => rfl
  · exact Action.ignores_pure ()

/-- Only some answers ask for a decision. -/
theorem ignores_thenReschedule (action : Action (Scheduler C) Bool) :
    (onScheduler action >>= fun needed =>
      if needed then reschedule else pure () : Action (Kernel C) Unit).Ignores withAlarms := by
  apply (ignores_onCore _).bind
  intro needed
  split
  · exact ignores_reschedule
  · exact Action.ignores_pure ()

theorem ignores_allocStack (words : Nat) :
    (allocStack words : Action (Kernel C) Stack).Ignores withAlarms :=
  Action.ignores_get_bind (fun _ _ => rfl) fun _ => (Action.ignores_require _ _).bind fun source =>
    (Action.ignores_modify fun _ _ => by rfl).bind fun _ =>
      Action.ignores_require .exhausted (source.alloc words).1

theorem ignores_declare (entry : Entry) (priority : Priority) (stackWords : Nat)
    (argument : Int32) :
    (declare entry priority stackWords argument : Action (Kernel C) TaskId).Ignores withAlarms :=
  Action.ignores_get_bind (fun _ _ => rfl) fun _ => (Action.ignores_require _ _).bind fun _ =>
    (Action.ignores_require _ _).bind fun _ => (ignores_allocStack _).bind fun _ =>
      (ignores_onCore _).bind fun _ => (Action.ignores_emit _).bind fun _ =>
        Action.ignores_pure _

theorem ignores_finish (id : TaskId) :
    (finish id : Action (Kernel C) Unit).Ignores withAlarms :=
  (ignores_onCore _).bind fun _ => (ignores_updateTask _ _).bind fun _ => Action.ignores_emit _

theorem ignores_callerToEnd : (callerToEnd : Action (Kernel C) TaskId).Ignores withAlarms := by
  apply Action.ignores_get_bind (fun _ _ => by rfl)
  intro kernel
  dsimp only
  split
  · exact Action.ignores_refuse _
  · exact Action.ignores_pure _

theorem ignores_terminateTask : (terminateTask : Action (Kernel C) Unit).Ignores withAlarms :=
  ignores_callerToEnd.bind fun _ => (ignores_finish _).bind fun _ => ignores_reschedule

theorem ignores_commitPending (outgoing : C) : (commitPending outgoing).Ignores withAlarms := by
  apply Action.ignores_get_bind (fun _ _ => by rfl)
  intro kernel
  split
  · exact (Action.ignores_modify fun _ _ => by rfl).bind fun _ => (ignores_onCore _).bind fun _ =>
      Action.ignores_pure _
  · exact Action.ignores_pure _

variable [Machine C]

theorem ignores_activateTask (id : TaskId) :
    (activateTask id : Action (Kernel C) Unit).Ignores withAlarms :=
  (ignores_updateTask _ _).bind fun _ => (Action.ignores_emit _).bind fun _ => ignores_reschedule

theorem ignores_chainTask (id : TaskId) :
    (chainTask id : Action (Kernel C) Unit).Ignores withAlarms := by
  refine ignores_callerToEnd.bind fun _ => Action.ignores_get_bind (fun _ _ => rfl) fun _ =>
    (Action.ignores_ofExcept _).bind fun target => ?_
  split
  · exact Action.ignores_refuse _
  · exact (ignores_finish _).bind fun _ => (ignores_updateTask _ _).bind fun _ =>
      (Action.ignores_emit _).bind fun _ => ignores_reschedule

theorem ignores_serve (call : InterruptCall) :
    (serve call : Action (Kernel C) Unit).Ignores withAlarms := by
  cases call with
  | activateTask target => exact ignores_activateTask target
  | setEvent target mask => exact ignores_thenReschedule _

/-- What a callback asks for has nothing to do with the alarms. -/
theorem ignores_runHandler (tag : Nat) (handler : Handler) :
    (runHandler tag handler : Action (Kernel C) Unit).Ignores withAlarms := by
  induction handler with
  | done => exact Action.ignores_pure ()
  | call request next ih =>
      exact (ignores_serve request).attempt.bind fun result =>
        (Action.ignores_emit _).bind fun _ => ih result
  | note severity message next ih => exact (Action.ignores_emit _).bind fun _ => ih

theorem ignores_runAlarm (action : AlarmAction) :
    (runAlarm action : Action (Kernel C) Unit).Ignores withAlarms := by
  cases action with
  | service request =>
      apply (ignores_serve request).attempt.bind
      intro result
      cases result with
      | ok => exact Action.ignores_pure ()
      | error reason => exact Action.ignores_emit _
  | callback code =>
      exact (Action.ignores_emit _).bind fun _ => ignores_runHandler code.tag code.body

theorem ignores_runAlarms (actions : List AlarmAction) :
    (runAlarms actions : Action (Kernel C) Unit).Ignores withAlarms := by
  induction actions with
  | nil => exact Action.ignores_pure ()
  | cons action rest ih => exact (ignores_runAlarm action).bind fun _ => ih

end Kernel

/-- What a request does to the table of alarms. -/
def Request.onAlarms (table : AlarmTable) : Request → AlarmTable
  | setRelAlarm id increment cycle => (table.setRelative id increment cycle).toOption.getD table
  | setAbsAlarm id start cycle => (table.setAbsolute id start cycle).toOption.getD table
  | cancelAlarm id => (table.cancel id).toOption.getD table
  | debug .. | declare .. | activateTask .. | terminateTask | chainTask .. | getTaskId
  | getTaskState .. | getResource .. | releaseResource .. | setEvent .. | clearEvent ..
  | getEvent .. | waitEvent .. | getAlarmBase .. | getAlarm .. => table

namespace Operation

variable {C : Type} {operation : Operation C}

/-- The operation is a timer interrupt. -/
def isTick : Operation C → Bool
  | tick => true
  | launch _ | install _ | interrupt _ | dispatch _ | switch _ | request _ | trap .. => false

/-- What an operation does to the table of alarms. -/
def onAlarms (operation : Operation C) (table : AlarmTable) : AlarmTable :=
  match operation, operation.request? with
  | tick, _ => table.tick
  | _, some asked => asked.onAlarms table
  | _, none => table

theorem not_isTick_of_request? {asked : Request} (request : operation.request? = some asked) :
    operation.isTick = false := by
  cases operation with
  | tick => cases request
  | _ => rfl

theorem onAlarms_of_isTick (ticks : operation.isTick) (table : AlarmTable) :
    operation.onAlarms table = table.tick := by
  cases operation with
  | tick => rfl
  | _ => cases ticks

theorem onAlarms_of_request? {asked : Request} (request : operation.request? = some asked)
    (table : AlarmTable) : operation.onAlarms table = asked.onAlarms table := by
  unfold onAlarms
  cases operation with
  | tick => cases request
  | _ => rw [request]

/-- Only ticks and requests concern the alarms. -/
theorem onAlarms_of_none (other : operation.isTick = false) (silent : operation.request? = none)
    (table : AlarmTable) : operation.onAlarms table = table := by
  unfold onAlarms
  cases operation with
  | tick => cases other
  | _ => rw [silent]

end Operation

namespace Kernel

variable {C : Type} [Machine C]

omit [Machine C] in
theorem run_updateAlarms (f : AlarmTable → Except Refusal AlarmTable) (kernel : Kernel C) :
    (updateAlarms f).run kernel =
      ⟨(f kernel.alarms).map fun _ => (),
        { kernel with alarms := (f kernel.alarms).toOption.getD kernel.alarms }, []⟩ := by
  rw [updateAlarms, Action.run_get_bind]
  cases f kernel.alarms <;> rfl

/-- What a request does to the alarms depends on their table alone. -/
theorem alarms_perform (request : Request) (kernel : Kernel C) :
    ((perform request).run kernel).state.alarms = request.onAlarms kernel.alarms := by
  have answered : ∀ {β : Type} {action : Action (Kernel C) β} {reply : β → Reply},
      action.Ignores withAlarms → ((action >>= fun answer => pure (reply answer)).run
        kernel).state.alarms = kernel.alarms :=
    fun ignores => alarms_of_ignores (ignores.bind fun _ => Action.ignores_pure _) kernel
  have asked : ∀ {β : Type} {question : Kernel C → Except Refusal β} {reply : β → Reply},
      (((Action.get >>= fun kernel => Action.ofExcept (question kernel)) >>= fun answer =>
        pure (reply answer)).run kernel).state.alarms = kernel.alarms := by
    intro β question reply
    rw [Action.state_bind_pure, Action.run_get_bind]
    rfl
  have changed : ∀ {f : AlarmTable → Except Refusal AlarmTable} {reply : Reply},
      ((updateAlarms f >>= fun _ => pure reply).run kernel).state.alarms =
        (f kernel.alarms).toOption.getD kernel.alarms := by
    intro f reply
    rw [Action.state_bind_pure, run_updateAlarms]
  cases request with
  | setRelAlarm alarm increment cycle => exact changed
  | setAbsAlarm alarm start cycle => exact changed
  | cancelAlarm alarm => exact changed
  | debug message =>
      rfl
  | declare entry priority stackWords argument =>
      exact answered (ignores_declare entry priority stackWords argument)
  | activateTask task => exact answered (ignores_activateTask task)
  | terminateTask => exact answered ignores_terminateTask
  | chainTask task => exact answered (ignores_chainTask task)
  | getTaskId => rfl
  | getTaskState task =>
      exact answered (Action.ignores_get_bind (fun _ _ => rfl) fun _ =>
        (Action.ignores_ofExcept _).bind fun _ => Action.ignores_pure _)
  | getResource resource =>
      exact answered (Action.ignores_get_bind (fun _ _ => rfl) fun _ =>
        (ignores_onCore _).bind fun _ => ignores_reschedule.bind fun _ => Action.ignores_pure _)
  | releaseResource resource =>
      exact answered (Action.ignores_get_bind (fun _ _ => rfl) fun _ =>
        (ignores_onCore _).bind fun _ => ignores_reschedule)
  | setEvent task mask => exact answered (ignores_thenReschedule _)
  | clearEvent mask => rfl
  | getEvent task => exact asked
  | waitEvent mask => exact answered (ignores_thenReschedule _)
  | getAlarmBase alarm => exact asked
  | getAlarm alarm => exact asked

/-- A tick lets the alarms expire that are due, does what they ask for and advances the counters. -/
theorem run_tick (kernel : Kernel C) :
    let expired : Kernel C :=
      { kernel with
        alarms :=
          { kernel.alarms with alarms := kernel.alarms.alarms.map kernel.alarms.expireOne } }
    let acted := (runAlarms (kernel.alarms.dueIds.filterMap fun id =>
      kernel.alarms.alarms[id]?.map (·.action))).run expired
    tick.run kernel =
      ⟨.ok (), { acted.state with alarms := acted.state.alarms.advance },
        kernel.alarms.dueIds.flatMap kernel.alarms.expiry ++ acted.trace⟩ := by
  intro expired acted
  obtain ⟨_, accepted⟩ := neverRefused_runAlarms (kernel.alarms.dueIds.filterMap fun id =>
    kernel.alarms.alarms[id]?.map (·.action)) expired
  unfold tick
  rw [onAlarms, Action.run_bind, Action.run_within, AlarmTable.run_expire]
  dsimp only
  rw [Action.run_bind, accepted]
  dsimp only [onAlarms, Action.run_within, Action.run_modify]
  rw [List.append_nil]

/-- What a tick does to the alarms depends on their table alone. -/
theorem alarms_tick (kernel : Kernel C) : (tick.run kernel).state.alarms = kernel.alarms.tick := by
  rw [run_tick]
  dsimp only
  rw [alarms_of_ignores (ignores_runAlarms _)]
  rfl

end Kernel

/-- What an operation does to the alarms depends on their table alone. -/
theorem Step.alarms_after {C : Type} [Machine C] (step : Step C) :
    step.after.alarms = step.operation.onAlarms step.before.alarms := by
  have answered : ∀ {β : Type} {action : Action (Kernel C) β} {answer : β → Option C},
      action.Ignores Kernel.withAlarms → ((action >>= fun answered => pure (answer answered)).run
        step.before).state.alarms = step.before.alarms :=
    fun ignores => Kernel.alarms_of_ignores (ignores.bind fun _ => Action.ignores_pure _) _
  obtain ⟨before, operation⟩ := step
  cases operation with
  | launch outgoing =>
      exact Kernel.alarms_of_ignores (Kernel.ignores_commitPending outgoing) before.requestSwitch
  | install heap => rfl
  | tick =>
      have ticked : Step.after ⟨before, .tick⟩ = (Kernel.tick.run before).state :=
        Action.state_bind_pure Kernel.tick (fun _ => none) before
      rw [ticked, Kernel.alarms_tick]
      rfl
  | interrupt call => exact answered (Kernel.ignores_serve call)
  | dispatch outgoing =>
      exact Kernel.alarms_of_ignores (Kernel.ignores_commitPending outgoing) before
  | switch outgoing => exact answered (Kernel.ignores_onCore _)
  | request asked =>
      have request : (Operation.request asked : Operation C).request? = some asked := rfl
      rw [Step.after_of_request? request]
      exact Kernel.alarms_perform asked before
  | trap memory number words =>
      cases decoded : Request.decode memory number words with
      | error reason =>
          unfold Step.after Step.done Operation.perform Operation.onAlarms Operation.request?
          dsimp only
          rw [Action.state_bind_pure, Kernel.run_handleTrap, Kernel.performTrap, decoded]
          rfl
      | ok asked =>
          have request : (Operation.trap memory number words : Operation C).request? =
              some asked := congrArg Except.toOption decoded
          rw [Step.after_of_request? request, Kernel.alarms_perform,
            Operation.onAlarms_of_request? request]

/-! ### What a tick tells -/

/-- The alarm that is seen to expire. -/
def Observation.expired? : Observation → Option AlarmId
  | .logged (.expired alarm _) => some alarm
  | .logged _ | .entered _ | .answered .. => none

/-- The alarms that are seen to expire, in their order. -/
def expirations (seen : Trace) : List AlarmId := seen.filterMap Observation.expired?

@[simp] theorem expirations_append (first second : Trace) :
    expirations (first ++ second) = expirations first ++ expirations second :=
  List.filterMap_append

/-- What is seen is about an alarm: that it expires, or that the service it asks for is refused. -/
def Observation.ofAlarm : Observation → Bool
  | .logged (.expired ..) | .logged (.alarmRefused ..) => true
  | .logged _ | .entered _ | .answered .. => false

theorem Observation.expired?_of_ofAlarm {told : Observation} (other : told.ofAlarm = false) :
    told.expired? = none := by
  cases told with
  | logged record => cases record <;> first | rfl | cases other
  | entered | answered => rfl

namespace Action

variable {σ τ α β : Type} {first : Action σ α} {next : α → Action σ β}

/-- Nothing that is seen during the operation is about an alarm. -/
def Quiet (action : Action σ α) : Prop :=
  ∀ state, ∀ told ∈ (action.run state).trace, told.ofAlarm = false

theorem quiet_pure (a : α) : (pure a : Action σ α).Quiet := fun _ _ => nofun

theorem quiet_get : (get : Action σ σ).Quiet := fun _ _ => nofun

theorem quiet_modify (f : σ → σ) : (modify f).Quiet := fun _ _ => nofun

theorem quiet_ofExcept (value : Except Refusal α) : (ofExcept value : Action σ α).Quiet :=
  fun _ _ => nofun

theorem quiet_emit {seen : Observation} (other : seen.ofAlarm = false) :
    (emit seen : Action σ Unit).Quiet := by
  intro state told shown
  rw [List.mem_singleton.mp shown, other]

theorem Quiet.attempt {action : Action σ α} (quiet : action.Quiet) : action.attempt.Quiet := quiet

theorem Quiet.within {action : Action τ α} (quiet : action.Quiet) (part : σ → τ)
    (put : τ → σ → σ) : (Action.within part put action).Quiet := fun state => quiet (part state)

theorem Quiet.bind (early : first.Quiet) (late : ∀ a, (next a).Quiet) :
    (first >>= next).Quiet := by
  intro state told shown
  rw [run_bind] at shown
  cases done : (first.run state).result with
  | ok a =>
      rw [done] at shown
      rcases List.mem_append.mp shown with before | after
      · exact early state told before
      · exact late a _ told after
  | error reason =>
      rw [done] at shown
      exact early state told shown

end Action

namespace Kernel

variable {C α : Type} [Machine C]

omit [Machine C] in
theorem quiet_onCore {action : Action (Core C) α} (quiet : action.Quiet) :
    (onCore action).Quiet := quiet.within _ _

omit [Machine C] in
theorem quiet_reschedule : (reschedule : Action (Kernel C) Unit).Quiet := by
  have decision : (Scheduler.reschedule : Action (Scheduler C) Bool).Quiet := by
    intro sched told shown
    rw [Scheduler.run_reschedule] at shown
    dsimp only at shown
    unfold Scheduler.decisionTrace at shown
    split at shown
    · cases shown
    · rw [List.mem_singleton.mp shown]
      rfl
  apply (quiet_onCore (decision.within _ _)).bind
  intro needed
  split
  · exact Action.quiet_modify _
  · exact Action.quiet_pure ()

omit [Machine C] in
theorem quiet_setEvent (id : TaskId) (mask : EventMask) :
    (setEvent id mask : Action (Kernel C) Unit).Quiet := by
  have delivery : (Scheduler.setEvent id mask : Action (Scheduler C) Bool).Quiet := by
    refine Action.quiet_get.bind fun _ => (Action.quiet_ofExcept _).bind fun _ =>
      (Action.quiet_modify _).bind fun _ => Action.quiet_get.bind fun sched => ?_
    split
    · exact (Action.quiet_modify _).bind fun _ => Action.quiet_pure true
    · exact Action.quiet_pure false
  apply (quiet_onCore (delivery.within _ _)).bind
  intro woken
  split
  · exact quiet_reschedule
  · exact Action.quiet_pure ()

theorem quiet_serve (call : InterruptCall) : (serve call : Action (Kernel C) Unit).Quiet := by
  cases call with
  | activateTask target =>
      exact (Action.quiet_get.bind fun _ => (Action.quiet_ofExcept _).bind fun _ =>
        (Action.quiet_ofExcept _).bind fun _ => quiet_onCore (Action.quiet_modify _)).bind fun _ =>
          (Action.quiet_emit rfl).bind fun _ => quiet_reschedule
  | setEvent target mask => exact quiet_setEvent target mask

/-- A callback tells of no alarm: what it writes are notes. -/
theorem quiet_runHandler (tag : Nat) (handler : Handler) :
    (runHandler tag handler : Action (Kernel C) Unit).Quiet := by
  induction handler with
  | done => exact Action.quiet_pure ()
  | call request next ih =>
      exact (quiet_serve request).attempt.bind fun result =>
        (Action.quiet_emit rfl).bind fun _ => ih result
  | note severity message next ih => exact (Action.quiet_emit rfl).bind fun _ => ih

theorem run_runAlarm_service (request : InterruptCall) (kernel : Kernel C) :
    (runAlarm (.service request)).run kernel =
      ⟨.ok (), ((serve request).run kernel).state, ((serve request).run kernel).trace ++
        match ((serve request).run kernel).result with
        | .ok () => []
        | .error reason => [.logged (.alarmRefused request reason)]⟩ := by
  unfold runAlarm
  rw [Action.run_bind, Action.run_attempt]
  cases ((serve request).run kernel).result <;> rfl

/-- What is seen of an alarm while it acts is that the service it asks for is refused. -/
theorem refused_of_runAlarm {action : AlarmAction} {kernel : Kernel C} {told : Observation}
    (shown : told ∈ ((runAlarm action).run kernel).trace) (ofAlarm : told.ofAlarm) :
    ∃ request reason, action = .service request ∧
      ((serve request).run kernel).result = .error reason ∧
      told = .logged (.alarmRefused request reason) := by
  cases action with
  | service request =>
      rw [run_runAlarm_service] at shown
      rcases List.mem_append.mp shown with before | after
      · cases (quiet_serve request kernel told before).symm.trans ofAlarm
      · cases refused : ((serve request).run kernel).result with
        | ok =>
            rw [refused] at after
            cases after
        | error reason =>
            rw [refused] at after
            exact ⟨request, reason, rfl, refused, List.mem_singleton.mp after⟩
  | callback code =>
      have quiet : (runAlarm (.callback code) : Action (Kernel C) Unit).Quiet :=
        (Action.quiet_emit rfl).bind fun _ => quiet_runHandler code.tag code.body
      cases (quiet kernel told shown).symm.trans ofAlarm

/-- What is seen of alarms while they act is that one asks for a service in its turn and is
refused. -/
theorem refused_of_runAlarms {actions : List AlarmAction} {kernel : Kernel C} {told : Observation}
    (shown : told ∈ ((runAlarms actions).run kernel).trace) (ofAlarm : told.ofAlarm) :
    ∃ early request late reason, actions = early ++ .service request :: late ∧
      ((serve request).run ((runAlarms early).run kernel).state).result = .error reason ∧
      told = .logged (.alarmRefused request reason) := by
  induction actions generalizing kernel with
  | nil => cases shown
  | cons action rest ih =>
      obtain ⟨_, accepted⟩ := neverRefused_runAlarm action kernel
      rw [runAlarms, Action.run_bind, accepted] at shown
      rcases List.mem_append.mp shown with before | after
      · obtain ⟨request, reason, rfl, refused, rfl⟩ := refused_of_runAlarm before ofAlarm
        exact ⟨[], request, rest, reason, rfl, refused, rfl⟩
      · obtain ⟨early, request, late, reason, rfl, refused, rfl⟩ := ih after
        refine ⟨action :: early, request, late, reason, rfl, ?_, rfl⟩
        rw [runAlarms, Action.run_bind, accepted]
        exact refused

theorem expirations_runAlarms (actions : List AlarmAction) (kernel : Kernel C) :
    expirations ((runAlarms actions).run kernel).trace = [] := by
  refine List.filterMap_eq_nil_iff.mpr fun told shown => ?_
  cases ofAlarm : told.ofAlarm with
  | false => exact Observation.expired?_of_ofAlarm ofAlarm
  | true =>
      obtain ⟨_, _, _, _, -, -, rfl⟩ := refused_of_runAlarms shown ofAlarm
      rfl

end Kernel

/-- What is told of alarms that exist is that they expire. -/
theorem AlarmTable.expirations_expiry {table : AlarmTable} {ids : List AlarmId}
    (exist : ∀ id ∈ ids, ∃ found, table.lookup id = .ok found) :
    expirations (ids.flatMap table.expiry) = ids := by
  induction ids with
  | nil => rfl
  | cons id rest ih =>
      obtain ⟨⟨found, here⟩, others⟩ := List.forall_mem_cons.mp exist
      rw [List.flatMap_cons, expirations_append, ih others, expiry, here]
      rfl

theorem Step.trace_tick {C : Type} [Machine C] (kernel : Kernel C) :
    (Step.done ⟨kernel, .tick⟩).trace = (Kernel.tick.run kernel).trace := by
  unfold Step.done Operation.perform
  rw [bind_pure_comp, Action.run_map]

/-- A tick tells of the alarms that are due when it begins, and of no others. -/
theorem Step.expirations_tick {C : Type} [Machine C] (kernel : Kernel C) :
    expirations (Step.done ⟨kernel, .tick⟩).trace = kernel.alarms.dueIds := by
  rw [Step.trace_tick, Kernel.run_tick, expirations_append, Kernel.expirations_runAlarms,
    List.append_nil]
  apply AlarmTable.expirations_expiry
  intro id due
  obtain ⟨alarm, counter, found, -⟩ := AlarmTable.mem_dueIds.mp due
  exact ⟨_, found⟩

end Rtos
