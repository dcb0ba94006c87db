/-
Module: Rtos.Proofs.Course
Purpose: What the kernel does to tasks and resources, edit by edit and decision by decision, with what
  it makes sure of before each edit.  This holds from every state whatever, and of services that are
  called out of turn or fail half-way; it is what can be said of a kernel whose machine keeps no
  discipline.
Main definitions: decisions, Task.Edited, Core.Edit, Core.Course, Action.Runs
Main statements: `Step.course`, `Core.Course.keeps`, `Core.Course.declared`,
  `Core.Course.selected_eq`
-/
import Mathlib.Tactic.SplitIfs
import Rtos.Proofs.Execution

namespace Rtos

/-- The task that is seen to be chosen. -/
def Observation.decided? : Observation → Option TaskId
  | .logged (.decided _ next _) => some next
  | .logged _ | .entered _ | .answered .. => none

/-- The tasks that decisions are seen to choose, oldest decision first. -/
def decisions (seen : Trace) : List TaskId := seen.filterMap Observation.decided?

@[simp] theorem decisions_nil : decisions [] = [] := rfl

@[simp] theorem decisions_cons (first : Observation) (rest : Trace) :
    decisions (first :: rest) = first.decided?.toList ++ decisions rest := by
  unfold decisions
  rw [List.filterMap_cons]
  cases first.decided? <;> rfl

@[simp] theorem decisions_append (first second : Trace) :
    decisions (first ++ second) = decisions first ++ decisions second :=
  List.filterMap_append

/-! ### Edits -/

/-- One edit of the record of a task, and what the kernel makes sure of before. -/
inductive Task.Edited {C : Type} [Machine C] (id : TaskId) (task : Task C) : Task C → Prop where
  | declared (spec : TaskSpec) (free : task.state = .free) : Edited id task (task.declare spec)
  | activated {fresh : Task C} (activates : task.activate Machine.prime = .ok fresh) :
      Edited id task fresh
  | terminated (declared : task.state ≠ .free) (notIdle : id ≠ idleTask) :
      Edited id task task.terminate
  | delivered (mask : EventMask) : Edited id task (task.deliver mask)
  | woken (awaited : task.hasAwaited) : Edited id task task.wake
  | cleared (flags : EventMask) : Edited id task { task with eventFlags := flags }
  | awaiting (mask : EventMask) (notIdle : id ≠ idleTask) : Edited id task (task.await mask)
  | reprioritized (priority : Priority) : Edited id task { task with priority }
  | queued (declared : task.state ≠ .free) (notIdle : id ≠ idleTask) :
      Edited id task { task with state := .waiting }
  | received (declared : task.state ≠ .free) : Edited id task { task with state := .ready }
  | switched (context : Context C) : Edited id task { task with context }

namespace Core

variable {C : Type} [Machine C]

/-- One edit of tasks and resources, and what the kernel makes sure of before. -/
inductive Edit : Core C → Core C → Prop where
  | task {core : Core C} {id : TaskId} {f : Task C → Task C}
      (edited : (core.sched.slot id).Edited id (f (core.sched.slot id))) :
      Edit core (core.modifyTask id f)
  | taken {core : Core C} {id : ResourceId} {task : TaskId}
      (declared : (core.sched.slot task).state ≠ .free) :
      Edit core (core.modifyResource id fun resource => { resource with owner := some task })
  | freed {core : Core C} {id : ResourceId} :
      Edit core (core.modifyResource id fun resource =>
        { resource with owner := none, waiters := resource.waiters.tail })
  | joined {core : Core C} {id : ResourceId} {task : TaskId}
      (declared : (core.sched.slot task).state ≠ .free) (notIdle : task ≠ idleTask) :
      Edit core (core.modifyResource id fun resource =>
        { resource with waiters := resource.waiters ++ [task] })
  | entered {core : Core C} :
      Edit core { core with sched := { core.sched with current := core.sched.selected } }

/-- A way from one core to another by edits and decisions, with what is seen on the way. -/
inductive Course : Core C → Trace → Core C → Prop where
  | nil (core : Core C) : Course core [] core
  | edited {first middle last : Core C} {seen : Trace} (edit : first.Edit middle)
      (rest : Course middle seen last) : Course first seen last
  | told {core last : Core C} {seen : Trace} {told : Observation} (other : told.decided? = none)
      (rest : Course core seen last) : Course core (told :: seen) last
  | decided {core last : Core C} {seen : Trace} (rest : Course core.decided seen last) :
      Course core (core.sched.decisionTrace ++ seen) last

namespace Course

variable {first middle last core : Core C} {seen early late : Trace}

theorem append (way : Course first early middle) (rest : Course middle late last) :
    Course first (early ++ late) last := by
  induction way with
  | nil => exact rest
  | edited edit _ ih => exact .edited edit (ih rest)
  | told other _ ih => exact .told other (ih rest)
  | decided _ ih =>
      rw [List.append_assoc]
      exact .decided (ih rest)

theorem of_edit (edit : first.Edit last) : Course first [] last := .edited edit (.nil last)

/-- Nothing but records that are no decisions. -/
theorem of_told (undecided : ∀ told ∈ seen, told.decided? = none) : Course core seen core := by
  induction seen with
  | nil => exact .nil core
  | cons told rest ih =>
      obtain ⟨other, others⟩ := List.forall_mem_cons.mp undecided
      exact .told other (ih others)

theorem of_decision (core : Core C) : Course core core.sched.decisionTrace core.decided := by
  have decision := Course.decided (.nil core.decided)
  rwa [List.append_nil] at decision

end Course

end Core

/-! ### Operations -/

namespace Action

variable {C σ α β : Type} [Machine C] {part : σ → Core C} {state : σ} {first : Action σ α}
  {next : α → Action σ β}

/-- What the operation does to tasks and resources from a given state, and what it shows, are the two
ends and the sights of one way. -/
def Runs (part : σ → Core C) (action : Action σ α) (state : σ) : Prop :=
  Core.Course (part state) (action.run state).trace (part (action.run state).state)

theorem runs_ofExcept (value : Except Refusal α) : (ofExcept value).Runs part state := .nil _

theorem runs_emit {told : Observation} (other : told.decided? = none) :
    (emit told).Runs part state := .told other (.nil _)

/-- What is modified is another part of the state. -/
theorem runs_modify {f : σ → σ} (apart : part (f state) = part state) :
    (modify f).Runs part state := by
  rw [Runs, run_modify, apart]
  exact .nil _

theorem runs_edit {f : σ → σ} (edit : (part state).Edit (part (f state))) :
    (modify f).Runs part state := .of_edit edit

theorem runs_get_bind {next : σ → Action σ β} (late : (next state).Runs part state) :
    (get >>= next).Runs part state := by
  rwa [Runs, run_get_bind]

theorem Runs.attempt (early : first.Runs part state) : first.attempt.Runs part state := early

/-- One operation is followed by another, from where it ends, unless it is refused. -/
theorem Runs.bind (early : first.Runs part state)
    (late : ∀ a, (first.run state).result = .ok a →
      (next a).Runs part (first.run state).state) : (first >>= next).Runs part state := by
  unfold Runs
  rw [run_bind]
  cases done : (first.run state).result with
  | ok a => exact early.append (late a done)
  | error reason => exact early

theorem runs_ofExcept_bind {value : Except Refusal α}
    (late : ∀ a, value = .ok a → (next a).Runs part state) :
    (ofExcept value >>= next).Runs part state := by
  cases value with
  | ok a => exact late a rfl
  | error reason => exact .nil _

theorem runs_require_bind {reason : Refusal} {value : Option α}
    (late : ∀ a, value = some a → (next a).Runs part state) :
    (require reason value >>= next).Runs part state := by
  cases value with
  | some a => exact late a rfl
  | none => exact .nil _

end Action

namespace Scheduler

variable {C : Type} {sched : Scheduler C} {id : TaskId} {task : Task C}

theorem findTask_eq_ok (found : sched.findTask id = .ok task) :
    (sched.slot id).state ≠ .free ∧ task = sched.slot id := by
  unfold findTask at found
  split at found
  · cases found
  · rename_i declared
    cases found
    exact ⟨declared, rfl⟩

end Scheduler

namespace Core

variable {C : Type} [Machine C] {core : Core C} {id : ResourceId} {task : TaskId}

theorem runs_grant (id : ResourceId) (ceiling : Priority) (task : TaskId) (core : Core C) :
    (grant id ceiling task).Runs (fun core => core) core := by
  refine Action.runs_get_bind (Action.runs_ofExcept_bind fun found ok => ?_)
  obtain ⟨declared, -⟩ := Scheduler.findTask_eq_ok ok
  refine .bind (Action.runs_edit (.taken declared)) fun _ _ => ?_
  refine .bind (Action.runs_edit (.task (.reprioritized _))) fun _ _ => ?_
  exact Action.runs_get_bind (Action.runs_emit rfl)

theorem runs_enqueue (declared : (core.sched.slot task).state ≠ .free) (notIdle : task ≠ idleTask)
    (id : ResourceId) : (enqueue id task).Runs (fun core => core) core := by
  refine .bind (Action.runs_edit (.joined declared notIdle)) fun _ _ => ?_
  refine .bind (Action.runs_edit (.task (.queued declared notIdle))) fun _ _ => ?_
  exact Action.runs_emit rfl

theorem runs_acquire (id : ResourceId) (task : TaskId) (core : Core C) :
    (acquire id task).Runs (fun core => core) core := by
  refine Action.runs_get_bind (Action.runs_require_bind fun resource _ => ?_)
  refine Action.runs_ofExcept_bind fun caller ok => ?_
  obtain ⟨declared, -⟩ := Scheduler.findTask_eq_ok ok
  split_ifs with _ _ idle
  · exact .nil _
  · exact .bind (runs_grant _ _ _ _) fun _ _ => .nil _
  · exact .nil _
  · exact .nil _
  · exact .bind (runs_enqueue declared idle _) fun _ _ => .nil _

omit [Machine C] in
/-- Whoever is granted a resource is a task. -/
theorem declared_of_grant {ceiling : Priority} {answer : Unit}
    (granted : ((grant id ceiling task).run core).result = .ok answer) :
    (((grant id ceiling task).run core).state.sched.slot task).state ≠ .free := by
  by_cases declared : (core.sched.slot task).state ≠ .free
  · rw [run_grant declared]
    change ((Core.modifyTask task _ _).sched.slot task).state ≠ .free
    rw [slot_modifyTask]
    split <;> exact declared
  · unfold grant at granted
    rw [Action.run_get_bind, Scheduler.findTask, if_pos (Decidable.not_not.mp declared)] at granted
    cases granted

/-- The longest waiting task gets the resource and is ready, unless it is refused: then the edits that
came before have been made. -/
theorem runs_release (id : ResourceId) (task : TaskId) (core : Core C) :
    (release id task).Runs (fun core => core) core := by
  refine Action.runs_get_bind (Action.runs_require_bind fun resource _ => ?_)
  split
  · exact .nil _
  refine .bind (Action.runs_edit .freed) fun _ _ => Action.runs_get_bind ?_
  refine Action.runs_ofExcept_bind fun _ _ => ?_
  refine .bind (Action.runs_edit (.task (.reprioritized _))) fun _ _ => ?_
  split
  · exact .nil _
  · refine .bind (runs_grant _ _ _ _) fun _ granted => ?_
    exact .bind (Action.runs_edit (.task (.received (declared_of_grant granted)))) fun _ _ =>
      .nil _

theorem runs_releaseOwned (task : TaskId) (ids : List ResourceId) (core : Core C) :
    (releaseOwned task ids).Runs (fun core => core) core := by
  induction ids generalizing core with
  | nil => exact .nil _
  | cons id rest ih =>
      refine Action.runs_get_bind ?_
      dsimp only
      split
      · exact .bind (runs_release id task core).attempt fun _ _ => ih _
      · exact ih core

theorem runs_releaseAll (task : TaskId) (core : Core C) :
    (releaseAll task).Runs (fun core => core) core :=
  Action.runs_get_bind (runs_releaseOwned task _ core)

end Core

namespace Scheduler

variable {C : Type} [Machine C]

theorem runs_setEvent (target : TaskId) (mask : EventMask) (sched : Scheduler C)
    (resources : Array Resource) :
    (setEvent target mask).Runs (fun sched => ⟨sched, resources⟩) sched := by
  refine Action.runs_get_bind (Action.runs_ofExcept_bind fun _ _ => ?_)
  refine .bind (Action.runs_edit (.task (.delivered mask))) fun _ _ => Action.runs_get_bind ?_
  split
  · rename_i awaited
    exact .bind (Action.runs_edit (.task (.woken awaited))) fun _ _ => .nil _
  · exact .nil _

theorem runs_waitEvent (mask : EventMask) (sched : Scheduler C) (resources : Array Resource) :
    (waitEvent mask).Runs (fun sched => ⟨sched, resources⟩) sched := by
  refine Action.runs_get_bind ?_
  split_ifs with _ idle
  · exact .nil _
  · exact .nil _
  · exact .bind (Action.runs_edit (.task (.awaiting mask idle))) fun _ _ => .nil _

theorem runs_reschedule (sched : Scheduler C) (resources : Array Resource) :
    (reschedule : Action (Scheduler C) Bool).Runs (fun sched => ⟨sched, resources⟩) sched := by
  rw [Action.Runs, run_reschedule]
  exact Core.Course.of_decision ⟨sched, resources⟩

/-- A switch moves registers, and lets the chosen task in where there are any to restore. -/
theorem runs_switchContext (outgoing : C) (sched : Scheduler C) (resources : Array Resource) :
    (switchContext outgoing).Runs (fun sched => ⟨sched, resources⟩) sched := by
  have saved : (Core.mk sched resources).Edit ⟨saveOutgoing outgoing sched, resources⟩ := by
    have edited : (sched.slot sched.current).Edited sched.current
        ((sched.slot sched.current).save outgoing) := by
      rw [Task.save_eq_with_context]
      exact .switched _
    exact .task edited
  refine .bind (Action.runs_edit saved) fun _ _ => Action.runs_get_bind ?_
  -- the registers are restored before the cursor follows
  have enters : ∀ sched : Scheduler C, (Action.modify fun sched : Scheduler C =>
      { sched.modify sched.selected fun task => { task with context := .onCpu } with
        current := sched.selected }).Runs (fun sched => ⟨sched, resources⟩) sched :=
    fun sched => .edited (.task (.switched .onCpu)) (.of_edit .entered)
  split
  · exact .bind (enters _) fun _ _ => .nil _
  · exact .bind (enters _) fun _ _ => .nil _
  · exact .bind (Action.runs_emit rfl) fun _ _ => .nil _
  · exact .bind (Action.runs_emit rfl) fun _ _ => .nil _

end Scheduler

namespace Kernel

variable {C α : Type} {kernel : Kernel C}

/-- What an operation does to tasks and resources as a part of the kernel, it does by itself. -/
theorem runs_onCore [Machine C] {action : Action (Core C) α}
    (runs : action.Runs (fun core => core) kernel.core) : (onCore action).Runs Kernel.core kernel :=
  runs

theorem runs_onScheduler [Machine C] {action : Action (Scheduler C) α}
    (runs : action.Runs (fun sched => ⟨sched, kernel.core.resources⟩) kernel.core.sched) :
    (onScheduler action).Runs Kernel.core kernel := runs

variable [Machine C]

theorem runs_reschedule (kernel : Kernel C) :
    (reschedule : Action (Kernel C) Unit).Runs Kernel.core kernel := by
  refine .bind (runs_onScheduler (Scheduler.runs_reschedule _ _)) fun needed _ => ?_
  split
  · exact Action.runs_modify rfl
  · exact .nil _

theorem runs_thenReschedule {action : Action (Scheduler C) Bool}
    (runs : action.Runs (fun sched => ⟨sched, kernel.core.resources⟩) kernel.core.sched) :
    (onScheduler action >>= fun needed => if needed then reschedule else pure () :
      Action (Kernel C) Unit).Runs Kernel.core kernel := by
  refine .bind (runs_onScheduler runs) fun needed _ => ?_
  split
  · exact runs_reschedule _
  · exact .nil _

theorem runs_updateTask {id : TaskId} {f : Task C → Except Refusal (Task C)}
    (edits : ∀ fresh, (kernel.core.sched.slot id).state ≠ .free →
      f (kernel.core.sched.slot id) = .ok fresh → (kernel.core.sched.slot id).Edited id fresh) :
    (updateTask id f).Runs Kernel.core kernel := by
  refine Action.runs_get_bind (Action.runs_ofExcept_bind fun task ok => ?_)
  obtain ⟨declared, rfl⟩ := Scheduler.findTask_eq_ok ok
  refine Action.runs_ofExcept_bind fun fresh updated => ?_
  exact runs_onCore (Action.runs_edit (.task (edits fresh declared updated)))

theorem runs_ready (id : TaskId) (kernel : Kernel C) :
    (ready id).Runs Kernel.core kernel :=
  runs_updateTask fun _ _ activates => .activated activates

theorem runs_finish {id : TaskId} (notIdle : id ≠ idleTask) (kernel : Kernel C) :
    (finish id).Runs Kernel.core kernel := by
  refine .bind (runs_onCore (Core.runs_releaseAll id _)) fun _ _ => ?_
  refine .bind (runs_updateTask fun fresh declared ended => ?_) fun _ _ => Action.runs_emit rfl
  cases ended
  exact .terminated declared notIdle

theorem runs_activateTask (id : TaskId) (kernel : Kernel C) :
    (activateTask id).Runs Kernel.core kernel :=
  .bind (runs_ready id kernel) fun _ _ => .bind (Action.runs_emit rfl) fun _ _ => runs_reschedule _

/-- Whatever follows, it follows for a caller that is not the idle task. -/
theorem runs_callerToEnd_bind {next : TaskId → Action (Kernel C) α}
    (late : ∀ caller ≠ idleTask, (next caller).Runs Kernel.core kernel) :
    (callerToEnd >>= next).Runs Kernel.core kernel := by
  have caller := run_callerToEnd kernel
  split at caller
  · rw [Action.Runs, Action.run_bind_of_error caller]
    exact .nil _
  · rename_i notIdle
    rw [Action.Runs, Action.run_bind_of_ok caller]
    exact late _ notIdle

theorem runs_terminateTask (kernel : Kernel C) :
    terminateTask.Runs Kernel.core kernel :=
  runs_callerToEnd_bind fun _ notIdle =>
    .bind (runs_finish notIdle kernel) fun _ _ => runs_reschedule _

theorem runs_chainTask (id : TaskId) (kernel : Kernel C) :
    (chainTask id).Runs Kernel.core kernel := by
  refine runs_callerToEnd_bind fun caller notIdle => Action.runs_get_bind ?_
  refine Action.runs_ofExcept_bind fun target _ => ?_
  split
  · exact .nil _
  · refine .bind (runs_finish notIdle kernel) fun _ _ => .bind (runs_ready id _) fun _ _ => ?_
    exact .bind (Action.runs_emit rfl) fun _ _ => runs_reschedule _

theorem runs_declare (entry : Entry) (priority : Priority) (stackWords : Nat) (argument : Int32)
    (kernel : Kernel C) :
    (declare entry priority stackWords argument).Runs Kernel.core kernel := by
  rw [Action.Runs]
  rcases run_declare kernel entry priority stackWords argument with
    ⟨_, refused⟩ | ⟨source, id, -, vacant, done⟩
  · rw [refused]
    exact .nil _
  · rw [done]
    dsimp only
    split
    · exact .nil _
    · exact .edited (.task (.declared _ (freeSlot?_spec vacant).2)) (.told rfl (.nil _))

theorem runs_getResource (id : ResourceId) (kernel : Kernel C) :
    (getResource id).Runs Kernel.core kernel :=
  Action.runs_get_bind <| .bind (runs_onCore (Core.runs_acquire id _ _)) fun _ _ =>
    .bind (runs_reschedule _) fun _ _ => .nil _

theorem runs_releaseResource (id : ResourceId) (kernel : Kernel C) :
    (releaseResource id).Runs Kernel.core kernel :=
  Action.runs_get_bind <| .bind (runs_onCore (Core.runs_release id _ _)) fun _ _ =>
    runs_reschedule _

theorem runs_setEvent (id : TaskId) (mask : EventMask) (kernel : Kernel C) :
    (setEvent id mask).Runs Kernel.core kernel :=
  runs_thenReschedule (Scheduler.runs_setEvent id mask _ _)

theorem runs_waitEvent (mask : EventMask) (kernel : Kernel C) :
    (waitEvent mask).Runs Kernel.core kernel :=
  runs_thenReschedule (Scheduler.runs_waitEvent mask _ _)

theorem runs_updateAlarms (f : AlarmTable → Except Refusal AlarmTable) (kernel : Kernel C) :
    (updateAlarms f).Runs Kernel.core kernel :=
  Action.runs_get_bind <| Action.runs_ofExcept_bind fun _ _ => Action.runs_modify rfl

/-! ### Interrupts -/

theorem runs_serve (call : InterruptCall) (kernel : Kernel C) :
    (serve call).Runs Kernel.core kernel := by
  cases call with
  | activateTask target => exact runs_activateTask target kernel
  | setEvent target mask => exact runs_setEvent target mask kernel

theorem runs_runHandler (tag : Nat) (handler : Handler) (kernel : Kernel C) :
    (runHandler tag handler).Runs Kernel.core kernel := by
  induction handler generalizing kernel with
  | done => exact .nil _
  | call request next ih =>
      exact .bind (runs_serve request kernel).attempt fun result _ =>
        .bind (Action.runs_emit rfl) fun _ _ => ih result _
  | note severity message next ih => exact .bind (Action.runs_emit rfl) fun _ _ => ih _

theorem runs_runAlarm (action : AlarmAction) (kernel : Kernel C) :
    (runAlarm action).Runs Kernel.core kernel := by
  cases action with
  | service request =>
      refine .bind (runs_serve request kernel).attempt fun result _ => ?_
      cases result with
      | ok => exact .nil _
      | error reason => exact Action.runs_emit rfl
  | callback code =>
      exact .bind (Action.runs_emit rfl) fun _ _ => runs_runHandler code.tag code.body _

theorem runs_runAlarms (actions : List AlarmAction) (kernel : Kernel C) :
    (runAlarms actions).Runs Kernel.core kernel := by
  induction actions generalizing kernel with
  | nil => exact .nil _
  | cons action rest ih => exact .bind (runs_runAlarm action kernel) fun _ _ => ih _

theorem runs_expire (kernel : Kernel C) :
    (onAlarms AlarmTable.expire).Runs Kernel.core kernel := by
  rw [Action.Runs, onAlarms, Action.run_within, AlarmTable.run_expire]
  refine Core.Course.of_told fun told member => ?_
  obtain ⟨id, -, shown⟩ := List.mem_flatMap.mp member
  unfold AlarmTable.expiry at shown
  split at shown
  · rw [List.mem_singleton.mp shown]
    rfl
  · cases shown

theorem runs_tick (kernel : Kernel C) : tick.Runs Kernel.core kernel :=
  .bind (runs_expire kernel) fun _ _ => .bind (runs_runAlarms _ _) fun _ _ => .nil _

/-! ### Operations -/

theorem runs_commitPending (outgoing : C) (kernel : Kernel C) :
    (commitPending outgoing).Runs Kernel.core kernel := by
  refine Action.runs_get_bind ?_
  split
  · refine .bind (Action.runs_modify rfl) fun _ _ => ?_
    exact .bind (runs_onScheduler (Scheduler.runs_switchContext outgoing _ _)) fun _ _ => .nil _
  · exact .nil _

theorem runs_perform (request : Request) (kernel : Kernel C) :
    (perform request).Runs Kernel.core kernel := by
  have answered : ∀ {β : Type} {action : Action (Kernel C) β} {reply : β → Reply},
      action.Runs Kernel.core kernel →
      (action >>= fun answer => pure (reply answer)).Runs Kernel.core kernel :=
    fun runs => .bind runs fun _ _ => .nil _
  have asked : ∀ {β : Type} {question : Kernel C → Except Refusal β},
      (Action.get >>= fun kernel => Action.ofExcept (question kernel)).Runs Kernel.core kernel :=
    Action.runs_get_bind (Action.runs_ofExcept _)
  cases request with
  | debug message =>
      exact answered (Action.runs_get_bind (.bind (Action.runs_emit rfl) fun _ _ =>
        Action.runs_modify rfl))
  | declare entry priority stackWords argument =>
      exact answered (runs_declare entry priority stackWords argument kernel)
  | activateTask task => exact answered (runs_activateTask task kernel)
  | terminateTask => exact answered (runs_terminateTask kernel)
  | chainTask task => exact answered (runs_chainTask task kernel)
  | getTaskId => exact .nil _
  | getTaskState task =>
      exact answered (Action.runs_get_bind (Action.runs_ofExcept_bind fun _ _ => .nil _))
  | getResource resource => exact answered (runs_getResource resource kernel)
  | releaseResource resource => exact answered (runs_releaseResource resource kernel)
  | setEvent task mask => exact answered (runs_setEvent task mask kernel)
  | clearEvent mask =>
      exact answered (runs_onScheduler (Action.runs_edit (.task (.cleared _))))
  | getEvent task => exact answered asked
  | waitEvent mask => exact answered (runs_waitEvent mask kernel)
  | getAlarmBase alarm => exact answered asked
  | getAlarm alarm => exact answered asked
  | setRelAlarm alarm increment cycle => exact answered (runs_updateAlarms _ kernel)
  | setAbsAlarm alarm start cycle => exact answered (runs_updateAlarms _ kernel)
  | cancelAlarm alarm => exact answered (runs_updateAlarms _ kernel)

theorem runs_handleTrap (memory : Memory) (number : Nat) (words : Registers) (kernel : Kernel C) :
    (handleTrap memory number words).Runs Kernel.core kernel := by
  have performed : (performTrap memory number words).Runs Kernel.core kernel :=
    Action.runs_ofExcept_bind fun request _ => runs_perform request kernel
  exact .bind performed.attempt fun _ _ => .nil _

end Kernel

/-- Every step of a kernel, from whatever state, goes its way by edits and decisions. -/
theorem Step.course {C : Type} [Machine C] (step : Step C) :
    Core.Course step.before.core step.done.trace step.after.core := by
  obtain ⟨kernel, operation⟩ := step
  change operation.perform.Runs Kernel.core kernel
  cases operation with
  | launch outgoing =>
      exact .bind (Action.runs_modify rfl) fun _ _ => Kernel.runs_commitPending outgoing _
  | install heap => exact .bind (Action.runs_modify rfl) fun _ _ => .nil _
  | tick => exact .bind (Kernel.runs_tick kernel) fun _ _ => .nil _
  | interrupt call => exact .bind (Kernel.runs_serve call kernel) fun _ _ => .nil _
  | dispatch outgoing => exact Kernel.runs_commitPending outgoing kernel
  | switch outgoing =>
      exact .bind (Kernel.runs_onScheduler (Scheduler.runs_switchContext outgoing _ _))
        fun _ _ => .nil _
  | request asked => exact .bind (Kernel.runs_perform asked kernel) fun _ _ => .nil _
  | trap memory number words =>
      exact .bind (Kernel.runs_handleTrap memory number words kernel) fun _ _ => .nil _

/-! ### What every way keeps -/

/-- The slot holds a task, with something to run. -/
structure Task.Declared {C : Type} (task : Task C) : Prop where
  state : task.state ≠ .free
  image : task.image.isSome

namespace Task

variable {C : Type} {id : TaskId} {task fresh : Task C}

theorem Declared.demote (declared : task.Declared) : task.demote.Declared := by
  unfold Task.demote
  split
  · exact ⟨nofun, declared.image⟩
  · exact declared

/-- No edit makes a slot vacant again. -/
theorem Edited.stays_declared [Machine C] (edited : task.Edited id fresh)
    (declared : task.Declared) : fresh.Declared := by
  obtain ⟨state, image⟩ := declared
  have suspended : TaskState.suspended ≠ .free := by decide
  have ready : TaskState.ready ≠ .free := by decide
  have waiting : TaskState.waiting ≠ .free := by decide
  cases edited with
  | declared spec free => exact absurd free state
  | activated activates =>
      obtain ⟨found, imaged⟩ := Option.isSome_iff_exists.mp image
      rw [activate, suspended_of_activate activates, imaged] at activates
      cases activates
      exact ⟨ready, rfl⟩
  | terminated => exact ⟨suspended, image⟩
  | awaiting | queued => exact ⟨waiting, image⟩
  | woken | received => exact ⟨ready, image⟩
  | delivered | cleared | reprioritized | switched => exact ⟨state, image⟩

end Task

theorem Scheduler.declared_demoteUnless {C : Type} {sched : Scheduler C} {next id other : TaskId}
    (declared : (sched.slot other).Declared) :
    ((sched.demoteUnless next id).slot other).Declared := by
  rw [slot_demoteUnless]
  split
  · exact declared.demote
  · exact declared

namespace Core

variable {C : Type} {first last core : Core C} {seen : Trace} {id : TaskId}

/-- A decision moves running marks only, whatever it is taken on. -/
theorem declared_decided (declared : (core.sched.slot id).Declared) :
    (core.decided.sched.slot id).Declared := by
  change (core.sched.decided.slot id).Declared
  unfold Scheduler.decided
  split
  · exact declared
  · rename_i next _
    have demoted : (((core.sched.demoteUnless next core.sched.current).demoteUnless next
        core.sched.selected).slot id).Declared :=
      Scheduler.declared_demoteUnless (Scheduler.declared_demoteUnless declared)
    change ((((core.sched.demoteUnless next core.sched.current).demoteUnless next
      core.sched.selected).modify next fun task => { task with state := .running }).slot id).Declared
    rw [Scheduler.slot_modify]
    split
    · exact ⟨nofun, demoted.image⟩
    · exact demoted

variable [Machine C]

theorem Edit.declared (edit : first.Edit last) (declared : (first.sched.slot id).Declared) :
    (last.sched.slot id).Declared := by
  cases edit with
  | task edited =>
      rw [slot_modifyTask]
      split
      · rename_i here
        obtain ⟨rfl, -⟩ := here
        exact edited.stays_declared declared
      · exact declared
  | taken | freed | joined | entered => exact declared

/-- What every edit and every decision keeps, every way keeps. -/
theorem Course.keeps (way : first.Course seen last) (property : Core C → Prop)
    (edits : ∀ {first last : Core C}, first.Edit last → property first → property last)
    (decides : ∀ {core : Core C}, property core → property core.decided)
    (start : property first) : property last := by
  induction way with
  | nil => exact start
  | edited edit _ ih => exact ih (edits edit start)
  | told _ _ ih => exact ih start
  | decided _ ih => exact ih (decides start)

/-- A task that is declared stays so. -/
theorem Course.declared (way : first.Course seen last)
    (declared : (first.sched.slot id).Declared) : (last.sched.slot id).Declared :=
  way.keeps (fun core => (core.sched.slot id).Declared) Edit.declared declared_decided declared

theorem Edit.selected_eq (edit : first.Edit last) : last.sched.selected = first.sched.selected := by
  cases edit <;> rfl

/-- The chosen task is the one that the last decision is seen to choose, or the one that was chosen
before if there is none. -/
theorem Course.selected_eq (way : first.Course seen last) :
    last.sched.selected = (decisions seen).getLast?.getD first.sched.selected := by
  induction way with
  | nil => rfl
  | edited edit _ ih => rw [ih, edit.selected_eq]
  | told other _ ih => simp [ih, other]
  | @decided core last seen _ ih =>
      rw [ih]
      unfold Core.decided Scheduler.decisionTrace Scheduler.decided
      cases core.sched.decide with
      | none => rfl
      | some next =>
          cases after : (decisions seen).getLast? <;>
            simp [Observation.decided?, List.getLast?_cons, after]

end Core

end Rtos
