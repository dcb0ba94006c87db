/-
Module: Rtos.Proofs.Lifecycle
Purpose: The state machine of a task.  Whatever a step does, and however many tasks it concerns, each
  of them goes along an edge of the state machine or stays where it is, and every edge has its own
  kind of cause.
Main definitions: Move.Turn, TaskState.Rises, Step.Activates, Step.Ends, Step.Blocks, Step.Resumes,
  Step.Transition
Main statements: `Move.Allowed.turn`, `Step.Ready.conforms`, `Execution.transition`
-/
import Rtos.Proofs.Course
import Rtos.Proofs.Delivery
import Rtos.Proofs.Handover

namespace Rtos

/-! ### Moves -/

/-- What a move, and the decision that may follow on it, make of the state of a task. -/
inductive Move.Turn (move : Move) (current id : TaskId) : TaskState → TaskState → Prop where
  | kept (state : TaskState) : Turn move current id state state
  | remarked {before after : TaskState} (could : before.isRunnable) (can : after.isRunnable) :
      Turn move current id before after
  | woken {after : TaskState} (can : after.isRunnable) : Turn move current id .waiting after
  | declared (spec : TaskSpec) (place : move = .declare id spec) :
      Turn move current id .free .suspended
  | started {after : TaskState} (target : move.activates? = some id) (can : after.isRunnable) :
      Turn move current id .suspended after
  | blocked {before : TaskState} (caller : id = current) (blocks : move.blocks) :
      Turn move current id before .waiting
  | ended {before : TaskState} (caller : id = current) (ends : move.ends) :
      Turn move current id before .suspended

namespace Move

variable {C : Type} [Machine C] {core : Core C} {move : Move} {id : TaskId}

omit [Machine C] in
/-- What is activated was suspended, unless it is the caller that starts afresh. -/
theorem Allowed.suspended_or_runnable (allowed : move.Allowed core) (sound : core.Sound)
    (target : move.activates? = some id) :
    (core.sched.slot id).state = .suspended ∨ (core.sched.slot id).state.isRunnable := by
  have permitted := allowed.permitted
  cases move with
  | start other =>
      cases target
      exact .inl permitted
  | chain other =>
      cases target
      rcases permitted.2 with rfl | suspended
      · exact .inr (allowed.caller_runnable sound rfl)
      · exact .inl suspended
  | _ => cases target

/-- A move takes a task along one edge of its state machine at most. -/
theorem Allowed.turn (allowed : move.Allowed core) (sound : core.Sound) (id : TaskId) :
    move.Turn core.sched.current id (core.sched.slot id).state
      ((move.apply core).sched.slot id).state := by
  obtain ⟨state, applied, marks⟩ := allowed.slot_apply sound id
  rw [applied]
  change move.Turn _ _ _ state
  have can : ((move.edit core).sched.slot id).state = .ready → state.isRunnable := by
    intro ready
    rcases marks with same | ⟨runnable, -⟩
    · rw [same, ready]
      rfl
    · exact runnable
  have settled : ((move.edit core).sched.slot id).state.isRunnable = false →
      state = ((move.edit core).sched.slot id).state := by
    intro blocked
    refine marks.resolve_right fun both => ?_
    rw [blocked] at both
    cases both.2
  cases allowed.change sound id with
  | kept same other =>
      rcases same.state with still | ⟨waiting, ready⟩
      · rw [still] at marks
        rcases marks with rfl | ⟨after, before⟩
        · exact .kept _
        · exact .remarked before after
      · rw [waiting]
        exact .woken (can ready)
  | declared spec place free filled =>
      have suspended : ((move.edit core).sched.slot id).state = .suspended := by rw [filled]; rfl
      rw [free, settled (by rw [suspended]; rfl), suspended]
      exact .declared spec place
  | started target ready =>
      rcases allowed.suspended_or_runnable sound target with suspended | runnable
      · rw [suspended]
        exact .started target (can ready)
      · exact .remarked runnable (can ready)
  | blocked caller blocks waiting =>
      rw [settled (by rw [waiting]; rfl), waiting]
      exact .blocked caller blocks
  | ended caller ends other suspended =>
      rw [settled (by rw [suspended]; rfl), suspended]
      exact .ended caller ends

end Move

/-! ### Calls -/

/-- What calls make of the state of a task.  A suspended one has a reason to be started. -/
inductive TaskState.Rises (starts : Prop) : TaskState → TaskState → Prop where
  | kept (state : TaskState) : Rises starts state state
  | remarked {before after : TaskState} (could : before.isRunnable) (can : after.isRunnable) :
      Rises starts before after
  | woken {after : TaskState} (can : after.isRunnable) : Rises starts .waiting after
  | started {after : TaskState} (why : starts) (can : after.isRunnable) :
      Rises starts .suspended after

namespace TaskState

variable {starts more : Prop} {before middle after : TaskState}

theorem running_or_ready (runnable : before.isRunnable) : before = .running ∨ before = .ready := by
  cases before <;> simp [isRunnable] at *

theorem Rises.mono (rises : Rises starts before after) (reason : starts → more) :
    Rises more before after := by
  cases rises with
  | kept => exact .kept _
  | remarked could can => exact .remarked could can
  | woken can => exact .woken can
  | started why can => exact .started (reason why) can

theorem Rises.isRunnable (rises : Rises starts before after) (could : before.isRunnable) :
    after.isRunnable := by
  cases rises with
  | kept => exact could
  | remarked _ can | woken can | started _ can => exact can

theorem Rises.trans (early : Rises starts before middle) (late : Rises starts middle after) :
    Rises starts before after := by
  cases early with
  | kept => exact late
  | remarked could can => exact .remarked could (late.isRunnable can)
  | woken can => exact .woken (late.isRunnable can)
  | started why can => exact .started why (late.isRunnable can)

end TaskState

/-- Interrupts neither block a task nor end one. -/
theorem Move.spares_of_isInterrupt {move : Move} (interrupt : move.isInterrupt) :
    move.blocks = false ∧ move.ends = false := by
  cases move <;> first | exact ⟨rfl, rfl⟩ | cases interrupt

/-- All that interrupts do to a task is to start or to wake it. -/
theorem Move.Turn.rises {move : Move} {current id : TaskId} {before after : TaskState}
    (turn : move.Turn current id before after) (interrupt : move.isInterrupt) :
    TaskState.Rises (move.activates? = some id) before after := by
  obtain ⟨noBlock, noEnd⟩ := spares_of_isInterrupt interrupt
  cases turn with
  | kept => exact .kept _
  | remarked could can => exact .remarked could can
  | woken can => exact .woken can
  | declared spec place =>
      rw [place] at interrupt
      cases interrupt
  | started target can => exact .started target can
  | blocked caller blocks => cases noBlock.symm.trans blocks
  | ended caller ends => cases noEnd.symm.trans ends

section

variable {C : Type} [Machine C] {made : CallAt C} {id : TaskId}

/-- The call activates the task. -/
def CallAt.Activates (made : CallAt C) (id : TaskId) : Prop :=
  made.call = .activateTask id ∧ made.done.result = .ok ()

theorem CallAt.rises (sound : made.before.core.Sound) (id : TaskId) :
    TaskState.Rises (made.Activates id) (made.before.core.sched.slot id).state
      (made.after.core.sched.slot id).state := by
  rcases CallAt.moves_or_refused sound with ⟨move, moves⟩ | refused
  · rw [moves.core]
    exact ((moves.allowed.turn sound id).rises moves.interrupt).mono (moves.starts id)
  · rw [refused.core]
    exact .kept _

/-- All that calls do for a task is to start or to wake it. -/
theorem Core.ByCalls.rises {first last : Core C} {calls : List (CallAt C)}
    (way : first.ByCalls calls last) (sound : first.Sound) (id : TaskId) :
    TaskState.Rises (∃ made ∈ calls, made.Activates id) (first.sched.slot id).state
      (last.sched.slot id).state := by
  induction way with
  | nil => exact .kept _
  | call rest ih =>
      have now := CallAt.rises sound id
      have later := ih (CallAt.sound_after sound)
      refine (now.mono fun activates => ⟨_, List.mem_cons_self, activates⟩).trans (later.mono ?_)
      rintro ⟨made, member, activates⟩
      exact ⟨made, List.mem_cons_of_mem _ member, activates⟩

/-- The call delivers events to the task, among them some of the mask. -/
def CallAt.Hits (made : CallAt C) (id : TaskId) (mask : EventMask) : Prop :=
  ∃ events, made.call = .setEvent id events ∧ made.done.result = .ok () ∧ events &&& mask ≠ 0

theorem CallAt.hits_of_delivered {mask : EventMask} (hit : made.delivered id &&& mask ≠ 0) :
    made.Hits id mask := by
  unfold CallAt.delivered at hit
  cases call : made.call with
  | activateTask target => simp [call] at hit
  | setEvent target events =>
      rw [call] at hit
      dsimp only at hit
      split at hit
      · rename_i both
        obtain ⟨rfl, succeeds⟩ := both
        refine ⟨events, call, ?_, hit⟩
        cases result : made.done.result with
        | ok => rfl
        | error reason =>
            rw [result] at succeeds
            cases succeeds
      · simp at hit

end

/-! ### Steps -/

namespace Step

variable {C : Type} [Machine C] {step : Step C} {id : TaskId} {before after : TaskState}

/-- The task is activated, by one of the calls of the step or as the successor of the caller. -/
def Activates (step : Step C) (id : TaskId) : Prop :=
  (∃ made ∈ step.calls, made.Activates id) ∨ step.Granted (.chainTask id) .done

/-- The task is the caller, and asks successfully to end. -/
structure Ends (step : Step C) (id : TaskId) : Prop where
  caller : step.before.current = id
  granted : step.Granted .terminateTask .done ∨ ∃ next, step.Granted (.chainTask next) .done

/-- The task is the caller, and is told to wait for a resource or asks for events that are not
there. -/
structure Blocks (step : Step C) (id : TaskId) : Prop where
  caller : step.before.current = id
  granted : (∃ resource, step.Granted (.getResource resource) (.acquired .blocked)) ∨
    ∃ mask, step.Granted (.waitEvent mask) .done ∧
      (step.before.sched.slot id).eventFlags &&& mask = 0

/-- One of the calls of the step brings an event that the task waits for, or a resource is handed
over to it. -/
def Resumes (step : Step C) (id : TaskId) : Prop :=
  (∃ made ∈ step.calls, made.Hits id (step.before.sched.slot id).eventWait) ∨
    ∃ resource, step.HandsOver resource id

/-- The task that the step decides for in the end, if it takes any decision. -/
def lastChoice? (step : Step C) : Option TaskId := (decisions step.done.trace).getLast?

/-- The state machine of a task: the states that a step may take it from and to, and why. -/
inductive Transition (step : Step C) (id : TaskId) : TaskState → TaskState → Prop where
  | same (state : TaskState) : Transition step id state state
  | declared {entry : Entry} {priority : Priority} {stackWords : Nat} {argument : Int32}
      (granted : step.Granted (.declare entry priority stackWords argument) (.task id)) :
      Transition step id .free .suspended
  | activated {after : TaskState} (activates : step.Activates id) (can : after.isRunnable) :
      Transition step id .suspended after
  | ended (ends : step.Ends id) : Transition step id .running .suspended
  | blocked (blocks : step.Blocks id) : Transition step id .running .waiting
  | resumed {after : TaskState} (resumes : step.Resumes id) (can : after.isRunnable) :
      Transition step id .waiting after
  | chosen (choice : step.lastChoice? = some id) : Transition step id .ready .running
  | displaced {next : TaskId} (choice : step.lastChoice? = some next) (other : next ≠ id) :
      Transition step id .running .ready

/-- A blocked task goes on when it is notified of what it waits for or handed a resource. -/
theorem Ready.resumes (ready : step.Ready) (waiting : (step.before.sched.slot id).state = .waiting)
    (left : (step.after.sched.slot id).state ≠ .waiting) : step.Resumes id := by
  by_cases queued : ∃ resource, id ∈ step.before.core.queueOf resource
  · obtain ⟨resource, queued⟩ := queued
    rcases ready.queued_or_handedOver queued with still | handed
    · exact absurd (ready.core_sound.awaitsIn still).1 left
    · exact .inr ⟨resource, handed⟩
  · have asleep : step.before.core.Asleep id (step.before.sched.slot id).eventWait
        (step.before.sched.slot id).eventFlags :=
      ⟨waiting, rfl, rfl, fun resource member => queued ⟨resource, member⟩⟩
    left
    by_contra missed
    refine left (ready.trail.asleep ready.sound asleep fun made member => ?_).waiting
    by_contra hit
    exact missed ⟨made, member, CallAt.hits_of_delivered hit⟩

/-- Running marks are moved by decisions, and a step leaves them as its last one says. -/
theorem Ready.transition_of_runnable (ready : step.Ready)
    (could : (step.before.sched.slot id).state.isRunnable)
    (can : (step.after.sched.slot id).state.isRunnable) :
    step.Transition id (step.before.sched.slot id).state (step.after.sched.slot id).state := by
  have early : (step.before.sched.slot id).state = .running ↔ id = step.before.core.sched.selected :=
    ready.sound.running id
  have late : (step.after.sched.slot id).state = .running ↔ id = step.after.core.sched.selected :=
    ready.core_sound.running id
  have selected : step.after.core.sched.selected =
      step.lastChoice?.getD step.before.core.sched.selected := step.course.selected_eq
  rcases TaskState.running_or_ready could with before | before <;>
    rcases TaskState.running_or_ready can with after | after <;>
    rw [before, after] <;> rw [before] at early <;> rw [after] at late
  · exact .same _
  · have was := early.mp rfl
    have other := mt late.mpr nofun
    cases choice : step.lastChoice? with
    | none => exact absurd (was.trans (by rw [selected, choice]; rfl)) other
    | some next =>
        refine .displaced choice ?_
        rintro rfl
        exact other (by rw [selected, choice]; rfl)
  · have other := mt early.mpr nofun
    have is := late.mp rfl
    cases choice : step.lastChoice? with
    | none => exact absurd (is.trans (by rw [selected, choice]; rfl)) other
    | some next =>
        rw [selected, choice] at is
        exact .chosen (is ▸ choice)
  · exact .same _

theorem Ready.transition_of_woken (ready : step.Ready)
    (waiting : (step.before.sched.slot id).state = .waiting)
    (can : (step.after.sched.slot id).state.isRunnable) :
    step.Transition id (step.before.sched.slot id).state (step.after.sched.slot id).state := by
  rw [waiting]
  exact .resumed (ready.resumes waiting (TaskState.ne_waiting_of_isRunnable can)) can

/-- A step that consists of its calls starts and wakes tasks. -/
theorem Ready.transition_of_rises (ready : step.Ready)
    (before_eq : (step.before.sched.slot id).state = before)
    (after_eq : (step.after.sched.slot id).state = after)
    (rises : TaskState.Rises (∃ made ∈ step.calls, made.Activates id) before after) :
    step.Transition id before after := by
  cases rises with
  | kept => exact .same _
  | remarked could can =>
      subst before_eq after_eq
      exact ready.transition_of_runnable could can
  | woken can =>
      subst after_eq
      rw [← before_eq]
      exact ready.transition_of_woken before_eq can
  | started activates can => exact .activated (.inl activates) can

/-- A request that is granted makes the one change that it is for, besides those that come of ending
a task. -/
theorem Ready.transition_of_granted (ready : step.Ready) {request : Request} {reply : Reply}
    {move : Move} (before_eq : (step.before.sched.slot id).state = before)
    (after_eq : (step.after.sched.slot id).state = after)
    (turn : move.Turn step.before.current id before after) (served : step.Served request move)
    (answers : move.Answers request reply) (granted : step.Granted request reply)
    (reserved : request.call? = none) : step.Transition id before after := by
  have running := ready.running_of_request? granted.asked
  cases turn with
  | kept => exact .same _
  | remarked could can =>
      subst before_eq after_eq
      exact ready.transition_of_runnable could can
  | woken can =>
      subst after_eq
      rw [← before_eq]
      exact ready.transition_of_woken before_eq can
  | declared spec place =>
      subst place
      cases answers
      exact .declared granted
  | started target can =>
      cases answers with
      | start => cases reserved
      | chain next =>
          cases target
          exact .activated (.inr granted) can
      | _ => cases target
  | blocked caller blocks =>
      subst caller
      rw [running] at before_eq
      subst before_eq
      cases answers with
      | queue resource => exact .blocked ⟨rfl, .inl ⟨resource, granted⟩⟩
      | await mask => exact .blocked ⟨rfl, .inr ⟨mask, granted, served.allowed.permitted.2⟩⟩
      | _ => cases blocks
  | ended caller ends =>
      subst caller
      rw [running] at before_eq
      subst before_eq
      cases answers with
      | finish => exact .ended ⟨rfl, .inl granted⟩
      | chain next => exact .ended ⟨rfl, .inr ⟨next, granted⟩⟩
      | _ => cases ends

/-- Every step takes every task along one edge of the state machine at most. -/
theorem Ready.conforms (ready : step.Ready) (id : TaskId) :
    step.Transition id (step.before.sched.slot id).state (step.after.sched.slot id).state := by
  cases ready.consists with
  | @switch outgoing switches =>
      have same : (step.after.sched.slot id).state = (step.before.sched.slot id).state := by
        change (step.after.core.sched.slot id).state = _
        rw [switches.core, Core.switched_eq_with_context ready.sound.selected_lt outgoing id]
        rfl
      rw [same]
      exact .same _
  | calls way => exact ready.transition_of_rises rfl rfl (way.rises ready.sound id)
  | request served answers granted reserved =>
      refine ready.transition_of_granted rfl rfl ?_ served answers granted reserved
      change Move.Turn _ _ _ _ (step.after.core.sched.slot id).state
      rw [served.core]
      exact served.allowed.turn ready.sound id

end Step

namespace Execution

variable {C : Type} [Machine C] {admits : Step C → Prop} {config : Configuration}
  {steps : List (Step C)} {step : Step C} {kernel : Kernel C}

/-- In every step of an execution every task stays in its state or goes along one edge of the state
machine.  A vacant slot is filled by a declaration that returns its id, and no slot becomes vacant
again.  A suspended task is started by an activation or as the successor of a caller that ends; only
a caller that ends is suspended, and only a caller that asks for a resource that is owned, or for
events that are not there, is blocked.  It goes on when one of the events is delivered or a resource
is handed over to it.  All else is marking the chosen task, as the last decision of the step says. -/
theorem transition (execution : Execution admits config steps kernel) (member : step ∈ steps)
    (id : TaskId) :
    step.Transition id (step.before.sched.slot id).state (step.after.sched.slot id).state := by
  obtain ⟨_, latest⟩ := execution.exists_latest member
  exact latest.ready.conforms id

/-- A task that owns a resource which another one waits for ends, and starts a third one. -/
def succeeded : List (Operation FrameIndex) :=
  [.launch ⟨0⟩, .install (.budget 64), .request (.declare 0x501 1 0 0), .request (.getResource 0),
    .request (.activateTask 2), .dispatch ⟨1⟩, .request (.getResource 0), .dispatch ⟨2⟩,
    .request (.chainTask 3)]

set_option maxRecDepth 8000 in
theorem transition_of_succeeded :
    ∃ (steps : List (Step FrameIndex)) (kernel : Kernel FrameIndex) (step : Step FrameIndex),
      Execution (fun _ => True) (Configuration.pair 2) steps kernel ∧ step ∈ steps ∧
        step.Ends 1 ∧ step.Resumes 2 ∧ step.Activates 3 := by
  have execution : Execution (fun _ => True) (Configuration.pair 2) (pairSteps 2 succeeded)
      (pairReached 2 succeeded) :=
    of_pair (by decide) (by decide) (by decide)
  have last : ∃ step ∈ pairSteps 2 succeeded,
      ((step.before.sched.slot 1).state = .running ∧
        (step.after.sched.slot 1).state = .suspended) ∧
      ((step.before.sched.slot 2).state = .waiting ∧
        (step.after.sched.slot 2).state = .ready) ∧
      (step.before.sched.slot 3).state = .suspended ∧
        (step.after.sched.slot 3).state = .running :=
    ⟨_, List.mem_cons_self, by decide, by decide, by decide⟩
  obtain ⟨step, member, ⟨running, suspended⟩, ⟨waiting, ready⟩, idle, chosen⟩ := last
  have first := execution.transition member 1
  have second := execution.transition member 2
  have third := execution.transition member 3
  rw [running, suspended] at first
  rw [waiting, ready] at second
  rw [idle, chosen] at third
  refine ⟨_, _, step, execution, member, ?_, ?_, ?_⟩
  · cases first with
    | ended ends => exact ends
  · cases second with
    | resumed resumes => exact resumes
  · cases third with
    | activated activates => exact activates

end Execution

end Rtos
