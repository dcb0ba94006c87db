/-
Module: Rtos.Proofs.Resumption
Purpose: Where a switch finds the registers of the task that it puts on the CPU.  A task that has
  not run since its last activation starts from the frame that the activation primed; any other goes
  on from the handle that was given to the last switch while it was on the CPU.
Main definitions: Moment, chronicle, History.resumed?, Task.Agrees
Main statements: `Move.Allowed.agrees`, `Execution.agrees`, `Execution.restored_eq_resumed?`
-/
import Rtos.Proofs.Change
import Rtos.Proofs.Execution

namespace Rtos

/-- What happens to the registers of a task. -/
inductive Moment (C : Type) where
  /-- An activation primes the stack, to be started from the handle. -/
  | activated (id : TaskId) (handle? : Option C)
  /-- A switch is carried out while the task is on the CPU, and gets the handle of its registers. -/
  | left (id : TaskId) (outgoing : C)
  /-- A switch puts the task on the CPU. -/
  | entered (id : TaskId)

/-- What has happened so far, latest first. -/
abbrev History (C : Type) := List (Moment C)

namespace History

variable {C : Type} {id : TaskId} {earlier : History C}

/-- The task has been put on the CPU since it was last activated. -/
def dispatched (id : TaskId) : History C → Bool
  | [] => false
  | .activated other _ :: earlier => if other = id then false else dispatched id earlier
  | .left .. :: earlier => dispatched id earlier
  | .entered other :: earlier => if other = id then true else dispatched id earlier

/-- The handle that the last activation of the task primed. -/
def primed? (id : TaskId) : History C → Option C
  | [] => none
  | .activated other handle? :: earlier => if other = id then handle? else primed? id earlier
  | .left .. :: earlier | .entered _ :: earlier => primed? id earlier

/-- The handle given to the last switch that was carried out while the task was on the CPU. -/
def handedIn? (id : TaskId) : History C → Option C
  | [] => none
  | .left other outgoing :: earlier => if other = id then some outgoing else handedIn? id earlier
  | .activated .. :: earlier | .entered _ :: earlier => handedIn? id earlier

/-- From where the task should go on. -/
def resumed? (id : TaskId) (history : History C) : Option C :=
  if dispatched id history then handedIn? id history else primed? id history

/-- When a task is left, that is from where it goes on, unless it has been activated since it last
ran. -/
theorem resumed?_left {other : TaskId} {outgoing : C} :
    resumed? id (.left other outgoing :: earlier) =
      if dispatched id earlier then
        if other = id then some outgoing else handedIn? id earlier
      else primed? id earlier := rfl

/-- Some tasks are activated in turn, each to be started from a fresh handle. -/
def activatedAll (fresh? : TaskId → Option C) (earlier : History C) : List TaskId → History C
  | [] => earlier
  | id :: rest => activatedAll fresh? (.activated id (fresh? id) :: earlier) rest

/-- Activations put nobody on the CPU. -/
theorem dispatched_activatedAll (fresh? : TaskId → Option C) (ids : List TaskId)
    (idle : earlier.dispatched id = false) :
    (activatedAll fresh? earlier ids).dispatched id = false := by
  induction ids generalizing earlier with
  | nil => exact idle
  | cons first rest ih =>
      refine ih ?_
      rw [dispatched, idle]
      exact ite_self _

theorem primed?_activatedAll (fresh? : TaskId → Option C) (ids : List TaskId)
    (primed : earlier.primed? id = fresh? id ∨ id ∈ ids) :
    (activatedAll fresh? earlier ids).primed? id = fresh? id := by
  induction ids generalizing earlier with
  | nil => exact primed.resolve_right List.not_mem_nil
  | cons first rest ih =>
      refine ih ?_
      rw [primed?]
      by_cases here : first = id
      · rw [if_pos here, here]
        exact .inl rfl
      · rw [if_neg here]
        exact primed.imp_right fun member =>
          (List.mem_cons.mp member).resolve_left fun same => here same.symm

end History

/-! ### What happens in an execution -/

/-- What has happened after the step. -/
def Step.remember {C : Type} [Machine C] (step : Step C) (earlier : History C) : History C :=
  match step.outgoing? with
  | some outgoing => .entered step.after.current :: .left step.before.current outgoing :: earlier
  | none =>
      History.activatedAll (fun id => (step.before.sched.slot id).freshHandle?) earlier
        (activations step.done.trace)

/-- What has happened in an execution, from the activations at boot on. -/
def chronicle {C : Type} [Machine C] (config : Configuration) : List (Step C) → History C
  | [] =>
      History.activatedAll (fun id => config.tasks[id]?.map fun spec => spec.image.freshHandle) []
        (Kernel.autostarted config.tasks)
  | step :: earlier => step.remember (chronicle config earlier)

/-! ### Tasks that agree with their history -/

/-- The registers of the task are where its history says. -/
structure Task.Agrees {C : Type} (id : TaskId) (history : History C) (task : Task C) : Prop where
  primed : ∀ handle, task.context = .primed handle →
    history.dispatched id = false ∧ history.primed? id = some handle
  onCpu : task.context = .onCpu → history.dispatched id
  saved : ∀ handle, task.context = .saved handle →
    history.dispatched id ∧ history.handedIn? id = some handle

namespace Task

variable {C : Type} {id other : TaskId} {history : History C} {task after : Task C}

/-- Registers that are nowhere agree with any history. -/
theorem agrees_of_dormant (dormant : task.context = .dormant) : task.Agrees id history := by
  constructor
  all_goals
    rw [dormant]
    nofun

theorem Agrees.congr (agrees : task.Agrees id history) (same : after.context = task.context) :
    after.Agrees id history := by
  constructor
  all_goals rw [same]
  · exact agrees.primed
  · exact agrees.onCpu
  · exact agrees.saved

/-- The activation of another task does not matter. -/
theorem Agrees.activated (agrees : task.Agrees id history) {handle? : Option C}
    (apart : other ≠ id) : task.Agrees id (.activated other handle? :: history) := by
  constructor
  all_goals simp only [History.dispatched, History.primed?, History.handedIn?, if_neg apart]
  · exact agrees.primed
  · exact agrees.onCpu
  · exact agrees.saved

/-- It does not matter that another task is put on the CPU. -/
theorem Agrees.entered (agrees : task.Agrees id history) (apart : other ≠ id) :
    task.Agrees id (.entered other :: history) := by
  constructor
  all_goals simp only [History.dispatched, History.primed?, History.handedIn?, if_neg apart]
  · exact agrees.primed
  · exact agrees.onCpu
  · exact agrees.saved

/-- A switch keeps live registers under the handle that it gets. -/
theorem Agrees.left (agrees : task.Agrees id history) (outgoing : C)
    (unsaved : ∀ handle, task.context ≠ .saved handle) :
    (task.save outgoing).Agrees id (.left id outgoing :: history) := by
  by_cases live : task.context = .onCpu
  · rw [save_of_onCpu live]
    refine ⟨nofun, nofun, ?_⟩
    rintro handle ⟨⟩
    exact ⟨agrees.onCpu live, if_pos rfl⟩
  · rw [save_of_ne live]
    exact ⟨agrees.primed, agrees.onCpu, fun handle saved => absurd saved (unsaved handle)⟩

/-- A switch concerns no other task than the one on the CPU and the one chosen. -/
theorem Agrees.left_other (agrees : task.Agrees id history) (outgoing : C) (apart : other ≠ id) :
    task.Agrees id (.left other outgoing :: history) := by
  constructor
  all_goals simp only [History.dispatched, History.primed?, History.handedIn?, if_neg apart]
  · exact agrees.primed
  · exact agrees.onCpu
  · exact agrees.saved

end Task

namespace Move

variable {C : Type} [Machine C] {core : Core C} {move : Move} {history : History C}

/-- What has happened after a move. -/
def remember (core : Core C) (earlier : History C) (move : Move) : History C :=
  History.activatedAll (fun id => (core.sched.slot id).freshHandle?) earlier move.activates?.toList

/-- A move keeps what it does not activate where it is, or drops it, and primes what it
activates. -/
theorem Allowed.agrees (allowed : move.Allowed core) (sound : core.Sound)
    (agrees : ∀ id, (core.sched.slot id).Agrees id history) (id : TaskId) :
    ((move.apply core).sched.slot id).Agrees id (remember core history move) := by
  obtain ⟨state, applied, -⟩ := allowed.slot_apply sound id
  rw [applied]
  -- unless it is the one that is activated, the history of the task is as before
  have apart : move.activates? ≠ some id →
      (core.sched.slot id).Agrees id (remember core history move) := by
    intro other
    unfold remember
    cases target : move.activates? with
    | none => exact agrees id
    | some first =>
        rw [target] at other
        exact (agrees id).activated fun same => other (congrArg some same)
  cases allowed.change sound id with
  | kept same other => exact (apart other).congr same.context
  | declared spec place free filled =>
      rw [filled]
      exact Task.agrees_of_dormant rfl
  | started target ready base primed =>
      obtain ⟨handle, fresh, context⟩ := primed
      have started : remember core history move = .activated id (some handle) :: history := by
        rw [remember, target, ← fresh]
        rfl
      rw [started]
      constructor
      · intro found primed
        rw [context] at primed
        cases primed
        simp [History.dispatched, History.primed?]
      · intro onCpu
        rw [context] at onCpu
        cases onCpu
      · intro found saved
        rw [context] at saved
        cases saved
  | blocked caller blocks waiting context =>
      have quiet : move.activates? = none := by
        cases move <;> cases blocks <;> rfl
      exact (apart (by rw [quiet]; nofun)).congr context
  | ended _ _ _ _ dormant => exact Task.agrees_of_dormant dormant

end Move

/-- Interrupts prime what they activate, one task after the other. -/
theorem Moved.agrees {C : Type} [Machine C] {first last : Situation C} {moves : List Move}
    {history : History C} (moved : Moved first moves last) (each : ∀ move ∈ moves, move.isInterrupt)
    (sound : first.core.Sound) (agrees : ∀ id, (first.core.sched.slot id).Agrees id history)
    (id : TaskId) :
    (last.core.sched.slot id).Agrees id
      (History.activatedAll (fun id => (first.core.sched.slot id).freshHandle?) history
        (moves.filterMap Move.activates?)) := by
  induction moved generalizing history with
  | nil => exact agrees id
  | @cons first last move moves allowed rest ih =>
      obtain ⟨interrupt, others⟩ := List.forall_mem_cons.mp each
      have noDeclare : ∀ id spec, move ≠ .declare id spec :=
        fun _ _ => Move.ne_of_isInterrupt interrupt rfl
      have next := ih others (allowed.sound sound) (allowed.agrees sound agrees)
      -- the handles of fresh starts are the same before and after the move
      have fresh : ∀ id, ((first.make move).core.sched.slot id).freshHandle? =
          (first.core.sched.slot id).freshHandle? := allowed.freshHandle?_apply sound noDeclare
      simp only [fresh] at next
      rw [List.filterMap_cons]
      rw [Move.remember] at next
      cases target : move.activates? with
      | none =>
          rw [target] at next
          exact next
      | some id =>
          rw [target] at next
          exact next

/-- Where the switch looks for the registers of the chosen task, its history says that they are. -/
theorem Core.Sound.restored_eq {C : Type} {core : Core C} {history : History C} (sound : core.Sound)
    (agrees : ∀ id, (core.sched.slot id).Agrees id history) (outgoing : C) :
    History.resumed? core.sched.selected (.left core.sched.current outgoing :: history) =
      some (core.sched.restored outgoing) := by
  have chosen := agrees core.sched.selected
  rw [History.resumed?_left, Scheduler.restored]
  cases context : (core.sched.slot core.sched.selected).context with
  | dormant => exact absurd context sound.selected_active
  | primed handle =>
      obtain ⟨waiting, primed⟩ := chosen.primed handle context
      rw [if_neg (Bool.eq_false_iff.mp waiting), primed]
  | onCpu =>
      have current := sound.steady.onCpu _ context
      rw [if_pos (chosen.onCpu context), if_pos current.symm]
  | saved handle =>
      obtain ⟨dispatched, handedIn⟩ := chosen.saved handle context
      have apart := sound.steady.saved _ handle context
      rw [if_pos dispatched, if_neg fun same => apart same.symm, handedIn]

/-- A switch keeps what is live on the CPU under the handle that it is given. -/
theorem Core.Sound.agrees_switched {C : Type} {core : Core C} {history : History C}
    (sound : core.Sound) (agrees : ∀ id, (core.sched.slot id).Agrees id history) (outgoing : C)
    (id : TaskId) :
    ((core.switched outgoing).sched.slot id).Agrees id
      (.entered core.sched.selected :: .left core.sched.current outgoing :: history) := by
  change ((core.sched.switched outgoing).slot id).Agrees id _
  rw [Scheduler.slot_switched sound.selected_lt]
  by_cases chosen : id = core.sched.selected
  · rw [if_pos chosen]
    refine ⟨nofun, fun _ => ?_, nofun⟩
    rw [History.dispatched, if_pos chosen.symm]
  · have apart : core.sched.selected ≠ id := fun same => chosen same.symm
    rw [if_neg chosen]
    refine Task.Agrees.entered ?_ apart
    by_cases leaving : id = core.sched.current
    · rw [if_pos leaving, ← leaving]
      exact (agrees id).left outgoing fun handle saved => sound.steady.saved id handle saved leaving
    · rw [if_neg leaving]
      exact (agrees id).left_other outgoing fun same => leaving same.symm

/-- Every step keeps the registers of each task where its history says. -/
theorem Step.Ready.agrees {C : Type} [Machine C] {step : Step C} {history : History C}
    (ready : step.Ready)
    (agrees : ∀ id, (step.before.core.sched.slot id).Agrees id history) (id : TaskId) :
    (step.after.core.sched.slot id).Agrees id (step.remember history) := by
  have sound := ready.sound
  unfold remember
  rcases ready.cases with ⟨outgoing, switches⟩ | ⟨moves, makes⟩
  · rw [switches.asked, switches.core]
    dsimp only
    rw [switches.current_after]
    exact sound.agrees_switched agrees outgoing id
  · rw [makes.unasked]
    dsimp only
    rw [makes.effect.shown]
    rcases makes.maker with each | ⟨request, move, asked, rfl, serves⟩
    · exact makes.effect.moved.agrees each sound agrees id
    · obtain ⟨allowed, last⟩ := makes.of_singleton
      rw [last, Move.filterMap_activates?]
      exact allowed.agrees sound agrees id

namespace Execution

variable {C : Type} [Machine C] {admits : Step C → Prop} {config : Configuration}
  {steps : List (Step C)} {step : Step C} {kernel : Kernel C}

/-- Throughout an execution, the registers of every task are where its history says. -/
theorem agrees (execution : Execution admits config steps kernel) (id : TaskId) :
    (kernel.core.sched.slot id).Agrees id (chronicle config steps) := by
  induction execution generalizing id with
  | boot built booted heap =>
      rcases Kernel.boot_context built booted id with dormant | ⟨spec, found, member, primed⟩
      · exact Task.agrees_of_dormant dormant
      · constructor
        all_goals
          dsimp only
          rw [primed]
        · rintro handle ⟨⟩
          refine ⟨History.dispatched_activatedAll _ _ rfl, ?_⟩
          rw [chronicle, History.primed?_activatedAll _ _ (.inr member), found]
          rfl
        · nofun
        · nofun
  | step earlier launched idle admitted ih =>
      have ready := (earlier.step launched idle admitted).latest.1.ready
      exact ready.agrees ih id

/-- Whenever a switch is carried out, the machine is told to restore the registers of the task that
it puts on the CPU: from the frame that the last activation primed, if the task has not been on the
CPU since then, and otherwise from the handle that was given to the last switch while it was.  There
is always something to restore. -/
theorem restored_eq_resumed? (execution : Execution admits config (step :: steps) kernel)
    {outgoing : C} (asked : step.outgoing? = some outgoing) :
    ∃ handle, step.restored? = some handle ∧
      History.resumed? kernel.current
        (.left step.before.current outgoing :: chronicle config steps) = some handle ∧
      ∀ id, .logged (.nothingToRestore id) ∉ step.done.trace := by
  obtain ⟨latest, rfl⟩ := execution.latest
  rcases latest.ready.cases with ⟨given, switches⟩ | ⟨moves, makes⟩
  · obtain rfl : given = outgoing := Option.some.inj (switches.asked.symm.trans asked)
    refine ⟨_, switches.restored, ?_, ?_⟩
    · rw [switches.current_after]
      exact latest.ready.sound.restored_eq latest.earlier.agrees given
    · rw [switches.silent]
      exact fun id => List.not_mem_nil
  · rw [makes.unasked] at asked
    cases asked

/-- A task is preempted by one that an interrupt activates, and goes on when that one has ended. -/
def interrupted : List (Operation FrameIndex) :=
  [.launch ⟨0⟩, .interrupt (.activateTask 2), .dispatch ⟨1⟩, .request .terminateTask, .dispatch ⟨2⟩]

set_option maxRecDepth 4000 in
theorem restored_interrupted :
    ∃ (step : Step FrameIndex) (steps : List (Step FrameIndex)) (kernel : Kernel FrameIndex),
      Execution (fun _ => True) (Configuration.pair 2) (step :: steps) kernel ∧
        step.outgoing? = some ⟨2⟩ ∧ kernel.current = 1 ∧ step.restored? = some ⟨1⟩ ∧
        ∀ id, .logged (.nothingToRestore id) ∉ step.done.trace := by
  have execution : Execution (fun _ => True) (Configuration.pair 2) (pairSteps 2 interrupted)
      (pairReached 2 interrupted) := by
    refine of_pair (by decide) (by decide) ?_
    exact ⟨by decide, trivial, by decide, trivial, by decide, trivial, by decide, trivial,
      by decide, trivial, trivial⟩
  refine ⟨_, _, _, execution, by decide, by decide, ?_⟩
  obtain ⟨handle, restored, resumed, silent⟩ := restored_eq_resumed? execution
    (by decide : _ = some (⟨2⟩ : FrameIndex))
  refine ⟨?_, silent⟩
  rw [restored, ← resumed]
  decide

end Execution

end Rtos
