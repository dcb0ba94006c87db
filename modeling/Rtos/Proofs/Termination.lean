/-
Module: Rtos.Proofs.Termination
Purpose: A task that ends leaks nothing.  Whatever it owns goes to those who are first in the
  queues, each of whom can run from then on; the task itself is as good as new, and nothing else
  changes but for the marks of the decision that follows.  The order of the hand-overs does not
  matter.
Main definitions: Core.Inheritance, Core.Bequest, Kernel.terminateInOrder, Kernel.quit
Main statements: `Core.quit_eq`, `Core.bequest_quit`, `Execution.current_declared`,
  `Execution.terminates_without_leak`
-/
import Rtos.Proofs.Custody
import Rtos.Proofs.Redecision

namespace Rtos

namespace Core

variable {C : Type} {core before after : Core C} {giver task : TaskId} {id : ResourceId}
  {resource : Resource} {order other : List ResourceId}

/-! ### The order of the hand-overs -/

/-- In whatever order a task passes on what it owns, the outcome is the same. -/
theorem quit_eq (consistent : core.Consistent) (inTable : giver < maxTasks)
    (one : core.Exhausts giver order) (another : core.Exhausts giver other) :
    core.quit giver order = core.quit giver other := by
  have sched : (core.quit giver order).sched = (core.quit giver other).sched := by
    have left := core.cursors_passOwned giver order
    have right := core.cursors_passOwned giver other
    refine Scheduler.ext_slot (left.1.trans right.1.symm) (left.2.trans right.2.symm) ?_
    intro task
    by_cases giving : giver = task
    · subst giving
      rw [slot_quit_giver consistent inTable, slot_quit_giver consistent inTable]
    · by_cases heir : ∃ id resource, core.Inherits giver task id resource
      · obtain ⟨id, resource, inherits⟩ := heir
        rw [slot_quit_of_inherits consistent one inherits,
          slot_quit_of_inherits consistent another inherits]
      · have none : ∀ id resource, ¬ core.Inherits giver task id resource :=
          fun id resource inherits => heir ⟨id, resource, inherits⟩
        rw [slot_quit_of_not_inherits consistent giving none,
          slot_quit_of_not_inherits consistent giving none]
  have resources : (core.quit giver order).resources = (core.quit giver other).resources := by
    apply Array.ext_getElem?
    intro id
    rw [getElem?_quit one, getElem?_quit another]
  calc core.quit giver order
      = ⟨(core.quit giver order).sched, (core.quit giver order).resources⟩ := rfl
    _ = ⟨(core.quit giver other).sched, (core.quit giver other).resources⟩ := by
        rw [sched, resources]

/-! ### The decision that follows -/

/-- When a task other than the idle task has ended, the next decision can be taken. -/
theorem poised_quit (consistent : core.Consistent) (notIdle : giver ≠ idleTask)
    (order : List ResourceId) : (core.quit giver order).sched.Poised := by
  have passed := consistent.passOwned giver order
  have steady : (core.quit giver order).sched.Steady :=
    passed.steady.modify (fun idle => absurd idle notIdle) ⟨nofun, nofun, fun _ => nofun⟩
  refine ⟨fun id => ?_, steady.idle, steady.marked⟩
  rw [quit, slot_modifyTask]
  split <;> exact passed.id_eq id

/-- The ceilings of what a task inherits. -/
def Inheritance (core : Core C) (giver heir : TaskId) (ceiling : Priority) : Prop :=
  ∃ id resource, core.Inherits giver heir id resource ∧ resource.ceiling = ceiling

/-- What the end of a task and the decision that follows make of tasks and resources. -/
structure Bequest (giver : TaskId) (before after : Core C) : Prop where
  /-- A resource of the giver goes to the first in its queue, and to nobody if there is none. -/
  handedOver : ∀ (id : ResourceId) (resource : Resource),
    before.resources[id]? = some resource → resource.owner = some giver →
    after.resources[id]? = some
      { resource with owner := resource.waiters.head?, waiters := resource.waiters.tail }
  untouched : ∀ id : ResourceId, ¬ before.owns giver id →
    after.resources[id]? = before.resources[id]?
  nothingLeft : ∀ id, ¬ after.owns giver id
  ended : after.sched.slot giver =
    { before.sched.slot giver with
      state := .suspended
      priority := (before.sched.slot giver).basePriority
      eventWait := 0
      eventFlags := 0
      context := .dormant }
  /-- An heir can run, as urgently as it could before or as what it inherits asks for. -/
  heirs : ∀ task, (∃ ceiling, before.Inheritance giver task ceiling) →
    ∃ state priority, state.isRunnable ∧
      IsEffective (before.Inheritance giver task) (before.sched.slot task).priority priority ∧
      after.sched.slot task = { before.sched.slot task with state, priority }
  /-- Of all others no more than a mark may change. -/
  others : ∀ task, task ≠ giver → (∀ ceiling, ¬ before.Inheritance giver task ceiling) →
    ∃ state, after.sched.slot task = { before.sched.slot task with state } ∧
      (state = (before.sched.slot task).state ∨
        state.isRunnable ∧ (before.sched.slot task).state.isRunnable)
  marks : ∀ task, (after.sched.slot task).state = .running ↔ task = after.sched.selected
  chosen : after.sched.decide = some after.sched.selected
  current : after.sched.current = before.sched.current

/-- An heir inherits one resource. -/
theorem isEffective_of_inherits (consistent : core.Consistent)
    (inherits : core.Inherits giver task id resource) (base : Priority) :
    IsEffective (core.Inheritance giver task) base (min base resource.ceiling) := by
  have nothing : IsEffective (fun _ => False) base base := .of_none fun _ => not_false
  refine nothing.raise fun level => ?_
  rw [false_or]
  constructor
  · rintro ⟨other, another, two, rfl⟩
    rw [(inherits.unique consistent two).2]
  · rintro rfl
    exact ⟨id, resource, inherits, rfl⟩

/-- The end of a task and the decision that follows, in full. -/
theorem bequest_quit (consistent : core.Consistent) (inTable : giver < maxTasks)
    (notIdle : giver ≠ idleTask) (exhausts : core.Exhausts giver order) :
    Bequest giver core (core.quit giver order).decided := by
  have poised := poised_quit consistent notIdle order
  have decided := Scheduler.slot_decided poised.ids poised.marked
  have resources := getElem?_quit exhausts
  refine { handedOver := ?handedOver, untouched := ?untouched, nothingLeft := ?nothingLeft,
           ended := ?ended, heirs := ?heirs, others := ?others, marks := poised.soleMark_decided,
           chosen := ?chosen, current := ?current }
  case handedOver =>
    intro id resource found owner
    rw [resources_decided, resources, found, Option.map_some, if_pos owner]
    rfl
  case untouched =>
    intro id notOwned
    rw [resources_decided, resources]
    cases found : core.resources[id]? with
    | none => rfl
    | some resource =>
        rw [owns_of_found found] at notOwned
        rw [Option.map_some, if_neg notOwned]
  case nothingLeft =>
    intro id owned
    obtain ⟨left, found, owner⟩ := owns_iff.mp owned
    rw [resources_decided, resources] at found
    obtain ⟨resource, here, rfl⟩ := Option.map_eq_some_iff.mp found
    split at owner
    · rename_i gave
      exact consistent.owner_ne_head here gave owner rfl
    · rename_i kept
      exact kept owner
  case ended =>
    obtain ⟨state, slot, same | ⟨-, runnable⟩⟩ := decided giver
    · rw [slot_quit_giver consistent inTable] at slot same
      exact slot.trans (by rw [same]; rfl)
    · rw [slot_quit_giver consistent inTable] at runnable
      cases runnable
  case heirs =>
    rintro task ⟨ceiling, id, resource, inherits, rfl⟩
    have received := slot_quit_of_inherits consistent exhausts inherits
    have effective := isEffective_of_inherits consistent inherits (core.sched.slot task).priority
    obtain ⟨state, slot, marks⟩ := decided task
    rw [received] at slot marks
    refine ⟨state, _, ?_, effective, slot⟩
    rcases marks with same | ⟨runnable, -⟩
    · rw [same]
      rfl
    · exact runnable
  case others =>
    intro task apart none
    have kept := slot_quit_of_not_inherits consistent (Ne.symm apart)
      (fun id resource inherits => none resource.ceiling ⟨id, resource, inherits, rfl⟩) order
    rw [← kept]
    exact decided task
  case chosen =>
    exact (Scheduler.decide_decided poised.ids).trans poised.selected_decided.symm
  case current =>
    exact Scheduler.current_decided.trans (core.cursors_passOwned giver order).1

end Core

namespace Kernel

variable {C : Type} {kernel : Kernel C} {order : List ResourceId}

/-- End the calling task, and release what it owns of the listed resources in their order. -/
def terminateInOrder (order : List ResourceId) : Action (Kernel C) Unit := do
  let caller ← callerToEnd
  finishInOrder order caller
  reschedule

/-- The kernel releases in the order of the table, from the end. -/
theorem run_terminateTask_eq (kernel : Kernel C) :
    terminateTask.run kernel =
      (terminateInOrder kernel.core.resourceIds.reverse).run kernel := by
  unfold terminateTask terminateInOrder
  have caller := run_callerToEnd kernel
  split at caller
  · rw [Action.run_bind_of_error caller, Action.run_bind_of_error caller]
  · rw [Action.run_bind_of_ok caller, Action.run_bind_of_ok caller, Action.run_bind,
      Action.run_bind, run_finish_eq]

/-- The kernel when a task has ended and the next one has been chosen. -/
def quit (kernel : Kernel C) (order : List ResourceId) : Kernel C :=
  redecided { kernel with core := kernel.core.quit kernel.current order }

/-- Nothing keeps a task from ending. -/
theorem run_terminateInOrder (consistent : kernel.core.Consistent)
    (declared : (kernel.core.sched.slot kernel.current).state ≠ .free)
    (notIdle : kernel.current ≠ idleTask) (order : List ResourceId) :
    ∃ seen, (terminateInOrder order).run kernel = ⟨.ok (), kernel.quit order, seen⟩ := by
  have caller := run_callerToEnd kernel
  rw [if_neg (show kernel.core.sched.current ≠ idleTask from notIdle)] at caller
  let ended : Kernel C := { kernel with core := kernel.core.quit kernel.current order }
  obtain ⟨seen, finished⟩ : ∃ seen,
      (finishInOrder order kernel.core.sched.current).run kernel = ⟨.ok (), ended, seen⟩ := by
    obtain ⟨seen, -, finished⟩ := run_finishInOrder consistent declared order
    exact ⟨seen, finished⟩
  have decided : reschedule.run ended = ⟨.ok (), kernel.quit order, _⟩ :=
    run_reschedule_of_idle (Core.poised_quit consistent notIdle order).idle
  refine ⟨seen ++ ended.core.sched.decisionTrace, ?_⟩
  unfold terminateInOrder
  rw [Action.run_bind_of_ok caller, Action.run_bind_of_ok finished, decided]
  rfl

end Kernel

namespace Execution

variable {C : Type} [Machine C] {admits : Step C → Prop} {config : Configuration}
  {steps : List (Step C)} {kernel : Kernel C}

/-- There is always a task on the CPU, be it one that has ended. -/
theorem current_declared (execution : Execution admits config steps kernel) :
    (kernel.core.sched.slot kernel.current).state ≠ .free := by
  induction execution with
  | @boot console kernel seen built booted heap =>
      have sound := Kernel.boot_sound built booted
      obtain ⟨core, decided, -, -, current, -⟩ := Kernel.boot_spec booted
      have idle : kernel.core.sched.current = idleTask := by
        rw [decided]
        exact Scheduler.current_decided.trans current
      change (kernel.core.sched.slot kernel.core.sched.current).state ≠ .free
      rw [idle]
      exact TaskState.ne_free_of_isRunnable sound.steady.idle
  | @step steps kernel operation earlier launched idle admitted ih =>
      have latest := (earlier.step launched idle admitted).latest.1
      have sound := latest.ready.sound
      refine latest.ready.preserves
        (fun core => (core.sched.slot core.sched.current).state ≠ .free) ?_ ?_ ?_ ih
      · intro outgoing
        have chosen := Core.switched_eq_with_context sound.selected_lt outgoing
          kernel.core.sched.selected
        change ((kernel.core.switched outgoing).sched.slot kernel.core.sched.selected).state ≠ .free
        rw [chosen]
        exact TaskState.ne_free_of_isRunnable sound.selected_runnable
      · intro core move sound allowed _ declared
        rw [Move.current_apply]
        exact allowed.ne_free_apply sound declared
      · intro request move _ _ allowed _
        rw [Move.current_apply]
        exact allowed.ne_free_apply sound ih

/-- A task other than the idle task ends whenever it asks to, and leaks nothing: what it owns is
handed over, and there is nothing that it leaves behind.  To release what it owns in another order
would come to the same. -/
theorem terminates_without_leak (execution : Execution admits config steps kernel)
    (notIdle : kernel.current ≠ idleTask) :
    ∃ after seen, Kernel.terminateTask.run kernel = ⟨.ok (), after, seen⟩ ∧
      Core.Bequest kernel.current kernel.core after.core ∧
      ∀ order : List ResourceId, order.Nodup →
        (∀ id, kernel.core.owns kernel.current id → id ∈ order) →
        ∃ other, (Kernel.terminateInOrder order).run kernel = ⟨.ok (), after, other⟩ := by
  have consistent := execution.core_sound.toConsistent
  have declared := execution.current_declared
  have inTable := Scheduler.lt_of_state_ne_free declared
  have exhausts := kernel.core.exhausts_resourceIds kernel.current
  obtain ⟨seen, ended⟩ := Kernel.run_terminateInOrder consistent declared notIdle
    kernel.core.resourceIds.reverse
  refine ⟨_, seen, kernel.run_terminateTask_eq.trans ended,
    Core.bequest_quit consistent inTable notIdle exhausts, ?_⟩
  intro order nodup complete
  obtain ⟨other, done⟩ := Kernel.run_terminateInOrder consistent declared notIdle order
  have same := Core.quit_eq consistent inTable ⟨nodup, complete⟩ exhausts
  refine ⟨other, ?_⟩
  rw [done, Kernel.quit, Kernel.quit, same]

end Execution

/-- A pair of tasks that share two resources, of which one has a ceiling more urgent than either. -/
def Configuration.sharp : Configuration := { Configuration.pair 1 with ceilings := [1, 4] }

theorem Configuration.built_sharp : Configuration.sharp.Built :=
  (Configuration.built_pair 1).addResource rfl

namespace Execution

/-- A task sleeps with two resources in hand, and another one comes to wait for one of them. -/
def estate : List (Operation FrameIndex) :=
  [.launch ⟨0⟩, .request (.getResource 1), .request (.getResource 0), .request (.activateTask 2),
    .request (.waitEvent 1), .dispatch ⟨1⟩, .request (.getResource 0), .dispatch ⟨2⟩,
    .interrupt (.setEvent 1 1), .dispatch ⟨3⟩]

set_option maxRecDepth 8000 in
/-- The heir gets the resource and its ceiling, and the other resource is free. -/
theorem terminates_without_leak_sharp :
    ∃ (steps : List (Step FrameIndex)) (kernel after : Kernel FrameIndex) (seen other : Trace),
      Execution (fun _ => True) Configuration.sharp steps kernel ∧
        kernel.current = 1 ∧ kernel.core.owns 1 0 ∧ kernel.core.owns 1 1 ∧
        Kernel.terminateTask.run kernel = ⟨.ok (), after, seen⟩ ∧
        after.core.resources[0]? = some { ceiling := 1, owner := some 2, waiters := [] } ∧
        after.core.resources[1]? = some { ceiling := 4, owner := none, waiters := [] } ∧
        (kernel.core.sched.slot 2).priority = 2 ∧ (after.core.sched.slot 2).priority = 1 ∧
        (Kernel.terminateInOrder [0, 1]).run kernel = ⟨.ok (), after, other⟩ := by
  let kernel : Kernel FrameIndex := booted Configuration.sharp Hosted.console
  have execution : Execution (fun _ => True) Configuration.sharp (replay kernel [] estate)
      (reached kernel estate) :=
    of_replay Configuration.built_sharp (by decide) (by decide) (by decide)
  have current : (reached kernel estate).current = 1 := by decide
  obtain ⟨after, seen, ended, bequest, orders⟩ :=
    execution.terminates_without_leak (by rw [current]; decide)
  rw [current] at bequest orders
  have inherits : (reached kernel estate).core.Inherits 1 2 0
      { ceiling := 1, owner := some 1, waiters := [2] } := ⟨by decide, rfl, rfl⟩
  have spare : (reached kernel estate).core.resources[1]? =
      some { ceiling := 4, owner := some 1, waiters := [] } := by decide
  have before : ((reached kernel estate).core.sched.slot 2).priority = 2 := by decide
  -- the heir has the one ceiling, and so the minimum of it and its own priority
  obtain ⟨state, priority, -, effective, heir⟩ := bequest.heirs 2 ⟨1, 0, _, inherits, rfl⟩
  have least := effective.unique
    (Core.isEffective_of_inherits execution.core_sound.toConsistent inherits _)
  rw [before] at least
  have size : (reached kernel estate).core.resources.size = 2 := by decide
  have complete : ∀ id, (reached kernel estate).core.owns 1 id → id ∈ [0, 1] := by
    intro id owned
    obtain ⟨resource, found, -⟩ := Core.owns_iff.mp owned
    obtain ⟨inside, -⟩ := Array.getElem?_eq_some_iff.mp found
    rw [size] at inside
    exact (by decide : ∀ id < 2, id ∈ [0, 1]) id inside
  obtain ⟨other, reordered⟩ := orders [0, 1] (by decide) complete
  exact ⟨_, _, after, seen, other, execution, current, by decide, by decide, ended,
    bequest.handedOver 0 _ inherits.found rfl, bequest.handedOver 1 _ spare rfl, before,
    by rw [heir]; exact least, reordered⟩

end Execution

end Rtos
