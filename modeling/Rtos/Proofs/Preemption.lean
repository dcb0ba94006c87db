/-
Module: Rtos.Proofs.Preemption
Purpose: When the owner of a resource is left alone by the other tasks that may want it.  As long as
  no owner goes to sleep, it is exactly while nobody is chosen whose base priority ties with a
  ceiling that another runnable task owns: the scan for the next task starts behind the last one, so
  that among equals an owner gives way.
Main definitions: Step.SleepsOwning, Core.TieFree
Main statements: `Step.Ready.nested`, `Execution.yields_iff_tieFree`
-/
import Rtos.Proofs.Ceiling
import Rtos.Proofs.Execution

namespace Rtos

/-- By this step, the task on the CPU goes to sleep with a resource in hand. -/
def Step.SleepsOwning {C : Type} [Machine C] (step : Step C) : Prop :=
  ∃ mask, step.operation.request? = some (.waitEvent mask) ∧
    (∃ id, step.before.core.owns step.before.current id) ∧
    (step.after.core.sched.slot step.before.current).state = .waiting

theorem Step.not_sleepsOwning {C : Type} [Machine C] {step : Step C}
    (other : ∀ mask, step.operation.request? ≠ some (.waitEvent mask)) : ¬ step.SleepsOwning :=
  fun ⟨mask, asked, _⟩ => other mask asked

namespace Core

variable {C : Type} {core : Core C} {below : Priority → Priority → Prop}

/-- No task is chosen whose base priority is the ceiling of a resource that another runnable task
owns. -/
def TieFree (core : Core C) : Prop :=
  ∀ (id : ResourceId) (resource : Resource) (owner : TaskId),
    core.resources[id]? = some resource → resource.owner = some owner →
    (core.sched.slot owner).state.isRunnable → core.sched.selected ≠ owner →
      (core.sched.slot core.sched.selected).basePriority ≠ resource.ceiling

/-! ### Properties of owners can be tested -/

theorem forall_owned_iff {property : Resource → TaskId → Prop} :
    (∀ (id : ResourceId) (resource : Resource) (owner : TaskId),
      core.resources[id]? = some resource → resource.owner = some owner → property resource owner) ↔
    ∀ resource ∈ core.resources.toList, ∀ owner ∈ resource.owner, property resource owner := by
  constructor
  · intro each resource member owner owned
    obtain ⟨id, found⟩ := Array.mem_iff_getElem?.mp (Array.mem_toList_iff.mp member)
    exact each id resource owner found owned
  · intro each id resource owner found owned
    exact each resource (Array.mem_toList_iff.mpr (Array.mem_of_getElem? found)) owner owned

instance [DecidableRel below] : Decidable (core.Yields below) :=
  decidable_of_iff _ forall_owned_iff.symm

instance : Decidable core.TieFree := decidable_of_iff _ forall_owned_iff.symm

/-! ### Ties -/

/-- A chosen task that is beyond the ceiling ties with nobody. -/
theorem Yields.tieFree (yields : core.Yields (· < ·)) : core.TieFree := by
  intro id resource owner found owned runnable apart tie
  rcases yields id resource owner found owned runnable with same | beyond
  · exact apart same
  · rw [tie] at beyond
    exact Nat.lt_irrefl _ beyond

/-- Without ties, a chosen task that is not behind the ceiling is beyond it. -/
theorem Yields.of_tieFree (yields : core.Yields (· ≤ ·)) (tieFree : core.TieFree) :
    core.Yields (· < ·) := by
  intro id resource owner found owned runnable
  by_cases same : core.sched.selected = owner
  · exact .inl same
  · refine .inr ?_
    have upTo := (yields id resource owner found owned runnable).resolve_left same
    exact Nat.lt_of_le_of_ne upTo (tieFree id resource owner found owned runnable same)

/-! ### Boot and switches -/

variable {outgoing : C}

/-- While nobody owns anything, owners are nested. -/
theorem Unowned.nested (unowned : core.Unowned) (below : Priority → Priority → Prop) :
    core.Nested below where
  empty := fun id resource found => (unowned id resource found).2
  awake := fun task level holds => absurd holds (unowned.not_holdsAt task level)
  nested := fun _ second _ => .inl fun level holds =>
    absurd holds (unowned.not_holdsAt second level)

/-- A switch moves registers and cursors, and owners stay nested. -/
theorem Nested.switched (nested : core.Nested below) (sound : core.Sound) :
    (core.switched outgoing).Nested below := by
  have same := switched_eq_with_context sound.selected_lt outgoing
  refine nested.of_held nested.empty ?_ (fun _ _ holds => holds) ?_
  · intro task level holds
    rw [same]
    exact nested.awake task level holds
  · intro task level _
    rw [same]

end Core

namespace Step

variable {C : Type} [Machine C] {step : Step C} {below : Priority → Priority → Prop}

omit [Machine C] in
/-- A chosen task that yields to owners, and may not want what it yields to, queues for nothing. -/
theorem not_queue {core : Core C} (nested : core.Nested below) (yields : core.Yields below)
    {id : ResourceId} (apart : ∀ resource, core.resources[id]? = some resource →
      resource.ceiling ≤ core.caller.basePriority →
        ¬ below core.caller.basePriority resource.ceiling) :
    ¬ Move.Allowed core (.queue id) := by
  intro allowed
  obtain ⟨resource, found, owned, other, -, entitled⟩ := allowed.permitted
  obtain ⟨owner, owns⟩ := Option.ne_none_iff_exists'.mp owned
  have chosen := allowed.chosen rfl
  have holds := Core.holdsAt_of_found found owns
  rcases yields id resource owner found owns (nested.awake owner _ holds) with same | beyond
  · rw [chosen] at same
    rw [same] at other
    exact other owns
  · rw [chosen] at beyond
    exact apart resource found entitled beyond

/-- A step by which no owner goes to sleep keeps owners nested, if the chosen task yields to owners,
and if nobody who yields to an owner may want what it owns. -/
theorem Ready.nested (ready : step.Ready) (awake : ¬ step.SleepsOwning)
    (nested : step.before.core.Nested below) (yields : step.before.core.Yields below)
    (apart : ∀ id resource, step.operation.request? = some (.getResource id) →
      step.before.core.resources[id]? = some resource →
      resource.ceiling ≤ step.before.core.caller.basePriority →
        ¬ below step.before.core.caller.basePriority resource.ceiling) :
    step.after.core.Nested below := by
  have sound := ready.sound
  refine ready.preserves (Core.Nested below) (fun _ => nested.switched sound) ?interrupted ?served
    nested
  case interrupted =>
    intro core move sound allowed interrupt nested
    refine nested.apply sound allowed (fun _ => Move.ne_of_isInterrupt interrupt rfl)
      (fun _ => Move.ne_of_isInterrupt interrupt rfl) ?_
    intro blocks
    cases move <;> cases interrupt <;> cases blocks
  case served =>
    intro request move asked serves allowed after
    cases serves with
    | take id => exact nested.take sound allowed yields
    | queue id => exact absurd allowed (not_queue nested yields (apart id · asked))
    | await mask =>
        refine nested.apply sound allowed nofun nofun ?_
        rintro - level ⟨id, resource, found, owner, -⟩
        refine awake ⟨mask, asked, ⟨id, Core.owns_iff.mpr ⟨resource, found, owner⟩⟩, ?_⟩
        rw [after]
        exact allowed.waiting_of_await sound
    | _ => exact nested.apply sound allowed nofun nofun nofun

end Step

namespace Execution

variable {C : Type} [Machine C] {admits : Step C → Prop} {config : Configuration}
  {steps : List (Step C)} {kernel : Kernel C}

/-- As long as the chosen task is beyond all ceilings that others own, owners stay nested. -/
theorem nested_of_yields
    (execution : Execution (fun step => ¬ step.SleepsOwning) config steps kernel)
    (yields : ∀ step ∈ steps, step.before.core.Yields (· < ·)) : kernel.core.Nested (· < ·) := by
  induction execution with
  | boot built booted heap =>
      have nested := (Kernel.boot_unowned booted).nested (· < ·)
      exact nested
  | step earlier launched idle awake ih =>
      obtain ⟨latest, past⟩ := List.forall_mem_cons.mp yields
      have ready := (earlier.step launched idle awake).latest.1.ready
      refine ready.nested awake (ih past) latest ?_
      exact fun id resource _ _ entitled beyond => absurd beyond (Nat.not_lt_of_le entitled)

/-- If nobody was preempted so far by a task that is not beyond its ceilings, only a tie can be the
first such case. -/
theorem yields_of_tieFree
    (execution : Execution (fun step => ¬ step.SleepsOwning) config steps kernel)
    (past : ∀ step ∈ steps, step.before.core.Yields (· < ·)) (tieFree : kernel.core.TieFree) :
    kernel.core.Yields (· < ·) := by
  have nested := execution.nested_of_yields past
  exact (nested.yields_of_lt execution.core_sound).of_tieFree tieFree

/-- Let no task go to sleep with a resource in hand.  Then whoever is chosen while the owner of a
resource can run is always the owner itself or a task with a base priority beyond the ceiling,
exactly if a task whose base priority ties with the ceiling is never chosen. -/
theorem yields_iff_tieFree
    (execution : Execution (fun step => ¬ step.SleepsOwning) config steps kernel) :
    (∀ state ∈ visited steps kernel, state.core.Yields (· < ·)) ↔
      ∀ state ∈ visited steps kernel, state.core.TieFree := by
  rw [forall_visited, forall_visited]
  constructor
  · rintro ⟨latest, past⟩
    exact ⟨latest.tieFree, fun step member => (past step member).tieFree⟩
  · induction execution with
    | boot built booted heap =>
        rintro ⟨latest, -⟩
        have past := List.forall_mem_nil fun step : Step C => step.before.core.Yields (· < ·)
        exact ⟨yields_of_tieFree (.boot built booted heap) past latest, past⟩
    | @step steps before operation earlier launched idle awake ih =>
        rintro ⟨latest, free⟩
        have past : ∀ step ∈ ⟨before, operation⟩ :: steps, step.before.core.Yields (· < ·) :=
          List.forall_mem_cons.mpr (ih (List.forall_mem_cons.mp free))
        exact ⟨yields_of_tieFree (earlier.step launched idle awake) past latest, past⟩

/-- The owner of a resource activates a task that is more urgent than the ceiling. -/
def preempted : List (Operation FrameIndex) :=
  [.launch ⟨0⟩, .request (.getResource 0), .request (.activateTask 2), .dispatch ⟨1⟩]

set_option maxRecDepth 4000 in
theorem yields_preempted :
    ∃ (steps : List (Step FrameIndex)) (kernel : Kernel FrameIndex),
      Execution (fun step => ¬ step.SleepsOwning) (Configuration.pair 3) steps kernel ∧
        kernel.core.owns 1 0 ∧ kernel.current = 2 ∧
        ∀ state ∈ visited steps kernel, state.core.Yields (· < ·) := by
  have execution : Execution (fun step => ¬ step.SleepsOwning) (Configuration.pair 3)
      (pairSteps 3 preempted) (pairReached 3 preempted) := by
    refine of_pair (by decide) (by decide) ?_
    exact ⟨by decide, Step.not_sleepsOwning nofun, by decide, Step.not_sleepsOwning nofun,
      by decide, Step.not_sleepsOwning nofun, by decide, Step.not_sleepsOwning nofun, trivial⟩
  exact ⟨_, _, execution, by decide, by decide, execution.yields_iff_tieFree.mpr (by decide)⟩

/-- The owner of a resource activates the task whose priority the ceiling is. -/
def tied : List (Operation FrameIndex) :=
  [.launch ⟨0⟩, .request (.getResource 0), .request (.activateTask 2)]

set_option maxRecDepth 4000 in
/-- Among equals the owner gives way: with the ceiling at the priority of the most urgent user of
the resource, that user is chosen although the resource is owned. -/
theorem not_yields_tied :
    ∃ (steps : List (Step FrameIndex)) (kernel : Kernel FrameIndex),
      Execution (fun step => ¬ step.SleepsOwning) (Configuration.pair 2) steps kernel ∧
        kernel.core.owns 1 0 ∧ (kernel.sched.slot 1).state = .ready ∧ kernel.sched.selected = 2 ∧
        ¬ kernel.core.Yields (· < ·) := by
  have execution : Execution (fun step => ¬ step.SleepsOwning) (Configuration.pair 2)
      (pairSteps 2 tied) (pairReached 2 tied) := by
    refine of_pair (by decide) (by decide) ?_
    exact ⟨by decide, Step.not_sleepsOwning nofun, by decide, Step.not_sleepsOwning nofun,
      by decide, Step.not_sleepsOwning nofun, trivial⟩
  exact ⟨_, _, execution, by decide, by decide, by decide, by decide⟩

end Execution

end Rtos
