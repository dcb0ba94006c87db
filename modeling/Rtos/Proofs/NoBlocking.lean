/-
Module: Rtos.Proofs.NoBlocking
Purpose: Tasks that take resources only whose ceilings are beyond their own priorities never wait
  for one another.
Main definitions: Step.AsksBeyond
Main statements: `Step.Ready.nested_strict`, `Execution.never_blocked`
-/
import Rtos.Proofs.Preemption

namespace Rtos

namespace Step

variable {C : Type} [Machine C] {step : Step C}

omit [Machine C] in
/-- Whatever resource the task on the CPU asks for has a ceiling beyond its base priority. -/
def AsksBeyond (step : Step C) : Prop :=
  ∀ id resource, step.operation.request? = some (.getResource id) →
    step.before.core.resources[id]? = some resource →
      resource.ceiling < step.before.core.caller.basePriority

omit [Machine C] in
theorem asksBeyond_of_ne (other : ∀ id, step.operation.request? ≠ some (.getResource id)) :
    step.AsksBeyond := fun id _ asked => absurd asked (other id)

omit [Machine C] in
/-- A task that asks beyond its priority queues for nothing, as long as all others did. -/
theorem not_queue_of_strict (asks : step.AsksBeyond) (sound : step.before.core.Sound)
    (nested : step.before.core.Nested (· ≤ ·)) (strict : step.before.core.Strict) {id : ResourceId}
    (asked : step.operation.request? = some (.getResource id)) :
    ¬ Move.Allowed step.before.core (.queue id) := by
  refine not_queue nested (nested.yields_of_le sound strict) ?_
  intro resource found _ behind
  exact Nat.not_lt_of_le behind (asks id resource asked found)

/-- Owners stay nested and strict. -/
theorem Ready.nested_strict (ready : step.Ready) (awake : ¬ step.SleepsOwning)
    (asks : step.AsksBeyond) (nested : step.before.core.Nested (· ≤ ·))
    (strict : step.before.core.Strict) :
    step.after.core.Nested (· ≤ ·) ∧ step.after.core.Strict := by
  have sound := ready.sound
  have yields := nested.yields_of_le sound strict
  have nestedAfter : step.after.core.Nested (· ≤ ·) := by
    refine ready.nested awake nested yields ?_
    intro id resource asked found _ behind
    exact Nat.not_lt_of_le behind (asks id resource asked found)
  have strictAfter : step.after.core.NoWaiters ∧ step.after.core.Strict := by
    refine ready.preserves (fun core => core.NoWaiters ∧ core.Strict) ?switched ?interrupted ?served
      ⟨nested.empty, strict⟩
    case switched =>
      intro outgoing
      refine ⟨nested.empty, fun task level holds => ?_⟩
      rw [Core.switched_eq_with_context sound.selected_lt]
      exact strict task level holds
    case interrupted =>
      rintro core move sound allowed interrupt ⟨empty, strict⟩
      have noQueue : ∀ id, move ≠ .queue id := fun _ => Move.ne_of_isInterrupt interrupt rfl
      have noTake : ∀ id, move ≠ .take id := fun _ => Move.ne_of_isInterrupt interrupt rfl
      refine ⟨(Move.holdsAt_apply empty noQueue noTake).1, ?_⟩
      exact strict.apply empty sound allowed noQueue fun id _ take => absurd take (noTake id)
    case served =>
      intro request move asked serves allowed after
      rw [after] at nestedAfter
      refine ⟨nestedAfter.empty, strict.apply nested.empty sound allowed ?_ ?_⟩
      · rintro id rfl
        cases serves
        exact not_queue_of_strict asks sound nested strict asked allowed
      · rintro id resource rfl found
        cases serves
        exact asks id resource asked found
  exact ⟨nestedAfter, strictAfter.2⟩

end Step

namespace Execution

variable {C : Type} [Machine C] {config : Configuration} {steps : List (Step C)}
  {kernel : Kernel C}

/-- While no owner goes to sleep, and tasks ask beyond their priorities, owners are nested and
strict. -/
theorem nested_strict
    (execution : Execution (fun step => ¬ step.SleepsOwning ∧ step.AsksBeyond) config steps
      kernel) :
    kernel.core.Nested (· ≤ ·) ∧ kernel.core.Strict := by
  induction execution with
  | boot built booted heap =>
      have unowned := Kernel.boot_unowned booted
      have nested := unowned.nested (· ≤ ·)
      exact ⟨nested, fun task level holds => absurd holds (unowned.not_holdsAt task level)⟩
  | step earlier launched idle admitted ih =>
      obtain ⟨nested, strict⟩ := ih
      have ready := (earlier.step launched idle admitted).latest.1.ready
      exact ready.nested_strict admitted.1 admitted.2 nested strict

/-- While no owner goes to sleep, and tasks ask beyond their priorities, nobody ever queues for a
resource, and no request for one is answered by blocking. -/
theorem never_blocked
    (execution : Execution (fun step => ¬ step.SleepsOwning ∧ step.AsksBeyond) config steps
      kernel) :
    kernel.core.NoWaiters ∧
      ∀ step ∈ steps, ∀ id, step.operation.request? = some (.getResource id) →
        ((Kernel.getResource id).run step.before).result ≠ .ok .blocked := by
  refine ⟨execution.nested_strict.1.empty, ?_⟩
  intro step member id asked
  obtain ⟨_, latest⟩ := execution.exists_latest member
  obtain ⟨nested, strict⟩ := latest.earlier.nested_strict
  have caller : step.operation.isCaller := Operation.isCaller_of_request? asked
  rcases Kernel.getResource_makes latest.ready.sound (latest.ready.chosen caller) id with
    granted | blocked | ⟨reason, refused⟩
  · rw [granted.result]
    nofun
  · exact absurd blocked.allowed
      (Step.not_queue_of_strict latest.admitted.2 latest.ready.sound nested strict asked)
  · rw [refused]
    nofun

/-- One task after the other takes the resource, the more urgent one as soon as it is given up. -/
def inTurn : List (Operation FrameIndex) :=
  [.launch ⟨0⟩, .request (.getResource 0), .interrupt (.activateTask 2),
    .request (.releaseResource 0), .dispatch ⟨1⟩, .request (.getResource 0)]

set_option maxRecDepth 4000 in
theorem never_blocked_in_turn :
    ∃ (steps : List (Step FrameIndex)) (kernel : Kernel FrameIndex),
      Execution (fun step => ¬ step.SleepsOwning ∧ step.AsksBeyond) (Configuration.pair 1) steps
        kernel ∧
      kernel.core.owns 2 0 ∧ kernel.core.NoWaiters ∧
      ∀ step ∈ steps, ∀ id, step.operation.request? = some (.getResource id) →
        ((Kernel.getResource id).run step.before).result ≠ .ok .blocked := by
  have execution : Execution (fun step => ¬ step.SleepsOwning ∧ step.AsksBeyond)
      (Configuration.pair 1) (pairSteps 1 inTurn) (pairReached 1 inTurn) := by
    refine of_pair (by decide) (by decide) ?_
    refine ⟨by decide, ⟨Step.not_sleepsOwning nofun, Step.asksBeyond_of_ne nofun⟩,
      by decide, ⟨Step.not_sleepsOwning nofun, ?first⟩,
      by decide, ⟨Step.not_sleepsOwning nofun, Step.asksBeyond_of_ne nofun⟩,
      by decide, ⟨Step.not_sleepsOwning nofun, Step.asksBeyond_of_ne nofun⟩,
      by decide, ⟨Step.not_sleepsOwning nofun, Step.asksBeyond_of_ne nofun⟩,
      by decide, ⟨Step.not_sleepsOwning nofun, ?second⟩, trivial⟩
    case first =>
      rintro id resource ⟨⟩ ⟨⟩
      decide
    case second =>
      rintro id resource ⟨⟩ ⟨⟩
      decide
  exact ⟨_, _, execution, by decide, execution.never_blocked⟩

end Execution

end Rtos
