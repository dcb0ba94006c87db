/-
Module: Rtos.Proofs.Handover
Purpose: What becomes of a task that is blocked on a resource.  Nothing wakes it before an owner of
  the resource hands it over, and from then on it is the owner, until it parts with the resource of
  its own accord.
Main definitions: Step.BlocksOn, Execution.LastsUntil
Main statements: `Execution.LastsUntil.cons`, `Execution.blocked_until_handedOver`
-/
import Rtos.Proofs.Custody

namespace Rtos

/-- The task on the CPU asks for the resource, and the answer is that it has to wait. -/
structure Step.BlocksOn {C : Type} [Machine C] (step : Step C) (id : ResourceId) : Prop where
  asked : step.operation.request? = some (.getResource id)
  answer : ((Kernel.getResource id).run step.before).result = .ok .blocked

/-- The task waits in the queue of the resource. -/
def Core.AwaitsIn {C : Type} (core : Core C) (task : TaskId) (id : ResourceId) : Prop :=
  (core.sched.slot task).state = .waiting ∧ task ∈ core.queueOf id

/-- Whoever is in a queue waits there. -/
theorem Core.Consistent.awaitsIn {C : Type} {core : Core C} (consistent : core.Consistent)
    {task : TaskId} {id : ResourceId} (queued : task ∈ core.queueOf id) :
    core.AwaitsIn task id := by
  obtain ⟨resource, found, waits⟩ := Core.mem_queueOf.mp queued
  exact ⟨consistent.waiting found waits, queued⟩

namespace Step

variable {C : Type} [Machine C] {step : Step C} {id : ResourceId} {task : TaskId}

/-- A task that is blocked on a resource waits in its queue. -/
theorem Ready.awaitsIn_of_blocksOn (ready : step.Ready) (blocks : step.BlocksOn id) :
    step.after.core.AwaitsIn step.before.current id := by
  have caller : step.operation.isCaller := Operation.isCaller_of_request? blocks.asked
  have answer := blocks.answer
  rcases Kernel.getResource_makes ready.sound (ready.chosen caller) id with
    granted | queues | ⟨reason, refused⟩
  · rw [granted.result] at answer
    cases answer
  · have core : step.after.core = (Move.queue id).apply step.before.core := by
      rw [after_of_request? blocks.asked, Kernel.perform, Action.state_bind_pure]
      exact congrArg Situation.core queues.situation
    obtain ⟨resource, found, -⟩ := queues.allowed.permitted
    obtain ⟨after, foundAfter, change⟩ := queues.allowed.resourceChange found
    rw [← core] at foundAfter
    refine ready.core_sound.awaitsIn ?_
    rw [Core.queueOf_of_found foundAfter]
    cases change with
    | kept same other => exact absurd rfl other
    | taken asked => cases asked
    | joined asked owned joined =>
        rw [joined]
        exact List.mem_append_right _ List.mem_cons_self
    | passed gives => cases gives
  · rw [refused] at answer
    cases answer

omit [Machine C] in
/-- A task that asks for something is running. -/
theorem Ready.running_of_request? (ready : step.Ready) {request : Request}
    (asked : step.operation.request? = some request) :
    (step.before.sched.slot step.before.current).state = .running :=
  (ready.sound.running step.before.current).mpr
    (ready.chosen (Operation.isCaller_of_request? asked)).symm

end Step

namespace Execution

variable {C : Type} [Machine C] {admits : Step C → Prop} {config : Configuration}
  {later steps earlier : List (Step C)} {step : Step C} {kernel : Kernel C} {id : ResourceId}
  {task : TaskId}

/-! ### Until something happens -/

/-- The property holds in all states that the steps go through, or up to a step that ends this
phase; what follows on that step is as `next` says. -/
def LastsUntil (property : Kernel C → Prop) (ends : Step C → Prop)
    (next : List (Step C) → Kernel C → Prop) (steps : List (Step C)) (kernel : Kernel C) : Prop :=
  (∀ state ∈ visited steps kernel, property state) ∨
    ∃ late last early, steps = late ++ last :: early ∧
      (∀ state ∈ visited early last.before, property state) ∧ ends last ∧ next late kernel

section

variable {property : Kernel C → Prop} {ends : Step C → Prop}
  {next : List (Step C) → Kernel C → Prop}

omit [Machine C] in
/-- A phase begins. -/
theorem LastsUntil.nil (holds : property kernel) : LastsUntil property ends next [] kernel := by
  left
  intro state visited
  rw [List.mem_singleton.mp visited]
  exact holds

/-- One more step is taken.  While the phase goes on, the step has to keep the property or to end
the phase; afterwards, it is the next phase that the step has to continue. -/
theorem LastsUntil.cons (lasts : LastsUntil property ends next steps step.before)
    (keeps : property step.before → property step.after ∨ ends step ∧ next [] step.after)
    (continues : ∀ late, next late step.before → next (step :: late) step.after) :
    LastsUntil property ends next (step :: steps) step.after := by
  rcases lasts with holds | ⟨late, last, early, rfl, holds, ended, follows⟩
  · have now := holds step.before List.mem_cons_self
    rcases keeps now with still | ⟨ended, begins⟩
    · left
      intro state visited
      rcases List.mem_cons.mp visited with rfl | before
      · exact still
      · exact holds state before
    · exact .inr ⟨[], step, steps, rfl, holds, ended, begins⟩
  · exact .inr ⟨step :: late, last, early, rfl, holds, ended, continues late follows⟩

end

/-! ### A blocked task -/

/-- From now on the task owns the resource, until it parts with it of its own accord. -/
def OwnsFromNow (task : TaskId) (id : ResourceId) : List (Step C) → Kernel C → Prop :=
  LastsUntil (fun state => state.core.owns task id)
    (fun last => last.before.current = task ∧ last.PartsWith id) fun _ _ => True

theorem OwnsFromNow.cons (owns : OwnsFromNow task id steps step.before) (ready : step.Ready) :
    OwnsFromNow task id (step :: steps) step.after :=
  LastsUntil.cons owns
    (fun owned => (ready.owned_or_partedWith owned).imp_right fun parted => ⟨parted, trivial⟩)
    fun _ _ => trivial

/-- A task that was blocked on a resource waits until it is handed the resource, which it then owns
until it parts with it. -/
theorem lastsUntil_handedOver
    (execution : Execution admits config (later ++ step :: earlier) kernel)
    (blocks : step.BlocksOn id) :
    LastsUntil (fun state => state.core.AwaitsIn step.before.current id)
      (fun last => last.HandsOver id step.before.current)
      (OwnsFromNow step.before.current id) later kernel := by
  induction later generalizing kernel with
  | nil =>
      obtain ⟨latest, rfl⟩ := execution.latest
      exact .nil (latest.ready.awaitsIn_of_blocksOn blocks)
  | cons next rest ih =>
      obtain ⟨latest, rfl⟩ := execution.latest
      have ready := latest.ready
      refine (ih latest.earlier).cons ?_ fun _ owns => owns.cons ready
      -- the queue alone carries the phase: whoever is in it is waiting in every sound state
      rintro ⟨-, queued⟩
      rcases ready.queued_or_handedOver queued with still | handed
      · exact .inl (ready.core_sound.awaitsIn still)
      · exact .inr ⟨handed, .nil handed.received⟩

/-- As long as a task that was blocked on a resource has not run again, it waits for the resource or
owns it. -/
theorem awaitsIn_or_owns (execution : Execution admits config (later ++ step :: earlier) kernel)
    (blocks : step.BlocksOn id)
    (idle : ∀ last ∈ later, (last.before.sched.slot step.before.current).state ≠ .running) :
    kernel.core.AwaitsIn step.before.current id ∨ kernel.core.owns step.before.current id := by
  induction later generalizing kernel with
  | nil =>
      obtain ⟨latest, rfl⟩ := execution.latest
      exact .inl (latest.ready.awaitsIn_of_blocksOn blocks)
  | cons next rest ih =>
      obtain ⟨latest, rfl⟩ := execution.latest
      have ready := latest.ready
      obtain ⟨still, before⟩ := List.forall_mem_cons.mp idle
      rcases ih latest.earlier before with ⟨-, queued⟩ | owned
      · rcases ready.queued_or_handedOver queued with waits | handed
        · exact .inl (ready.core_sound.awaitsIn waits)
        · exact .inr handed.received
      · rcases ready.owned_or_partedWith owned with kept | ⟨self, parted⟩
        · exact .inr kept
        · -- only a running task parts with what it owns
          obtain ⟨request, asked⟩ := parted.exists_request?
          have running := ready.running_of_request? asked
          rw [self] at running
          exact absurd running still

/-- A task whose request for a resource was answered by blocking waits in the queue of the resource
until the owner hands it over, by giving it up or by ending; nothing else wakes it.  It owns the
resource from then on, until it gives it up or ends; and so it is the owner when it runs again for
the first time. -/
theorem blocked_until_handedOver
    (execution : Execution admits config (later ++ step :: earlier) kernel)
    (blocks : step.BlocksOn id) :
    LastsUntil (fun state => state.core.AwaitsIn step.before.current id)
        (fun last => last.HandsOver id step.before.current)
        (OwnsFromNow step.before.current id) later kernel ∧
      ((kernel.sched.slot step.before.current).state = .running →
        (∀ last ∈ later, (last.before.sched.slot step.before.current).state ≠ .running) →
          kernel.core.owns step.before.current id) := by
  refine ⟨execution.lastsUntil_handedOver blocks, fun running idle => ?_⟩
  rcases execution.awaitsIn_or_owns blocks idle with ⟨waiting, -⟩ | owned
  · have other : (kernel.sched.slot step.before.current).state = .waiting := waiting
    rw [running] at other
    cases other
  · exact owned

/-- The more urgent task asks for a resource that the other one owns; meanwhile events reach it and
time passes, and in the end the owner gives the resource up. -/
def handedOver : List (Operation FrameIndex) :=
  [.launch ⟨0⟩, .request (.getResource 0), .request (.activateTask 2), .dispatch ⟨1⟩,
    .request (.getResource 0), .interrupt (.setEvent 2 0xFFFFFFFF), .tick, .dispatch ⟨2⟩,
    .request (.releaseResource 0)]

set_option maxRecDepth 8000 in
theorem blocked_then_handedOver :
    ∃ (later earlier : List (Step FrameIndex)) (step : Step FrameIndex)
        (kernel : Kernel FrameIndex),
      Execution (fun _ => True) (Configuration.pair 2) (later ++ step :: earlier) kernel ∧
        step.BlocksOn 0 ∧ step.before.current = 2 ∧
        LastsUntil (fun state => state.core.AwaitsIn 2 0) (fun last => last.HandsOver 0 2)
          (OwnsFromNow 2 0) later kernel ∧
        (kernel.sched.slot 2).state = .running ∧ kernel.core.owns 2 0 := by
  have execution : Execution (fun _ => True) (Configuration.pair 2) (pairSteps 2 handedOver)
      (pairReached 2 handedOver) :=
    of_pair (by decide) (by decide) (by decide)
  have split : ∃ later earlier step, pairSteps 2 handedOver = later ++ step :: earlier ∧
      step.BlocksOn 0 ∧ step.before.current = 2 ∧
      ∀ last ∈ later, (last.before.sched.slot 2).state ≠ .running :=
    ⟨[_, _, _, _], _, _, rfl, ⟨rfl, rfl⟩, rfl, by decide⟩
  obtain ⟨later, earlier, step, same, blocks, current, idle⟩ := split
  rw [same] at execution
  have running : ((pairReached 2 handedOver).sched.slot 2).state = .running := by decide
  obtain ⟨phases, owner⟩ := execution.blocked_until_handedOver blocks
  rw [current] at phases owner
  exact ⟨later, earlier, step, _, execution, blocks, current, phases, running, owner running idle⟩

end Execution

end Rtos
