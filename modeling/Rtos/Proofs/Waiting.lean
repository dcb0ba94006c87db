/-
Module: Rtos.Proofs.Waiting
Purpose: Who owns, who queues and who waits for what.  Blocked tasks bear no mark that tells what
  they are blocked on; it is told by the queues and the awaited events.
Main definitions: Core.WaitStructure
Main statements: `Core.Sound.waitStructure`, `Core.Sound.length_queueOf_lt`,
  `Execution.waiting_structured`
-/
import Mathlib.Data.List.Perm.Subperm
import Rtos.Proofs.Custody

namespace Rtos

namespace Core

variable {C : Type} {core : Core C} {id : ResourceId} {task : TaskId} {reason : Refusal}

/-- Owners are active and entitled to what they own, queues are in order, and a task that is blocked
either is in a queue or lacks the events that it waits for. -/
structure WaitStructure (core : Core C) : Prop where
  owner : ∀ (id : ResourceId) (resource : Resource) (owner : TaskId),
    core.resources[id]? = some resource → resource.owner = some owner →
      (core.sched.slot owner).state.isActive ∧
        resource.ceiling ≤ (core.sched.slot owner).basePriority
  owned : ∀ (id : ResourceId) (resource : Resource),
    core.resources[id]? = some resource → resource.waiters ≠ [] →
      ∃ owner, resource.owner = some owner ∧ owner ∉ resource.waiters
  queued : ∀ (id : ResourceId) (task : TaskId), task ∈ core.queueOf id →
    (core.sched.slot task).state = .waiting ∧ task ≠ idleTask ∧
      (core.sched.slot task).eventWait = 0 ∧ (core.queueOf id).count task = 1 ∧
      ∀ other, task ∈ core.queueOf other → other = id
  blocked : ∀ task, (core.sched.slot task).state = .waiting →
    (∃ id, task ∈ core.queueOf id) ∨
      (∀ id, task ∉ core.queueOf id) ∧
        (core.sched.slot task).eventWait &&& (core.sched.slot task).eventFlags = 0
  moving : ∀ task, (core.sched.slot task).state ≠ .waiting → (core.sched.slot task).eventWait = 0

/-- The idle task is in no queue. -/
theorem Consistent.idle_not_queued (consistent : core.Consistent) (id : ResourceId) :
    idleTask ∉ core.queueOf id := by
  intro queued
  obtain ⟨resource, found, waits⟩ := mem_queueOf.mp queued
  exact TaskState.ne_waiting_of_isRunnable consistent.steady.idle (consistent.waiting found waits)

/-- No task is twice in the queue of a resource. -/
theorem Consistent.nodup_queueOf (consistent : core.Consistent) (id : ResourceId) :
    (core.queueOf id).Nodup := by
  unfold queueOf
  cases found : core.resources[id]? with
  | none => exact List.nodup_nil
  | some resource => exact (consistent.queues.orderly id resource found).nodup

/-- A sound core has the structure. -/
theorem Sound.waitStructure (sound : core.Sound) : core.WaitStructure where
  owner := fun id resource owner found owned =>
    (sound.fits owner).owner resource.ceiling (holdsAt_of_found found owned)
  owned := by
    intro id resource found nonempty
    have orderly := sound.queues.orderly id resource found
    obtain ⟨owner, owned⟩ := Option.ne_none_iff_exists'.mp fun free => nonempty (orderly.owned free)
    exact ⟨owner, owned, orderly.apart owner owned⟩
  queued := by
    intro id task queued
    obtain ⟨resource, found, waits⟩ := mem_queueOf.mp queued
    obtain ⟨waiting, noEvents, -⟩ :=
      (sound.fits task).waiter resource.ceiling (queuesAt_of_found found waits)
    refine ⟨waiting, ?_, noEvents, List.count_eq_one_of_mem (sound.nodup_queueOf id) queued, ?_⟩
    · rintro rfl
      exact sound.idle_not_queued id queued
    · intro other queuedThere
      obtain ⟨there, foundThere, waitsThere⟩ := mem_queueOf.mp queuedThere
      exact sound.queues.unique task other id there resource foundThere found waitsThere waits
  blocked := by
    intro task waiting
    by_cases queued : ∃ id, task ∈ core.queueOf id
    · exact .inl queued
    · refine .inr ⟨fun id member => queued ⟨id, member⟩, ?_⟩
      refine ((sound.fits task).blocked waiting).resolve_left ?_
      rintro ⟨level, id, resource, found, waits, -⟩
      exact queued ⟨id, mem_queueOf.mpr ⟨resource, found, waits⟩⟩
  moving := fun task => (sound.fits task).eventWait_eq

/-! ### What cannot fail -/

/-- There is always room in a queue, since its owner and the idle task are not in it. -/
theorem Sound.length_queueOf_lt (sound : core.Sound) (id : ResourceId) :
    (core.queueOf id).length < maxTasks := by
  have nodup : (idleTask :: core.queueOf id).Nodup :=
    List.nodup_cons.mpr ⟨sound.idle_not_queued id, sound.nodup_queueOf id⟩
  have inTable : idleTask :: core.queueOf id ⊆ List.range maxTasks := by
    intro task member
    rw [List.mem_range]
    rcases List.mem_cons.mp member with rfl | queued
    · decide
    · have active : (core.sched.slot task).state.isActive := by
        rw [(sound.waitStructure.queued id task queued).1]
        rfl
      exact Scheduler.lt_of_isActive active
  have bound := (List.subperm_of_subset nodup inTable).length_le
  rw [List.length_cons, List.length_range] at bound
  exact bound

/-- An undeclared task is refused before anything else is looked at. -/
theorem run_acquire_of_free (id : ResourceId) (free : (core.sched.slot task).state = .free) :
    (acquire id task).run core = ⟨.error .unknownId, core, []⟩ := by
  have unknown : core.sched.findTask task = .error .unknownId := if_pos free
  unfold acquire
  rw [Action.run_get_bind]
  cases core.resources[id]? with
  | none => rfl
  | some resource => rw [Action.run_some_bind, unknown, Action.run_error_bind]

/-- A request for a resource is refused because the resource or the task does not exist, or because
it is not permitted.  It never comes to a full queue, nor to a grant that fails. -/
theorem Sound.refusal_of_acquire (sound : core.Sound)
    (refused : ((acquire id task).run core).result = .error reason) :
    reason = .notPermitted ∨
      reason = .unknownId ∧
        (core.resources[id]? = none ∨ (core.sched.slot task).state = .free) := by
  by_cases free : (core.sched.slot task).state = .free
  · rw [run_acquire_of_free id free] at refused
    cases refused
    exact .inr ⟨rfl, .inr free⟩
  · rw [run_acquire id free] at refused
    cases found : core.resources[id]? with
    | none =>
        rw [found] at refused
        cases refused
        exact .inr ⟨rfl, .inl rfl⟩
    | some resource =>
        have room := sound.length_queueOf_lt id
        rw [queueOf_of_found found] at room
        rw [found] at refused
        dsimp only at refused
        rw [if_neg (Nat.not_le_of_lt room)] at refused
        split at refused
        · cases refused
          exact .inl rfl
        · split at refused
          · cases refused
          · split at refused <;> cases refused
            exact .inl rfl

/-- However many resources a task has passed on already, the next one that it owns is passed on as
well: once the ownership is checked, the look-ups succeed, and so does the grant. -/
theorem Sound.release_succeeds (sound : core.Sound) (task : TaskId) (ids : List ResourceId)
    (id : ResourceId) (owned : ((releaseOwned task ids).run core).state.owns task id) :
    ∃ next?, ((release id task).run ((releaseOwned task ids).run core).state).result =
      .ok next? := by
  obtain ⟨seen, -, released⟩ := run_releaseOwned sound.toConsistent task ids
  rw [released] at owned ⊢
  obtain ⟨resource, found, owner⟩ := owns_iff.mp owned
  obtain ⟨later, -, done⟩ := (sound.passOwned task ids).run_release found owner
  exact ⟨resource.waiters.head?, by rw [done]⟩

end Core

namespace Execution

variable {C : Type} [Machine C] {admits : Step C → Prop} {config : Configuration}
  {steps : List (Step C)} {kernel : Kernel C}

/-- In every state of an execution it is settled who waits for what, and so no request for a
resource is refused for want of room in a queue, no grant fails, and whoever owns a resource can
give it up, also when it ends and has given up other ones before. -/
theorem waiting_structured (execution : Execution admits config steps kernel) :
    ∀ state ∈ visited steps kernel,
      state.core.WaitStructure ∧
        (∀ id task reason, ((Core.acquire id task).run state.core).result = .error reason →
          reason = .notPermitted ∨
            reason = .unknownId ∧
              (state.core.resources[id]? = none ∨ (state.core.sched.slot task).state = .free)) ∧
        ∀ task ids id, ((Core.releaseOwned task ids).run state.core).state.owns task id →
          ∃ next?, ((Core.release id task).run
            ((Core.releaseOwned task ids).run state.core).state).result = .ok next? := by
  intro state visited
  have sound := execution.sound_of_visited visited
  exact ⟨sound.waitStructure, fun _ _ _ => sound.refusal_of_acquire, sound.release_succeeds⟩

/-- The more urgent task waits for the resource that the other one owns, and events do not wake
it. -/
def queuedUp : List (Operation FrameIndex) :=
  [.launch ⟨0⟩, .request (.getResource 0), .request (.activateTask 2), .dispatch ⟨1⟩,
    .request (.getResource 0), .interrupt (.setEvent 2 1)]

set_option maxRecDepth 4000 in
theorem waiting_queued_up :
    ∃ (steps : List (Step FrameIndex)) (kernel : Kernel FrameIndex),
      Execution (fun _ => True) (Configuration.pair 2) steps kernel ∧
        kernel.core.queueOf 0 = [2] ∧ kernel.core.owns 1 0 ∧
        (kernel.sched.slot 2).eventFlags = 1 ∧ (kernel.sched.slot 2).eventWait = 0 ∧
        kernel.core.WaitStructure ∧
        ∃ next?, ((Core.release 0 1).run kernel.core).result = .ok next? := by
  have execution : Execution (fun _ => True) (Configuration.pair 2) (pairSteps 2 queuedUp)
      (pairReached 2 queuedUp) :=
    of_pair (by decide) (by decide) (by decide)
  obtain ⟨structured, -, release⟩ := execution.waiting_structured _ List.mem_cons_self
  have waits : 2 ∈ (pairReached 2 queuedUp).core.queueOf 0 := by decide
  exact ⟨_, _, execution, by decide, by decide, by decide,
    (structured.queued 0 2 waits).2.2.1, structured, release 1 [] 0 (by decide)⟩

end Execution

end Rtos
