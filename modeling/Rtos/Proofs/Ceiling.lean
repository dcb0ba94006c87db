/-
Module: Rtos.Proofs.Ceiling
Purpose: What the ceilings achieve while no task sleeps with a resource in hand.  Of two owners, one
  was entitled to preempt the other: its base priority is beyond every ceiling that the other holds.
Main definitions: Core.Yields, Core.NoWaiters, Core.Nested, Core.Strict
Main statements: `Core.Nested.yields_le`, `Core.Nested.apply`
-/
import Rtos.Proofs.Change

namespace Rtos

namespace Core

variable {C : Type} {core : Core C} {id : ResourceId} {task giver : TaskId} {level : Priority}
  {below : Priority → Priority → Prop}

/-- While the owner of a resource can run, the chosen task is the owner or has a base priority that
is `below` the ceiling. -/
def Yields (below : Priority → Priority → Prop) (core : Core C) : Prop :=
  ∀ (id : ResourceId) (resource : Resource) (owner : TaskId),
    core.resources[id]? = some resource → resource.owner = some owner →
    (core.sched.slot owner).state.isRunnable →
      core.sched.selected = owner ∨
        below (core.sched.slot core.sched.selected).basePriority resource.ceiling

/-- No task queues for any resource. -/
def NoWaiters (core : Core C) : Prop :=
  ∀ (id : ResourceId) (resource : Resource), core.resources[id]? = some resource →
    resource.waiters = []

/-- The owners of resources are nested in each other: all of them can run, nobody queues, and of
any two one has a base priority `below` all ceilings that the other holds. -/
structure Nested (below : Priority → Priority → Prop) (core : Core C) : Prop where
  empty : core.NoWaiters
  awake : ∀ task level, core.HoldsAt task level → (core.sched.slot task).state.isRunnable
  nested : ∀ first second, first ≠ second →
    (∀ level, core.HoldsAt second level → below (core.sched.slot first).basePriority level) ∨
      ∀ level, core.HoldsAt first level → below (core.sched.slot second).basePriority level

/-- Every owner would be less urgent than what it owns, if it did not own it. -/
def Strict (core : Core C) : Prop :=
  ∀ task level, core.HoldsAt task level → level < (core.sched.slot task).basePriority

/-! ### What nesting gives -/

/-- The chosen task is no less urgent at its base priority than any ceiling that another task
holds. -/
theorem Nested.yields_le (nested : core.Nested below) (sound : core.Sound)
    (weaken : ∀ base level, below base level → base ≤ level)
    (urgent : ∀ owner held level, core.HoldsAt owner held →
      below (core.sched.slot owner).basePriority level →
        (core.sched.slot owner).priority < level) : core.Yields (· ≤ ·) := by
  intro id resource owner found owned runnable
  by_cases same : core.sched.selected = owner
  · exact .inl same
  refine .inr ?_
  have holds := holdsAt_of_found found owned
  have ownerFits := sound.fits owner
  have chosenFits := sound.fits core.sched.selected
  have first : (core.sched.slot core.sched.selected).priority ≤ (core.sched.slot owner).priority :=
    sound.mostUrgent owner runnable
  have raised : (core.sched.slot owner).priority ≤ resource.ceiling :=
    ownerFits.effective.le_ceiling resource.ceiling holds
  rcases nested.nested core.sched.selected owner same with chosen | holder
  · exact weaken _ _ (chosen resource.ceiling holds)
  · -- the chosen task owes its priority to no ceiling, since the owner is beyond all of these
    rcases chosenFits.effective.attained with base | held
    · rw [← base]
      exact Nat.le_trans first raised
    · have beyond := urgent owner resource.ceiling _ holds (holder _ held)
      exact absurd (Nat.lt_of_lt_of_le beyond first) (Nat.lt_irrefl _)

/-- With strict nesting the owners need nothing else. -/
theorem Nested.yields_of_lt (nested : core.Nested (· < ·)) (sound : core.Sound) :
    core.Yields (· ≤ ·) := by
  refine nested.yields_le sound (fun _ _ => Nat.le_of_lt) ?_
  intro owner _ level _ beyond
  exact Nat.lt_of_le_of_lt (sound.fits owner).effective.le_base beyond

/-- Where every owner is below the ceilings that it holds, nesting need not be strict. -/
theorem Nested.yields_of_le (nested : core.Nested (· ≤ ·)) (sound : core.Sound)
    (strict : core.Strict) : core.Yields (· ≤ ·) := by
  refine nested.yields_le sound (fun _ _ => id) ?_
  intro owner held level holds beyond
  have raised := (sound.fits owner).effective.le_ceiling held holds
  exact Nat.lt_of_le_of_lt raised (Nat.lt_of_lt_of_le (strict owner held holds) beyond)

/-! ### Passing on what nobody waits for -/

theorem NoWaiters.congr {after : Core C} (empty : core.NoWaiters)
    (same : after.resources = core.resources) : after.NoWaiters := by
  intro id resource found
  rw [same] at found
  exact empty id resource found

/-- Without waiters, a resource that is passed on becomes free. -/
theorem NoWaiters.pass (empty : core.NoWaiters) (id : ResourceId) (giver : TaskId) :
    (core.pass id giver).NoWaiters ∧
      ∀ task level, (core.pass id giver).HoldsAt task level → core.HoldsAt task level := by
  cases found : core.resources[id]? with
  | none =>
      rw [Core.pass, found]
      exact ⟨empty, fun _ _ holds => holds⟩
  | some resource =>
      have none := empty id resource found
      refine ⟨?_, ?_⟩
      · intro other here foundHere
        have same : (core.pass id giver).resources =
            (core.modifyResource id Resource.pass).resources := resources_pass found
        rw [same] at foundHere
        rcases found_modifyResource found foundHere with ⟨rfl, rfl⟩ | ⟨-, old⟩
        · rw [Resource.pass, none]
          rfl
        · exact empty other here old
      · rintro task level ⟨other, here, foundHere, owner, ceiling⟩
        rcases owner_pass found foundHere owner with ⟨old, foundOld, ownerOld, same, -⟩ | ⟨-, waits⟩
        · exact ⟨other, old, foundOld, ownerOld, same.trans ceiling⟩
        · rw [none] at waits
          cases waits

theorem NoWaiters.passOwned (empty : core.NoWaiters) (giver : TaskId) (ids : List ResourceId) :
    (core.passOwned giver ids).NoWaiters ∧
      ∀ task level, (core.passOwned giver ids).HoldsAt task level → core.HoldsAt task level := by
  induction ids generalizing core with
  | nil => exact ⟨empty, fun _ _ holds => holds⟩
  | cons id rest ih =>
      unfold Core.passOwned
      split
      · obtain ⟨emptyFirst, heldFirst⟩ := empty.pass id giver
        obtain ⟨emptyRest, heldRest⟩ := ih emptyFirst
        exact ⟨emptyRest, fun task level holds => heldFirst task level (heldRest task level holds)⟩
      · exact ih empty

end Core

namespace Move

variable {C : Type} [Machine C] {core : Core C} {move : Move}

/-- Without waiters, only taking a resource adds to what a task owns. -/
theorem holdsAt_apply (empty : core.NoWaiters) (noQueue : ∀ id, move ≠ .queue id)
    (noTake : ∀ id, move ≠ .take id) :
    (move.apply core).NoWaiters ∧
      ∀ task level, (move.apply core).HoldsAt task level → core.HoldsAt task level := by
  have decided := resources_apply move core
  have edited : (move.edit core).NoWaiters ∧
      ∀ task level, (move.edit core).HoldsAt task level → core.HoldsAt task level := by
    have passed := empty.passOwned core.sched.current core.resourceIds.reverse
    cases move with
    | take id => exact absurd rfl (noTake id)
    | queue id => exact absurd rfl (noQueue id)
    | release id => exact empty.pass id core.sched.current
    | finish => exact ⟨passed.1.congr rfl, passed.2⟩
    | chain id => exact ⟨passed.1.congr rfl, passed.2⟩
    | _ => exact ⟨empty.congr rfl, fun _ _ holds => holds⟩
  refine ⟨edited.1.congr decided, fun task level holds => edited.2 task level ?_⟩
  exact (Core.any_congr decided).mp holds

/-- Taking a resource adds that one to what the caller owns. -/
theorem holdsAt_take {id : ResourceId} {resource : Resource}
    (found : core.resources[id]? = some resource) {task : TaskId} {level : Priority}
    (holds : ((take id).apply core).HoldsAt task level) :
    core.HoldsAt task level ∨ task = core.sched.current ∧ level = resource.ceiling := by
  have edited : (take id).edit core = core.take id resource.ceiling core.sched.current := by
    rw [edit, found]
  have taken : ((take id).apply core).resources =
      (core.modifyResource id fun resource =>
        { resource with owner := some core.sched.current }).resources := by
    rw [resources_apply, edited]
    rfl
  rcases (Core.any_modifyResource found).mp ((Core.any_congr taken).mp holds) with
    ⟨owner, ceiling⟩ | other
  · exact .inr ⟨(Option.some.inj owner).symm, ceiling.symm⟩
  · exact .inl ((Core.any_iff found).mpr (.inr other))

end Move

namespace Core

variable {C : Type} [Machine C] {core : Core C} {move : Move}
  {below : Priority → Priority → Prop}

/-- An owner that can run still can after any move that does not block it. -/
theorem isRunnable_apply (sound : core.Sound) (allowed : move.Allowed core) {task : TaskId}
    {level : Priority} (holds : (move.apply core).HoldsAt task level)
    (runnable : (core.sched.slot task).state.isRunnable)
    (free : move.blocks → task ≠ core.sched.current) :
    ((move.apply core).sched.slot task).state.isRunnable := by
  have active := (((allowed.sound sound).fits task).owner level holds).1
  have moving : ((move.apply core).sched.slot task).state ≠ .waiting := by
    intro waiting
    rcases allowed.waiting_apply sound waiting with before | ⟨caller, blocks⟩
    · exact TaskState.ne_waiting_of_isRunnable runnable before
    · exact free blocks caller
  cases state : ((move.apply core).sched.slot task).state <;> simp_all [TaskState.isActive,
    TaskState.isRunnable]

omit [Machine C] in
/-- Nesting concerns owners alone, and their base priorities are fixed. -/
theorem Nested.of_held {after : Core C} (nested : core.Nested below) (empty : after.NoWaiters)
    (awake : ∀ task level, after.HoldsAt task level → (after.sched.slot task).state.isRunnable)
    (held : ∀ task level, after.HoldsAt task level → core.HoldsAt task level)
    (base : ∀ task level, core.HoldsAt task level →
      (after.sched.slot task).basePriority = (core.sched.slot task).basePriority) :
    after.Nested below := by
  refine ⟨empty, awake, ?_⟩
  intro first second differ
  by_cases firstOwns : ∃ level, core.HoldsAt first level
  · by_cases secondOwns : ∃ level, core.HoldsAt second level
    · obtain ⟨one, holdsOne⟩ := firstOwns
      obtain ⟨two, holdsTwo⟩ := secondOwns
      rw [base first one holdsOne, base second two holdsTwo]
      exact (nested.nested first second differ).imp
        (fun beyond level holds => beyond level (held second level holds))
        (fun beyond level holds => beyond level (held first level holds))
    · exact .inl fun level holds => absurd ⟨level, held second level holds⟩ secondOwns
  · exact .inr fun level holds => absurd ⟨level, held first level holds⟩ firstOwns

/-- A move that neither takes a resource nor queues for one keeps owners nested, unless it blocks
an owner. -/
theorem Nested.apply (nested : core.Nested below) (sound : core.Sound)
    (allowed : move.Allowed core) (noQueue : ∀ id, move ≠ .queue id)
    (noTake : ∀ id, move ≠ .take id)
    (free : move.blocks → ∀ level, ¬ core.HoldsAt core.sched.current level) :
    (move.apply core).Nested below := by
  obtain ⟨empty, held⟩ := Move.holdsAt_apply nested.empty noQueue noTake
  refine nested.of_held empty ?_ held ?_
  · intro task level holds
    refine isRunnable_apply sound allowed holds (nested.awake task level (held task level holds)) ?_
    rintro blocks rfl
    exact free blocks level (held _ level holds)
  · intro task level holds
    exact allowed.basePriority_apply sound (sound.ne_free_of_holdsAt holds)

/-- A task that takes a resource has preempted all other owners, and was entitled to. -/
theorem Nested.take (nested : core.Nested below) (sound : core.Sound) {id : ResourceId}
    (allowed : Move.Allowed core (.take id)) (yields : core.Yields below) :
    ((Move.take id).apply core).Nested below := by
  obtain ⟨resource, found, free, entitled⟩ := allowed.permitted
  have chosen := allowed.chosen rfl
  have runnable := allowed.caller_runnable sound rfl
  have edited : (Move.take id).edit core = core.take id resource.ceiling core.sched.current := by
    rw [Move.edit, found]
  have held : ∀ task level, ((Move.take id).apply core).HoldsAt task level →
      core.HoldsAt task level ∨ task = core.sched.current ∧ level = resource.ceiling :=
    fun _ _ => Move.holdsAt_take found
  have base : ∀ task, (((Move.take id).apply core).sched.slot task).basePriority =
      (core.sched.slot task).basePriority := by
    intro task
    by_cases free : (core.sched.slot task).state = .free
    · obtain ⟨state, applied, -⟩ := allowed.slot_apply sound task
      rw [applied, edited, slot_take (Scheduler.lt_of_isRunnable runnable)]
      split <;> rfl
    · exact allowed.basePriority_apply sound free
  have awake : ∀ task level, ((Move.take id).apply core).HoldsAt task level →
      (core.sched.slot task).state.isRunnable := by
    intro task level holds
    rcases held task level holds with old | ⟨rfl, -⟩
    · exact nested.awake task level old
    · exact runnable
  -- the caller is chosen although every other owner can run, so it is beyond their ceilings
  have beyond : ∀ task level, core.sched.current ≠ task →
      ((Move.take id).apply core).HoldsAt task level →
      below (((Move.take id).apply core).sched.slot core.sched.current).basePriority level := by
    intro task level differ holds
    have old := (held task level holds).resolve_right fun caller => differ caller.1.symm
    obtain ⟨other, here, foundHere, owner, ceiling⟩ := old
    rw [base]
    rcases yields other here task foundHere owner (awake task level holds) with same | under
    · exact absurd (chosen.symm.trans same) differ
    · rw [chosen, ceiling] at under
      exact under
  refine ⟨?_, ?_, ?_⟩
  · intro other here foundHere
    rw [Move.resources_apply, edited] at foundHere
    rcases found_modifyResource found foundHere with ⟨rfl, rfl⟩ | ⟨-, old⟩
    · exact nested.empty id resource found
    · exact nested.empty other here old
  · intro task level holds
    exact isRunnable_apply sound allowed holds (awake task level holds)
      fun blocks => absurd blocks Bool.false_ne_true
  · intro first second differ
    by_cases firstCalls : core.sched.current = first
    · rw [← firstCalls]
      exact .inl fun level holds => beyond second level (firstCalls ▸ differ) holds
    · by_cases secondCalls : core.sched.current = second
      · rw [← secondCalls]
        exact .inr fun level holds => beyond first level firstCalls holds
      · rw [base, base]
        have old : ∀ task level, core.sched.current ≠ task →
            ((Move.take id).apply core).HoldsAt task level → core.HoldsAt task level :=
          fun task level other holds =>
            (held task level holds).resolve_right fun caller => other caller.1.symm
        exact (nested.nested first second differ).imp
          (fun far level holds => far level (old second level secondCalls holds))
          (fun far level holds => far level (old first level firstCalls holds))

/-- Owners stay strict as long as resources are taken by tasks that are. -/
theorem Strict.apply (strict : core.Strict) (empty : core.NoWaiters) (sound : core.Sound)
    (allowed : move.Allowed core) (noQueue : ∀ id, move ≠ .queue id)
    (entitled : ∀ id resource, move = .take id → core.resources[id]? = some resource →
      resource.ceiling < core.caller.basePriority) : (move.apply core).Strict := by
  intro task level holds
  by_cases taking : ∃ id, move = .take id
  · obtain ⟨id, rfl⟩ := taking
    obtain ⟨resource, found, -, -⟩ := allowed.permitted
    rcases Move.holdsAt_take found holds with old | ⟨rfl, rfl⟩
    · rw [allowed.basePriority_apply sound (sound.ne_free_of_holdsAt old)]
      exact strict task level old
    · have runnable := allowed.caller_runnable sound rfl
      rw [allowed.basePriority_apply sound (TaskState.ne_free_of_isRunnable runnable)]
      exact entitled id resource rfl found
  · have kept := (Move.holdsAt_apply empty noQueue fun id take => taking ⟨id, take⟩).2
    have old := kept task level holds
    rw [allowed.basePriority_apply sound (sound.ne_free_of_holdsAt old)]
    exact strict task level old

end Core

end Rtos
