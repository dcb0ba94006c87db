/-
Module: Rtos.Proofs.Fits
Purpose: When the record of a task agrees with the resources that the task owns and queues for, and
  that every change to a record keeps it so.
Main definitions: IsEffective, Task.Fits
Main statements: one `Task.Fits` lemma for each step of a task's life.
-/
import Rtos.Events
import Rtos.Proofs.Decision

namespace Rtos

/-! ### Effective priorities -/

/-- The priority that a task has to run at: the most urgent of its base priority and of the ceilings
that it holds. -/
structure IsEffective (held : Priority → Prop) (base priority : Priority) : Prop where
  le_base : priority ≤ base
  le_ceiling : ∀ ceiling, held ceiling → priority ≤ ceiling
  attained : priority = base ∨ held priority

namespace IsEffective

variable {held larger : Priority → Prop} {base priority other ceiling : Priority}

/-- There is only one such priority. -/
theorem unique (left : IsEffective held base priority) (right : IsEffective held base other) :
    priority = other := by
  have below : ∀ {first second : Priority}, IsEffective held base first →
      IsEffective held base second → first ≤ second := by
    intro first second one two
    rcases two.attained with atBase | atCeiling
    · rw [atBase]
      exact one.le_base
    · exact one.le_ceiling second atCeiling
  exact Nat.le_antisymm (below left right) (below right left)

/-- A task that holds nothing runs at its base priority. -/
theorem of_none (none : ∀ ceiling, ¬ held ceiling) : IsEffective held base base :=
  ⟨Nat.le_refl _, fun ceiling holds => absurd holds (none ceiling), .inl rfl⟩

/-- One more ceiling is taken into account by a minimum. -/
theorem raise (effective : IsEffective held base priority)
    (grown : ∀ level, larger level ↔ held level ∨ level = ceiling) :
    IsEffective larger base (min priority ceiling) where
  le_base := Nat.le_trans (Nat.min_le_left _ _) effective.le_base
  le_ceiling := by
    intro level holds
    rcases (grown level).mp holds with old | rfl
    · exact Nat.le_trans (Nat.min_le_left _ _) (effective.le_ceiling level old)
    · exact Nat.min_le_right _ _
  attained := by
    rcases Nat.le_total priority ceiling with below | above
    · rw [Nat.min_eq_left below]
      exact effective.attained.imp_right fun old => (grown _).mpr (.inl old)
    · rw [Nat.min_eq_right above]
      exact .inr ((grown _).mpr (.inr rfl))

/-- Minimizing over a list gives the effective priority for the ceilings in the list. -/
theorem foldl_min (ceilings : List Priority) (base : Priority) :
    IsEffective (· ∈ ceilings) base (ceilings.foldl min base) := by
  induction ceilings generalizing base with
  | nil => exact of_none fun _ => List.not_mem_nil
  | cons ceiling rest ih =>
      obtain ⟨belowBase, belowRest, attained⟩ := ih (min base ceiling)
      refine ⟨Nat.le_trans belowBase (Nat.min_le_left _ _), ?_, ?_⟩
      · intro level member
        rcases List.mem_cons.mp member with rfl | later
        · exact Nat.le_trans belowBase (Nat.min_le_right _ _)
        · exact belowRest level later
      · rw [List.foldl_cons]
        rcases attained with start | later
        · rw [start]
          rcases Nat.le_total base ceiling with below | above
          · exact .inl (Nat.min_eq_left below)
          · exact .inr (by rw [Nat.min_eq_right above]; exact List.mem_cons_self)
        · exact .inr (List.mem_cons_of_mem _ later)

end IsEffective

namespace TaskState

variable {state : TaskState}

theorem ne_free_of_isRunnable (runnable : state.isRunnable) : state ≠ .free := by
  rintro rfl
  cases runnable

theorem ne_waiting_of_isRunnable (runnable : state.isRunnable) : state ≠ .waiting := by
  rintro rfl
  cases runnable

theorem isActive_of_isRunnable (runnable : state.isRunnable) : state.isActive := by
  cases state <;> first | rfl | cases runnable

theorem ne_free_of_isActive (active : state.isActive) : state ≠ .free := by
  rintro rfl
  cases active

end TaskState

namespace Task

variable {C : Type}

/-! ### Agreement of a record with the resources -/

/-- The record of a task agrees with the resources.  Of these it matters at which ceilings the task
owns some, and at which it queues. -/
structure Fits (id : TaskId) (held queued : Priority → Prop) (task : Task C) : Prop where
  id_eq : task.id = id
  image_isSome : task.state ≠ .free → task.image.isSome
  /-- Active tasks, and no others, have registers somewhere. -/
  dormant_iff : task.context = .dormant ↔ task.state.isActive = false
  eventWait_eq : task.state ≠ .waiting → task.eventWait = 0
  effective : IsEffective held task.basePriority task.priority
  owner : ∀ ceiling, held ceiling → task.state.isActive ∧ ceiling ≤ task.basePriority
  waiter : ∀ ceiling, queued ceiling →
    task.state = .waiting ∧ task.eventWait = 0 ∧ ceiling ≤ task.basePriority
  /-- Who waits for no resource waits for events that are not there. -/
  blocked : task.state = .waiting →
    (∃ ceiling, queued ceiling) ∨ task.eventWait &&& task.eventFlags = 0

/-- The boot state of a slot. -/
theorem fits_vacant {held queued : Priority → Prop} (id : TaskId)
    (noneHeld : ∀ ceiling, ¬ held ceiling) (noneQueued : ∀ ceiling, ¬ queued ceiling) :
    (vacant id : Task C).Fits id held queued where
  id_eq := rfl
  image_isSome := fun declared => absurd rfl declared
  dormant_iff := iff_of_true rfl rfl
  eventWait_eq := fun _ => rfl
  effective := .of_none noneHeld
  owner := fun ceiling holds => absurd holds (noneHeld ceiling)
  waiter := fun ceiling queues => absurd queues (noneQueued ceiling)
  blocked := fun waiting => by cases waiting

namespace Fits

variable {id : TaskId} {held queued held' queued' : Priority → Prop} {task : Task C}
  {ceiling : Priority} {mask : EventMask}

/-- Only the ceilings matter. -/
theorem congr (fits : task.Fits id held queued) (sameHeld : ∀ level, held' level ↔ held level)
    (sameQueued : ∀ level, queued' level ↔ queued level) : task.Fits id held' queued' := by
  have heldEq : held' = held := funext fun level => propext (sameHeld level)
  have queuedEq : queued' = queued := funext fun level => propext (sameQueued level)
  rw [heldEq, queuedEq]
  exact fits

/-- A task that is not active owns nothing. -/
theorem not_held (fits : task.Fits id held queued) (inactive : task.state.isActive = false) :
    ∀ level, ¬ held level := by
  intro level holds
  rw [(fits.owner level holds).1] at inactive
  cases inactive

/-- A task that does not wait is in no queue. -/
theorem not_queued (fits : task.Fits id held queued) (moving : task.state ≠ .waiting) :
    ∀ level, ¬ queued level := fun level queues => moving (fits.waiter level queues).1

/-- A task keeps its registers as long as it stays active. -/
theorem dormant_iff_of_isActive (fits : task.Fits id held queued) {state : TaskState}
    (before : task.state.isActive) (after : state.isActive) :
    task.context = .dormant ↔ state.isActive = false := by
  have same := fits.dormant_iff
  rw [before] at same
  rwa [after]

/-- Running marks may come and go. -/
theorem withRunnable (fits : task.Fits id held queued) {state : TaskState}
    (before : task.state.isRunnable) (after : state.isRunnable) :
    ({ task with state } : Task C).Fits id held queued where
  id_eq := fits.id_eq
  image_isSome := fun _ => fits.image_isSome (TaskState.ne_free_of_isRunnable before)
  dormant_iff := fits.dormant_iff_of_isActive (TaskState.isActive_of_isRunnable before)
    (TaskState.isActive_of_isRunnable after)
  eventWait_eq := fun _ => fits.eventWait_eq (TaskState.ne_waiting_of_isRunnable before)
  effective := fits.effective
  owner := fun level holds =>
    ⟨TaskState.isActive_of_isRunnable after, (fits.owner level holds).2⟩
  waiter := fun level queues =>
    absurd queues (fits.not_queued (TaskState.ne_waiting_of_isRunnable before) level)
  blocked := fun waiting =>
    absurd waiting (TaskState.ne_waiting_of_isRunnable after)

/-- The registers of an active task may move. -/
theorem withContext (fits : task.Fits id held queued) {context : Context C}
    (before : task.context ≠ .dormant) (after : context ≠ .dormant) :
    ({ task with context } : Task C).Fits id held queued :=
  { fits with
    dormant_iff := by
      refine iff_of_false after ?_
      rw [← fits.dormant_iff]
      exact before }

/-- A slot is filled that is in nobody's hands. -/
theorem declare (fits : task.Fits id held queued) (noneHeld : ∀ level, ¬ held level)
    (noneQueued : ∀ level, ¬ queued level) (spec : TaskSpec) :
    (task.declare spec).Fits id held queued where
  id_eq := fits.id_eq
  image_isSome := fun _ => rfl
  dormant_iff := iff_of_true rfl rfl
  eventWait_eq := fun _ => rfl
  effective := .of_none noneHeld
  owner := fun level holds => absurd holds (noneHeld level)
  waiter := fun level queues => absurd queues (noneQueued level)
  blocked := fun waiting => by cases waiting

/-- A suspended task is activated. -/
theorem activate (fits : task.Fits id held queued) {prime : Primer C} {fresh : Task C}
    (activated : task.activate prime = .ok fresh) : fresh.Fits id held queued := by
  unfold Task.activate at activated
  split at activated
  · rename_i suspended imaged
    cases activated
    have inactive : task.state.isActive = false := by rw [suspended]; rfl
    exact
      { id_eq := fits.id_eq
        image_isSome := fun _ => rfl
        dormant_iff := by simp [TaskState.isActive]
        eventWait_eq := fun _ => rfl
        effective := .of_none (fits.not_held inactive)
        owner := fun level holds => absurd holds (fits.not_held inactive level)
        waiter := fun level queues =>
          absurd queues (fits.not_queued (by rw [suspended]; decide) level)
        blocked := fun waiting => by cases waiting }
  all_goals cases activated

/-- A task that has given up everything and is in no queue is ended. -/
theorem terminate (fits : task.Fits id held queued) (declared : task.state ≠ .free)
    (noneHeld : ∀ level, ¬ held level) (noneQueued : ∀ level, ¬ queued level) :
    task.terminate.Fits id held queued where
  id_eq := fits.id_eq
  image_isSome := fun _ => fits.image_isSome declared
  dormant_iff := iff_of_true rfl rfl
  eventWait_eq := fun _ => rfl
  effective := .of_none noneHeld
  owner := fun level holds => absurd holds (noneHeld level)
  waiter := fun level queues => absurd queues (noneQueued level)
  blocked := fun waiting => by cases waiting

/-! ### Events -/

theorem eventWait_and_clear (wait flags mask : EventMask) (none : wait &&& flags = 0) :
    wait &&& (flags &&& mask) = 0 := by
  rw [← UInt32.and_assoc, none, UInt32.zero_and]

/-- Events are delivered that the task does not wait for. -/
theorem deliver (fits : task.Fits id held queued)
    (missed : (task.deliver mask).hasAwaited = false) :
    (task.deliver mask).Fits id held queued :=
  { fits with
    blocked := by
      intro waiting
      simp only [Task.hasAwaited, waiting, decide_true, Bool.true_and, ne_eq,
        decide_eq_false_iff_not, Decidable.not_not] at missed
      exact .inr missed }

/-- A task that waits for one of the delivered events is in no queue. -/
theorem not_queued_of_hasAwaited (fits : task.Fits id held queued)
    (hit : (task.deliver mask).hasAwaited) : ∀ level, ¬ queued level := by
  intro level queues
  have none : (task.deliver mask).eventWait = 0 := (fits.waiter level queues).2.1
  simp [Task.hasAwaited, none] at hit

theorem state_of_hasAwaited (hit : (task.deliver mask).hasAwaited) : task.state = .waiting := by
  simp only [Task.hasAwaited, Bool.and_eq_true, decide_eq_true_eq] at hit
  exact hit.1

/-- Events are delivered that the task waits for. -/
theorem wake (fits : task.Fits id held queued) (hit : (task.deliver mask).hasAwaited) :
    (task.deliver mask).wake.Fits id held queued := by
  have waiting := state_of_hasAwaited hit
  exact
    { id_eq := fits.id_eq
      image_isSome := fun _ => fits.image_isSome (by rw [waiting]; decide)
      dormant_iff := fits.dormant_iff_of_isActive (by rw [waiting]; rfl) rfl
      eventWait_eq := fun _ => rfl
      effective := fits.effective
      owner := fun level holds => ⟨rfl, (fits.owner level holds).2⟩
      waiter := fun level queues => absurd queues (fits.not_queued_of_hasAwaited hit level)
      blocked := fun state => by cases state }

/-- Delivered events are removed. -/
theorem clear (fits : task.Fits id held queued) :
    ({ task with eventFlags := task.eventFlags &&& ~~~mask } : Task C).Fits id held queued :=
  { fits with
    blocked := fun waiting =>
      (fits.blocked waiting).imp_right
        (eventWait_and_clear task.eventWait task.eventFlags (~~~mask)) }

/-- A runnable task blocks on events that are not there. -/
theorem await (fits : task.Fits id held queued) (runnable : task.state.isRunnable)
    (missing : task.eventFlags &&& mask = 0) : (task.await mask).Fits id held queued where
  id_eq := fits.id_eq
  image_isSome := fun _ => fits.image_isSome (TaskState.ne_free_of_isRunnable runnable)
  dormant_iff := fits.dormant_iff_of_isActive (TaskState.isActive_of_isRunnable runnable) rfl
  eventWait_eq := fun moving => absurd rfl moving
  effective := fits.effective
  owner := fun level holds => ⟨rfl, (fits.owner level holds).2⟩
  waiter := fun level queues =>
    absurd queues (fits.not_queued (TaskState.ne_waiting_of_isRunnable runnable) level)
  blocked := fun _ => .inr ((UInt32.and_comm _ _).trans missing)

/-! ### Resources -/

/-- A runnable task takes one more resource. -/
theorem take (fits : task.Fits id held queued) (runnable : task.state.isRunnable)
    (entitled : ceiling ≤ task.basePriority)
    (grown : ∀ level, held' level ↔ held level ∨ level = ceiling) :
    ({ task with priority := min task.priority ceiling } : Task C).Fits id held' queued :=
  { fits with
    effective := fits.effective.raise grown
    owner := by
      intro level holds
      rcases (grown level).mp holds with old | rfl
      · exact fits.owner level old
      · exact ⟨TaskState.isActive_of_isRunnable runnable, entitled⟩ }

/-- A runnable task joins a queue. -/
theorem queue (fits : task.Fits id held queued) (runnable : task.state.isRunnable)
    (entitled : ceiling ≤ task.basePriority)
    (joined : ∀ level, queued' level ↔ queued level ∨ level = ceiling) :
    ({ task with state := .waiting } : Task C).Fits id held queued' where
  id_eq := fits.id_eq
  image_isSome := fun _ => fits.image_isSome (TaskState.ne_free_of_isRunnable runnable)
  dormant_iff := fits.dormant_iff_of_isActive (TaskState.isActive_of_isRunnable runnable) rfl
  eventWait_eq := fun moving => absurd rfl moving
  effective := fits.effective
  owner := fun level holds => ⟨rfl, (fits.owner level holds).2⟩
  waiter := by
    intro level queues
    have moving := TaskState.ne_waiting_of_isRunnable runnable
    rcases (joined level).mp queues with old | rfl
    · exact absurd old (fits.not_queued moving level)
    · exact ⟨rfl, fits.eventWait_eq moving, entitled⟩
  blocked := fun _ => .inl ⟨ceiling, (joined ceiling).mpr (.inr rfl)⟩

/-- A task gives up some of what it owns. -/
theorem giveUp (fits : task.Fits id held queued) {priority : Priority}
    (fewer : ∀ level, held' level → held level)
    (effective : IsEffective held' task.basePriority priority) :
    ({ task with priority } : Task C).Fits id held' queued :=
  { fits with
    effective := effective
    owner := fun level holds => fits.owner level (fewer level holds) }

/-- The task at the head of a queue receives the resource. -/
theorem receive (fits : task.Fits id held queued) (queues : queued ceiling)
    (grown : ∀ level, held' level ↔ held level ∨ level = ceiling)
    (left : ∀ level, ¬ queued' level) :
    ({ task with priority := min task.priority ceiling, state := .ready } : Task C).Fits
      id held' queued' := by
  obtain ⟨waiting, noEvents, entitled⟩ := fits.waiter ceiling queues
  exact
    { id_eq := fits.id_eq
      image_isSome := fun _ => fits.image_isSome (by rw [waiting]; decide)
      dormant_iff := fits.dormant_iff_of_isActive (by rw [waiting]; rfl) rfl
      eventWait_eq := fun _ => noEvents
      effective := fits.effective.raise grown
      owner := by
        intro level holds
        rcases (grown level).mp holds with old | rfl
        · exact ⟨rfl, (fits.owner level old).2⟩
        · exact ⟨rfl, entitled⟩
      waiter := fun level queues => absurd queues (left level)
      blocked := fun state => by cases state }

end Fits

end Task

end Rtos
