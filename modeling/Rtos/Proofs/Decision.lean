/-
Module: Rtos.Proofs.Decision
Purpose: What a scheduling decision chooses, and what it changes.  The chosen task is runnable and
  none that is runnable is more urgent; the decision moves running marks and nothing else.
Main definitions: activations, Scheduler.Marked, Scheduler.decided, Core.decided
Main statements: `Scheduler.decide_spec`, `Scheduler.exists_decide`, `Scheduler.state_settle`,
  `Scheduler.needsSwitch_eq_false_iff`
-/
import Rtos.Resource

namespace Rtos

/-- The task whose activation is shown, on its own or as the end of a chain. -/
def Observation.activated? : Observation → Option TaskId
  | .logged (.activated task) => some task
  | .logged (.chained _ target) => some target
  | _ => none

/-- The tasks whose activations are shown, oldest first. -/
def activations (seen : Trace) : List TaskId := seen.filterMap Observation.activated?

@[simp] theorem activations_nil : activations [] = [] := rfl

@[simp] theorem activations_append (first second : Trace) :
    activations (first ++ second) = activations first ++ activations second :=
  List.filterMap_append

@[simp] theorem activations_cons (first : Observation) (rest : Trace) :
    activations (first :: rest) = first.activated?.toList ++ activations rest := by
  unfold activations
  rw [List.filterMap_cons]
  cases first.activated? <;> rfl

namespace Task

variable {C : Type}

@[simp] theorem state_vacant (id : TaskId) : (vacant id : Task C).state = .free := rfl

@[simp] theorem demote_demote (task : Task C) : task.demote.demote = task.demote := by
  unfold demote
  split <;> simp_all

/-- A task without the running mark has nothing to give up. -/
theorem demote_of_ne {task : Task C} (unmarked : task.state ≠ .running) : task.demote = task :=
  if_neg unmarked

end Task

namespace Scheduler

variable {C : Type} {sched : Scheduler C} {id other next : TaskId}

/-! ### Slots -/

/-- Slots beyond the table are vacant. -/
theorem slot_of_le (beyond : maxTasks ≤ id) : sched.slot id = Task.vacant id := by
  unfold slot
  rw [Vector.getElem?_eq_none beyond]
  rfl

/-- Only slots of the table hold tasks. -/
theorem lt_of_state_ne_free (declared : (sched.slot id).state ≠ .free) : id < maxTasks := by
  apply Nat.lt_of_not_le
  intro beyond
  rw [slot_of_le beyond] at declared
  exact declared rfl

theorem lt_of_isRunnable (runnable : (sched.slot id).state.isRunnable) : id < maxTasks := by
  refine lt_of_state_ne_free (?_ : (sched.slot id).state ≠ .free)
  intro free
  rw [free] at runnable
  cases runnable

theorem lt_of_isActive (active : (sched.slot id).state.isActive) : id < maxTasks := by
  refine lt_of_state_ne_free (?_ : (sched.slot id).state ≠ .free)
  intro free
  rw [free] at active
  cases active

theorem slot_modify_self (inTable : id < maxTasks) (f : Task C → Task C) :
    (sched.modify id f).slot id = f (sched.slot id) := by
  rw [slot_modify, if_pos ⟨rfl, inTable⟩]

theorem slot_modify_of_ne (differ : id ≠ other) (f : Task C → Task C) :
    (sched.modify id f).slot other = sched.slot other := by
  rw [slot_modify, if_neg fun both => differ both.1]

/-- Two schedulers with the same cursors and the same slots are equal. -/
theorem ext_slot {left right : Scheduler C} (current : left.current = right.current)
    (selected : left.selected = right.selected) (slots : ∀ id, left.slot id = right.slot id) :
    left = right := by
  obtain ⟨leftTasks, leftCurrent, leftSelected⟩ := left
  obtain ⟨rightTasks, rightCurrent, rightSelected⟩ := right
  cases current
  cases selected
  have tasks : leftTasks = rightTasks := by
    apply Vector.ext
    intro index inTable
    have same := slots index
    simpa only [slot, Vector.getElem?_eq_getElem inTable, Option.getD_some] using same
  rw [tasks]

/-- Changing one slot twice is changing it once. -/
theorem modify_modify (sched : Scheduler C) (id : TaskId) (f g : Task C → Task C) :
    (sched.modify id f).modify id g = sched.modify id fun task => g (f task) := by
  refine ext_slot (by rfl) (by rfl) ?_
  intro other
  simp only [slot_modify]
  split <;> rfl

/-! ### The choice -/

theorem mostUrgent_mem {tasks : List (Task C)} {best : Task C}
    (chosen : mostUrgent tasks = some best) : best ∈ tasks := by
  induction tasks generalizing best with
  | nil => cases chosen
  | cons task rest ih =>
      simp only [mostUrgent] at chosen
      split at chosen
      · rename_i first found
        split at chosen
        · cases chosen
          exact List.mem_cons_of_mem _ (ih found)
        · cases chosen
          exact List.mem_cons_self
      · cases chosen
        exact List.mem_cons_self

theorem mostUrgent_le {tasks : List (Task C)} {best : Task C}
    (chosen : mostUrgent tasks = some best) : ∀ task ∈ tasks, best.priority ≤ task.priority := by
  induction tasks generalizing best with
  | nil => cases chosen
  | cons task rest ih =>
      intro candidate member
      simp only [mostUrgent] at chosen
      split at chosen
      · rename_i first found
        have below := ih found
        split at chosen
        · rename_i nearer
          cases chosen
          rcases List.mem_cons.mp member with rfl | later
          · exact Nat.le_of_lt nearer
          · exact below candidate later
        · rename_i farther
          cases chosen
          rcases List.mem_cons.mp member with rfl | later
          · exact Nat.le_refl _
          · exact Nat.le_trans (Nat.le_of_not_lt farther) (below candidate later)
      · rename_i none
        cases rest with
        | nil =>
            cases chosen
            obtain rfl := List.mem_singleton.mp member
            exact Nat.le_refl _
        | cons head tail =>
            simp only [mostUrgent] at none
            split at none
            · split at none <;> cases none
            · cases none

theorem exists_mostUrgent {tasks : List (Task C)} (nonempty : tasks ≠ []) :
    ∃ best, mostUrgent tasks = some best := by
  cases tasks with
  | nil => exact absurd rfl nonempty
  | cons task rest =>
      simp only [mostUrgent]
      split
      · split <;> exact ⟨_, rfl⟩
      · exact ⟨_, rfl⟩

/-- Going round the table from any slot, every slot is reached. -/
private theorem exists_scan_step (start goal : Nat) (inTable : goal < 8) :
    ∃ step, step < 8 ∧ (start + step + 1) % 8 = goal :=
  ⟨(goal + 7 - start % 8) % 8, by omega, by omega⟩

/-- A decision looks at every slot of the table. -/
theorem mem_scanOrder : id ∈ sched.scanOrder ↔ id < maxTasks := by
  simp only [scanOrder, List.mem_map, List.mem_range, maxTasks]
  constructor
  · rintro ⟨step, -, rfl⟩
    exact Nat.mod_lt _ (by decide)
  · exact exists_scan_step sched.current id

theorem mem_candidates {task : Task C} :
    task ∈ (sched.scanOrder.map sched.slot).filter Task.isRunnable ↔
      ∃ id, sched.slot id = task ∧ (sched.slot id).state.isRunnable := by
  simp only [List.mem_filter, List.mem_map, mem_scanOrder]
  constructor
  · rintro ⟨⟨id, -, rfl⟩, runnable⟩
    exact ⟨id, rfl, runnable⟩
  · rintro ⟨id, rfl, runnable⟩
    exact ⟨⟨id, lt_of_isRunnable runnable, rfl⟩, runnable⟩

/-- The chosen task is runnable, and no runnable task is more urgent. -/
theorem decide_spec (ids : ∀ id, (sched.slot id).id = id) (chosen : sched.decide = some next) :
    (sched.slot next).state.isRunnable ∧
      ∀ id, (sched.slot id).state.isRunnable →
        (sched.slot next).priority ≤ (sched.slot id).priority := by
  obtain ⟨best, found, rfl⟩ := Option.map_eq_some_iff.mp chosen
  obtain ⟨id, rfl, runnable⟩ := mem_candidates.mp (mostUrgent_mem found)
  rw [ids]
  refine ⟨runnable, ?_⟩
  intro other otherRunnable
  exact mostUrgent_le found _ (mem_candidates.mpr ⟨other, rfl, otherRunnable⟩)

/-- As long as a task is runnable there is one to choose. -/
theorem exists_decide (runnable : (sched.slot id).state.isRunnable) :
    ∃ next, sched.decide = some next := by
  have candidate := mem_candidates.mpr ⟨id, rfl, runnable⟩
  obtain ⟨best, found⟩ := exists_mostUrgent (List.ne_nil_of_mem candidate)
  exact ⟨best.id, by rw [decide, found, Option.map_some]⟩

/-! ### The record of the choice -/

theorem slot_demoteUnless :
    (sched.demoteUnless next id).slot other =
      if id = other ∧ other ≠ next then (sched.slot other).demote else sched.slot other := by
  unfold demoteUnless
  by_cases chosen : id = next
  · rw [if_pos chosen, if_neg]
    rintro ⟨rfl, differ⟩
    exact differ chosen
  · rw [if_neg chosen, slot_modify]
    by_cases same : id = other
    · subst same
      by_cases inTable : id < maxTasks
      · simp [inTable, chosen]
      · rw [slot_of_le (Nat.le_of_not_lt inTable)]
        simp [inTable, Task.demote]
    · simp [same]

/-- What a decision does to each slot. -/
theorem slot_settle (inTable : next < maxTasks) :
    (sched.settle next).slot id =
      if id = next then { sched.slot id with state := .running }
      else if id = sched.current ∨ id = sched.selected then (sched.slot id).demote
      else sched.slot id := by
  have marked : (sched.settle next).slot id =
      (((sched.demoteUnless next sched.current).demoteUnless next sched.selected).modify next
        fun task => { task with state := .running }).slot id := rfl
  rw [marked, slot_modify, slot_demoteUnless, slot_demoteUnless]
  by_cases chosen : id = next
  · subst chosen
    simp [inTable]
  · have differ : next ≠ id := fun same => chosen same.symm
    by_cases current : id = sched.current
    · by_cases selected : id = sched.selected
      · simp [← current, ← selected, chosen, differ]
      · have other : sched.selected ≠ id := fun same => selected same.symm
        simp [← current, chosen, differ, other]
    · have off : sched.current ≠ id := fun same => current same.symm
      by_cases selected : id = sched.selected
      · simp [← selected, chosen, differ, off, current]
      · have other : sched.selected ≠ id := fun same => selected same.symm
        simp [chosen, differ, off, other, current, selected]

@[simp] theorem current_settle : (sched.settle next).current = sched.current := by
  simp only [settle, demoteUnless]
  split <;> split <;> rfl

@[simp] theorem selected_settle : (sched.settle next).selected = next := rfl

/-- Running marks are found at the two cursors only, which is where a decision looks for them. -/
def Marked (sched : Scheduler C) : Prop :=
  ∀ id, (sched.slot id).state = .running → id = sched.current ∨ id = sched.selected

/-- A decision changes no more of a task than its state. -/
theorem settle_eq_with_state (inTable : next < maxTasks) (id : TaskId) :
    (sched.settle next).slot id =
      { sched.slot id with state := ((sched.settle next).slot id).state } := by
  rw [slot_settle inTable]
  split
  · rfl
  · split
    · unfold Task.demote
      split <;> rfl
    · rfl

/-- After a decision the chosen task is the only one that is marked running. -/
theorem state_settle (marked : sched.Marked) (inTable : next < maxTasks) (id : TaskId) :
    ((sched.settle next).slot id).state =
      if id = next then .running
      else if (sched.slot id).state = .running then .ready
      else (sched.slot id).state := by
  rw [slot_settle inTable]
  by_cases chosen : id = next
  · simp [chosen]
  · rw [if_neg chosen, if_neg chosen]
    by_cases running : (sched.slot id).state = .running
    · rw [if_pos (marked id running), if_pos running, Task.demote, if_pos running]
    · rw [Task.demote_of_ne running, ite_self, if_neg running]

/-- No switch is needed when the chosen task is on the CPU with its registers. -/
theorem needsSwitch_eq_false_iff :
    sched.needsSwitch = false ↔
      sched.selected = sched.current ∧ (sched.slot sched.selected).context = .onCpu := by
  unfold needsSwitch
  cases (sched.slot sched.selected).context <;> simp

/-- The scheduler after a decision. -/
def decided (sched : Scheduler C) : Scheduler C :=
  match sched.decide with
  | none => sched
  | some next => sched.settle next

theorem decided_eq (chosen : sched.decide = some next) : sched.decided = sched.settle next := by
  rw [decided, chosen]

@[simp] theorem current_decided : sched.decided.current = sched.current := by
  unfold decided
  split
  · rfl
  · exact current_settle

/-- What a decision shows to an observer. -/
def decisionTrace (sched : Scheduler C) : Trace :=
  match sched.decide with
  | none => []
  | some next => [.logged (.decided sched.current next (sched.decided.slot next).priority)]

@[simp] theorem activations_decisionTrace (sched : Scheduler C) :
    activations sched.decisionTrace = [] := by
  unfold decisionTrace
  split <;> rfl

/-- A decision is never refused, and leaves the decided scheduler behind. -/
theorem run_reschedule (sched : Scheduler C) :
    reschedule.run sched =
      ⟨.ok (sched.decide.isSome && sched.decided.needsSwitch), sched.decided,
        sched.decisionTrace⟩ := by
  unfold reschedule decisionTrace decided
  rw [Action.run_bind, Action.run_get]
  cases chosen : sched.decide with
  | none => simp [chosen]
  | some next => simp [chosen, Action.run_bind, Except.map]

end Scheduler

namespace Core

variable {C : Type}

/-- Tasks and resources after a decision. -/
def decided (core : Core C) : Core C := { core with sched := core.sched.decided }

@[simp] theorem resources_decided (core : Core C) : core.decided.resources = core.resources := rfl

end Core

end Rtos
