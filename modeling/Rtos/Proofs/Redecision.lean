/-
Module: Rtos.Proofs.Redecision
Purpose: What a decision depends on.  It looks at who is runnable and how urgent, not at the marks
  that earlier decisions have left, so that a second decision is the first one over again.
Main definitions: Task.SameChoice, Scheduler.Poised, Scheduler.SoleMark
Main statements: `Scheduler.decide_congr`, `Scheduler.decided_decided`, `Scheduler.eq_of_soleMark`
-/
import Rtos.Proofs.Consistency

namespace Rtos

namespace Task

variable {C : Type} {task : Task C}

/-- A decision cannot tell the tasks apart. -/
structure SameChoice (left right : Task C) : Prop where
  id : left.id = right.id
  priority : left.priority = right.priority
  runnable : left.isRunnable = right.isRunnable

theorem SameChoice.trans {left middle right : Task C} (first : left.SameChoice middle)
    (second : middle.SameChoice right) : left.SameChoice right :=
  ⟨first.id.trans second.id, first.priority.trans second.priority,
    first.runnable.trans second.runnable⟩

/-- What the most urgent task is known by. -/
def rank (task : Task C) : TaskId × Priority := (task.id, task.priority)

@[simp] theorem id_demote (task : Task C) : task.demote.id = task.id := by
  unfold demote
  split <;> rfl

@[simp] theorem priority_demote (task : Task C) : task.demote.priority = task.priority := by
  unfold demote
  split <;> rfl

@[simp] theorem context_demote (task : Task C) : task.demote.context = task.context := by
  unfold demote
  split <;> rfl

@[simp] theorem isRunnable_demote (task : Task C) : task.demote.isRunnable = task.isRunnable := by
  unfold demote isRunnable
  split
  · rename_i running
    rw [running]
    rfl
  · rfl

/-- Marks do not count. -/
theorem sameChoice_of_demote {left right : Task C} (same : left.demote = right.demote) :
    left.SameChoice right where
  id := by rw [← id_demote left, same, id_demote]
  priority := by rw [← priority_demote left, same, priority_demote]
  runnable := by rw [← isRunnable_demote left, same, isRunnable_demote]

/-- Two running tasks that are equal but for their marks are equal. -/
theorem eq_of_demote {left right : Task C} (same : left.demote = right.demote)
    (marks : left.state = .running ↔ right.state = .running) : left = right := by
  by_cases running : left.state = .running
  · have other := marks.mp running
    rw [demote, demote, if_pos running, if_pos other] at same
    cases left
    cases right
    cases running
    cases other
    cases same
    rfl
  · rwa [demote_of_ne running, demote_of_ne (mt marks.mpr running)] at same

end Task

namespace Scheduler

variable {C : Type} {sched left right : Scheduler C} {id next : TaskId}

/-! ### What a decision looks at -/

theorem mostUrgent_congr {early late : List (Task C)}
    (same : early.map Task.rank = late.map Task.rank) :
    (mostUrgent early).map Task.rank = (mostUrgent late).map Task.rank := by
  induction early generalizing late with
  | nil =>
      rw [List.map_eq_nil_iff.mp same.symm]
  | cons task rest ih =>
      cases late with
      | nil => cases same
      | cons other others =>
          obtain ⟨first, later⟩ := List.cons.inj same
          have chosen := ih later
          have urgency : task.priority = other.priority := congrArg Prod.snd first
          unfold mostUrgent
          cases found : mostUrgent rest with
          | none =>
              rw [found] at chosen
              rw [Option.map_eq_none_iff.mp chosen.symm]
              exact congrArg some first
          | some best =>
              rw [found] at chosen
              obtain ⟨better, foundOther, rank⟩ := Option.map_eq_some_iff.mp chosen.symm
              have level : better.priority = best.priority := congrArg Prod.snd rank
              rw [foundOther]
              dsimp only
              rw [level, ← urgency]
              split
              · exact congrArg some rank.symm
              · exact congrArg some first

/-- The decision is the same wherever the same tasks are runnable with the same urgency, seen from
the same task on the CPU. -/
theorem decide_congr (current : left.current = right.current)
    (same : ∀ id, (left.slot id).SameChoice (right.slot id)) : left.decide = right.decide := by
  have candidates : ∀ ids : List TaskId,
      ((ids.map left.slot).filter Task.isRunnable).map Task.rank =
        ((ids.map right.slot).filter Task.isRunnable).map Task.rank := by
    intro ids
    induction ids with
    | nil => rfl
    | cons id rest ih =>
        obtain ⟨ids, priorities, runnable⟩ := same id
        have rank : (left.slot id).rank = (right.slot id).rank := by
          rw [Task.rank, Task.rank, ids, priorities]
        simp only [List.map_cons, List.filter_cons, runnable]
        split
        · rw [List.map_cons, List.map_cons, rank, ih]
        · exact ih
  have order : left.scanOrder = right.scanOrder := by
    rw [scanOrder, scanOrder, current]
  have chosen := congrArg (Option.map Prod.fst) (mostUrgent_congr (candidates left.scanOrder))
  rw [Option.map_map, Option.map_map] at chosen
  rw [decide, decide, ← order]
  exact chosen

/-! ### Decisions after decisions -/

/-- A decision moves marks only. -/
theorem demote_decided (ids : ∀ id, (sched.slot id).id = id) (id : TaskId) :
    (sched.decided.slot id).demote = (sched.slot id).demote := by
  cases chosen : sched.decide with
  | none => rw [Scheduler.decided, chosen]
  | some next =>
      have runnable := (decide_spec ids chosen).1
      rw [decided_eq chosen, slot_settle (lt_of_isRunnable runnable)]
      split
      · rename_i here
        subst here
        -- the chosen task is ready or has the mark already
        have state : (sched.slot id).state = .ready ∨ (sched.slot id).state = .running := by
          cases state : (sched.slot id).state <;> simp_all [TaskState.isRunnable]
        rcases state with ready | running
        · rw [Task.demote, if_pos rfl, Task.demote_of_ne (by rw [ready]; decide), ← ready]
        · rw [← running]
      · split
        · exact Task.demote_demote _
        · rfl

theorem context_decided (ids : ∀ id, (sched.slot id).id = id) (id : TaskId) :
    (sched.decided.slot id).context = (sched.slot id).context := by
  rw [← Task.context_demote, demote_decided ids, Task.context_demote]

/-- A decision does not change what the next one looks at. -/
theorem sameChoice_decided (ids : ∀ id, (sched.slot id).id = id) (id : TaskId) :
    (sched.decided.slot id).SameChoice (sched.slot id) :=
  Task.sameChoice_of_demote (demote_decided ids id)

theorem decide_decided (ids : ∀ id, (sched.slot id).id = id) :
    sched.decided.decide = sched.decide :=
  decide_congr current_decided (sameChoice_decided ids)

/-- What has been recorded need not be recorded again. -/
theorem settle_settle (inTable : next < maxTasks) :
    (sched.settle next).settle next = sched.settle next := by
  refine ext_slot (by simp) (by simp) fun id => ?_
  rw [slot_settle inTable, slot_settle inTable, current_settle, selected_settle]
  by_cases chosen : id = next
  · rw [if_pos chosen, if_pos chosen]
  · rw [if_neg chosen, if_neg chosen]
    -- the mark of the former choice is gone, and so is that of the task on the CPU
    by_cases current : id = sched.current
    · rw [if_pos (.inl current), if_pos (.inl current), Task.demote_demote]
    · rw [if_neg (not_or.mpr ⟨current, chosen⟩)]

/-- Two decisions in a row are one. -/
theorem decided_decided (ids : ∀ id, (sched.slot id).id = id) :
    sched.decided.decided = sched.decided := by
  cases chosen : sched.decide with
  | none => rw [decided, decide_decided ids, chosen]
  | some next =>
      have inTable := lt_of_isRunnable (decide_spec ids chosen).1
      have again : sched.decided.decide = some next := (decide_decided ids).trans chosen
      rw [decided_eq again, decided_eq chosen, settle_settle inTable]

/-- All that it takes for a decision, whatever has happened to the tasks since the last one. -/
structure Poised (sched : Scheduler C) : Prop where
  ids : ∀ id, (sched.slot id).id = id
  idle : (sched.slot idleTask).isRunnable
  marked : sched.Marked

/-- The chosen task, and no other, is marked running. -/
def SoleMark (sched : Scheduler C) : Prop :=
  ∀ id, (sched.slot id).state = .running ↔ id = sched.selected

/-- Two schedulers are equal if their cursors are, and their tasks but for the marks, and the marks
are where they belong. -/
theorem eq_of_soleMark (current : left.current = right.current)
    (selected : left.selected = right.selected)
    (slots : ∀ id, (left.slot id).demote = (right.slot id).demote) (one : left.SoleMark)
    (other : right.SoleMark) : left = right := by
  refine ext_slot current selected fun id => Task.eq_of_demote (slots id) ?_
  rw [one, other, selected]

namespace Poised

/-- There is always a task to choose. -/
theorem exists_decided (poised : sched.Poised) :
    ∃ next, sched.decide = some next ∧ sched.decided = sched.settle next ∧
      (sched.slot next).isRunnable := by
  obtain ⟨next, chosen⟩ := exists_decide poised.idle
  exact ⟨next, chosen, decided_eq chosen, (decide_spec poised.ids chosen).1⟩

theorem selected_decided (poised : sched.Poised) : some sched.decided.selected = sched.decide := by
  obtain ⟨next, chosen, decided, -⟩ := poised.exists_decided
  rw [decided, selected_settle, chosen]

theorem soleMark_decided (poised : sched.Poised) : sched.decided.SoleMark := by
  obtain ⟨next, -, decided, runnable⟩ := poised.exists_decided
  intro id
  rw [decided]
  exact running_settle_iff poised.marked (lt_of_isRunnable runnable)

/-- A decision moves marks only. -/
theorem demote_decided (poised : sched.Poised) (id : TaskId) :
    (sched.decided.slot id).demote = (sched.slot id).demote :=
  Scheduler.demote_decided poised.ids id

theorem context_decided (poised : sched.Poised) (id : TaskId) :
    (sched.decided.slot id).context = (sched.slot id).context :=
  Scheduler.context_decided poised.ids id

/-- After a decision the next one can be taken. -/
theorem decided (poised : sched.Poised) : sched.decided.Poised where
  ids := by
    intro id
    rw [← Task.id_demote, poised.demote_decided, Task.id_demote, poised.ids]
  idle := by
    rw [← Task.isRunnable_demote, poised.demote_decided, Task.isRunnable_demote]
    exact poised.idle
  marked := fun id running => .inr ((poised.soleMark_decided id).mp running)

end Poised

end Scheduler

end Rtos
