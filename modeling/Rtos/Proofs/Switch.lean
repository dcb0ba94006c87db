/-
Module: Rtos.Proofs.Switch
Purpose: The commit of a decision.  A switch always finds a handle to restore, and what it leaves
  behind is settled: the chosen task is on the CPU with its registers.
Main definitions: Scheduler.restored, Scheduler.switched, Core.switched, Core.Settled
Main statements: `Scheduler.run_switchContext`, `Core.Sound.switched`
-/
import Rtos.Proofs.Consistency

namespace Rtos

namespace Task

variable {C : Type}

/-- Live registers are kept under the handle; there are no others to keep. -/
def save (outgoing : C) (task : Task C) : Task C :=
  match task.context with
  | .onCpu => { task with context := .saved outgoing }
  | _ => task

theorem save_of_onCpu {task : Task C} (live : task.context = .onCpu) (outgoing : C) :
    task.save outgoing = { task with context := .saved outgoing } := by
  rw [save, live]

theorem save_of_ne {task : Task C} (other : task.context ≠ .onCpu) (outgoing : C) :
    task.save outgoing = task := by
  unfold save
  split
  · contradiction
  · rfl

theorem save_eq_with_context (outgoing : C) (task : Task C) :
    task.save outgoing = { task with context := (task.save outgoing).context } := by
  unfold save
  split <;> rfl

theorem context_save_ne_onCpu (outgoing : C) (task : Task C) :
    (task.save outgoing).context ≠ .onCpu := by
  unfold save
  split
  · nofun
  · assumption

theorem context_save_ne_dormant {task : Task C} (active : task.context ≠ .dormant)
    (outgoing : C) : (task.save outgoing).context ≠ .dormant := by
  unfold save
  split
  · nofun
  · exact active

theorem context_save_congr {left right : Task C} (same : left.context = right.context)
    (outgoing : C) : (left.save outgoing).context = (right.save outgoing).context := by
  unfold save
  rw [same]
  split <;> simp_all

end Task

namespace Scheduler

variable {C : Type} {sched : Scheduler C} {outgoing : C} {id : TaskId}

/-- The handle that a switch restores.  The registers of a task that is chosen while it is on the
CPU are those that were handed in. -/
def restored (sched : Scheduler C) (outgoing : C) : C :=
  match (sched.slot sched.selected).context with
  | .primed handle | .saved handle => handle
  | .onCpu | .dormant => outgoing

/-- The scheduler after a switch. -/
def switched (sched : Scheduler C) (outgoing : C) : Scheduler C :=
  { (sched.saveOutgoing outgoing).modify sched.selected fun task =>
      { task with context := .onCpu } with
    current := sched.selected }

theorem slot_saveOutgoing :
    (saveOutgoing outgoing sched).slot id =
      if id = sched.current then (sched.slot id).save outgoing else sched.slot id := by
  have modified : (saveOutgoing outgoing sched).slot id =
      (sched.modify sched.current (Task.save outgoing)).slot id := rfl
  rw [modified, slot_modify]
  by_cases here : sched.current = id
  · subst here
    by_cases inTable : sched.current < maxTasks
    · rw [if_pos ⟨rfl, inTable⟩, if_pos rfl]
    · rw [if_neg fun both => inTable both.2, if_pos rfl, slot_of_le (Nat.le_of_not_lt inTable)]
      rfl
  · rw [if_neg fun both => here both.1, if_neg fun same => here same.symm]

/-- What a switch does to each task. -/
theorem slot_switched (inTable : sched.selected < maxTasks) :
    (sched.switched outgoing).slot id =
      if id = sched.selected then { sched.slot id with context := .onCpu }
      else if id = sched.current then (sched.slot id).save outgoing
      else sched.slot id := by
  have moved : (sched.switched outgoing).slot id =
      ((saveOutgoing outgoing sched).modify sched.selected fun task =>
        { task with context := .onCpu }).slot id := rfl
  rw [moved, slot_modify, slot_saveOutgoing]
  by_cases chosen : sched.selected = id
  · subst chosen
    rw [if_pos ⟨rfl, inTable⟩, if_pos rfl]
    split
    · rw [Task.save_eq_with_context]
    · rfl
  · have other : id ≠ sched.selected := fun same => chosen same.symm
    rw [if_neg fun both => chosen both.1, if_neg other]

@[simp] theorem current_switched : (sched.switched outgoing).current = sched.selected := rfl

/-- A switch to a task that has registers somewhere restores them, if live registers belong to the
task on the CPU. -/
theorem run_switchContext_of_onCpu (active : (sched.slot sched.selected).context ≠ .dormant)
    (live : (sched.slot sched.selected).context = .onCpu → sched.selected = sched.current) :
    (switchContext outgoing).run sched =
      ⟨.ok (sched.restored outgoing), sched.switched outgoing, []⟩ := by
  unfold switchContext restored
  rw [Action.run_modify_bind, Action.run_get_bind]
  have selected : (saveOutgoing outgoing sched).selected = sched.selected := rfl
  rw [selected, slot_saveOutgoing]
  cases context : (sched.slot sched.selected).context with
  | dormant => exact absurd context active
  | onCpu =>
      rw [if_pos (live context), Task.save_of_onCpu context]
      rfl
  | primed handle =>
      rw [Task.save_of_ne (by rw [context]; nofun), ite_self, context]
      rfl
  | saved handle =>
      rw [Task.save_of_ne (by rw [context]; nofun), ite_self, context]
      rfl

theorem run_switchContext (steady : sched.Steady)
    (active : (sched.slot sched.selected).context ≠ .dormant) :
    (switchContext outgoing).run sched =
      ⟨.ok (sched.restored outgoing), sched.switched outgoing, []⟩ :=
  run_switchContext_of_onCpu active (steady.onCpu _)

end Scheduler

namespace Core

variable {C : Type} {core : Core C} {outgoing : C}

/-- Tasks and resources after a switch. -/
def switched (core : Core C) (outgoing : C) : Core C :=
  { core with sched := core.sched.switched outgoing }

/-- The chosen task is on the CPU, and its registers are live there. -/
def Settled (core : Core C) : Prop :=
  core.sched.selected = core.sched.current ∧
    (core.sched.slot core.sched.current).context = .onCpu

/-- The task that a decision chooses has registers somewhere. -/
theorem Sound.selected_active (sound : core.Sound) :
    (core.sched.slot core.sched.selected).context ≠ .dormant := by
  intro dormant
  have inactive := (sound.fits core.sched.selected).dormant_iff.mp dormant
  rw [TaskState.isActive_of_isRunnable sound.selected_runnable] at inactive
  cases inactive

theorem settled_switched (inTable : core.sched.selected < maxTasks) (outgoing : C) :
    (core.switched outgoing).Settled := by
  refine ⟨rfl, ?_⟩
  change ((core.sched.switched outgoing).slot core.sched.selected).context = .onCpu
  rw [Scheduler.slot_switched inTable, if_pos rfl]

/-- A switch changes no more of a task than where its registers are. -/
theorem switched_eq_with_context (inTable : core.sched.selected < maxTasks) (outgoing : C)
    (id : TaskId) :
    (core.switched outgoing).sched.slot id =
      { core.sched.slot id with context := ((core.switched outgoing).sched.slot id).context } := by
  change (core.sched.switched outgoing).slot id =
    { core.sched.slot id with context := ((core.sched.switched outgoing).slot id).context }
  rw [Scheduler.slot_switched inTable]
  split
  · rfl
  · split
    · exact Task.save_eq_with_context _ _
    · rfl

/-- A sound core stays sound when the decision is committed. -/
theorem Sound.switched (sound : core.Sound) (outgoing : C) : (core.switched outgoing).Sound := by
  have inTable := sound.selected_lt
  have slot : ∀ id, (core.switched outgoing).sched.slot id =
      if id = core.sched.selected then { core.sched.slot id with context := .onCpu }
      else if id = core.sched.current then (core.sched.slot id).save outgoing
      else core.sched.slot id := fun _ => Scheduler.slot_switched inTable
  have same := switched_eq_with_context inTable outgoing
  have state : ∀ id, ((core.switched outgoing).sched.slot id).state =
      (core.sched.slot id).state := fun id => by rw [same]
  have priority : ∀ id, ((core.switched outgoing).sched.slot id).priority =
      (core.sched.slot id).priority := fun id => by rw [same]
  refine { fits := ?fits, queues := sound.queues.congr rfl, steady := ?steady,
           running := ?running, mostUrgent := ?mostUrgent }
  case fits =>
    intro id
    change ((core.switched outgoing).sched.slot id).Fits id (core.HoldsAt id) (core.QueuesAt id)
    rw [slot]
    split
    · rename_i chosen
      rw [chosen]
      exact (sound.fits _).withContext sound.selected_active nofun
    · split
      · by_cases live : (core.sched.slot id).context = .onCpu
        · rw [Task.save_of_onCpu live]
          exact (sound.fits id).withContext (by rw [live]; nofun) nofun
        · rw [Task.save_of_ne live]
          exact sound.fits id
      · exact sound.fits id
  case steady =>
    refine ⟨?_, ?_, ?_, ?_⟩
    · rw [state]
      exact sound.steady.idle
    · intro id running
      exact .inr ((sound.running id).mp ((state id).symm.trans running))
    · intro id onCpu
      rw [slot] at onCpu
      by_cases chosen : id = core.sched.selected
      · exact chosen
      · rw [if_neg chosen] at onCpu
        split at onCpu
        · exact absurd onCpu (Task.context_save_ne_onCpu _ _)
        · rename_i staying
          exact absurd (sound.steady.onCpu id onCpu) staying
    · rintro id handle saved rfl
      have onCpu := (settled_switched inTable outgoing).2
      rw [saved] at onCpu
      cases onCpu
  case running =>
    intro id
    rw [state]
    exact sound.running id
  case mostUrgent =>
    intro id runnable
    rw [state] at runnable
    rw [priority, priority]
    exact sound.mostUrgent id runnable

end Core

end Rtos
