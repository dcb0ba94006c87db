/-
Module: Rtos.Scheduler
Purpose: Fixed-priority preemptive scheduling with turns among equals.  Choosing the next task and
  switching to it are two phases: `reschedule` decides and only moves marks, and `switchContext`
  commits the latest decision, so that a decision superseded before the switch leaves no register
  touched.
Main definitions: Scheduler, Scheduler.decide, Scheduler.reschedule, Scheduler.switchContext
Main statements: `Scheduler.slot_modify`, an update is seen at its own slot only.
-/
import Rtos.Action

namespace Rtos

/-- The task table with the two cursors of the scheduler. -/
structure Scheduler (C : Type) where
  tasks : Vector (Task C) maxTasks := Vector.ofFn fun slot => Task.vacant slot.val
  /-- The task whose registers are on the CPU; calls are made on its behalf. -/
  current : TaskId := idleTask
  /-- The task that the latest decision chose; it equals `current` once committed. -/
  selected : TaskId := idleTask

namespace Scheduler

variable {C : Type}

instance : Inhabited (Scheduler C) := ⟨{}⟩

/-- The contents of a slot.  A slot outside the table counts as vacant. -/
def slot (sched : Scheduler C) (id : TaskId) : Task C :=
  sched.tasks[id]?.getD (Task.vacant id)

/-- The slot with this id, whether or not a task has it. -/
def findSlot (sched : Scheduler C) (id : TaskId) : Except Refusal (Task C) :=
  match sched.tasks[id]? with
  | some task => .ok task
  | none => .error .unknownId

/-- The declared task with this id. -/
def findTask (sched : Scheduler C) (id : TaskId) : Except Refusal (Task C) :=
  if (sched.slot id).state = .free then .error .unknownId else .ok (sched.slot id)

/-- Change one slot.  A slot outside the table stays as it is. -/
def modify (sched : Scheduler C) (id : TaskId) (f : Task C → Task C) : Scheduler C :=
  { sched with tasks := sched.tasks.setIfInBounds id (f (sched.slot id)) }

theorem slot_modify (sched : Scheduler C) (id other : TaskId) (f : Task C → Task C) :
    (sched.modify id f).slot other =
      if id = other ∧ id < maxTasks then f (sched.slot other) else sched.slot other := by
  unfold modify slot
  by_cases same : id = other
  · subst same
    by_cases bound : id < maxTasks
    · simp [bound]
    · simp [bound]
  · simp [same]

@[simp] theorem current_modify (sched : Scheduler C) (id : TaskId) (f : Task C → Task C) :
    (sched.modify id f).current = sched.current := rfl

@[simp] theorem selected_modify (sched : Scheduler C) (id : TaskId) (f : Task C → Task C) :
    (sched.modify id f).selected = sched.selected := rfl

/-- The task on the CPU. -/
def currentTask (sched : Scheduler C) : Task C := sched.slot sched.current

/-- The first slot that holds no task. -/
def freeSlot? (sched : Scheduler C) : Option TaskId :=
  (List.range maxTasks).find? fun id => (sched.slot id).state = .free

/-- The slots in the order of a decision: round the table, from the one after the current task to
the current task itself. -/
def scanOrder (sched : Scheduler C) : List TaskId :=
  (List.range maxTasks).map fun step => (sched.current + step + 1) % maxTasks

/-- The first of the most urgent tasks in a list. -/
def mostUrgent : List (Task C) → Option (Task C)
  | [] => none
  | task :: rest =>
      match mostUrgent rest with
      | some best => if best.priority < task.priority then some best else some task
      | none => some task

/-- The task that should run next: of the runnable tasks the most urgent one, and among equals the
first after the current task.  There is none only if no task is runnable. -/
def decide (sched : Scheduler C) : Option TaskId :=
  (mostUrgent ((sched.scanOrder.map sched.slot).filter Task.isRunnable)).map Task.id

/-- Take the running mark from a slot, unless it is the chosen one. -/
def demoteUnless (next : TaskId) (sched : Scheduler C) (id : TaskId) : Scheduler C :=
  if id = next then sched else sched.modify id Task.demote

/-- Record a decision: the chosen task is marked running, and the current and the previously
chosen task lose that mark unless they are the chosen one. -/
def settle (sched : Scheduler C) (next : TaskId) : Scheduler C :=
  let cleared := ((sched.demoteUnless next sched.current).demoteUnless next sched.selected)
  { cleared.modify next fun task => { task with state := .running } with selected := next }

/-- The chosen task still has to be switched to: another task is on the CPU, or the chosen one is
but its registers were dropped. -/
def needsSwitch (sched : Scheduler C) : Bool :=
  sched.selected ≠ sched.current ||
    match (sched.slot sched.selected).context with
    | .onCpu => false
    | _ => true

/-- Decide which task runs next and record the decision.  The answer tells whether a context switch
is needed. -/
def reschedule : Action (Scheduler C) Bool := do
  let before ← Action.get
  match before.decide with
  | none => pure false
  | some next =>
      let after := before.settle next
      Action.modify fun _ => after
      Action.log (.decided before.current next (after.slot next).priority)
      pure after.needsSwitch

/-- Keep the registers of the task that leaves the CPU, if it has any that are live.  A task that
ended, or was primed afresh, since it was dispatched has nothing worth keeping. -/
def saveOutgoing (outgoing : C) (sched : Scheduler C) : Scheduler C :=
  sched.modify sched.current fun task =>
    match task.context with
    | .onCpu => { task with context := .saved outgoing }
    | _ => task

/-- Commit the latest decision.  The answer is the handle to restore; when the chosen task has
none, the task on the CPU goes on. -/
def switchContext (outgoing : C) : Action (Scheduler C) C := do
  Action.modify (saveOutgoing outgoing)
  let sched ← Action.get
  match (sched.slot sched.selected).context with
  | .primed handle | .saved handle =>
      Action.modify fun sched =>
        { sched.modify sched.selected fun task => { task with context := .onCpu } with
          current := sched.selected }
      pure handle
  | .onCpu | .dormant =>
      Action.log (.nothingToRestore sched.selected)
      pure outgoing

end Scheduler

end Rtos
