/-
Module: Rtos.Proofs.Amendment
Purpose: What interrupts change before any decision is taken.  Each of them concerns one task; it
  makes that task ready or lets it go on, and changes of different tasks can be made in any order.
Main definitions: Task.Amended, InterruptCall.edit, InterruptCall.readies, Scheduler.amend,
  Scheduler.amendAll, Scheduler.LiveRuns
Main statements: `Scheduler.amended_amend`, `Scheduler.amendAll_perm`, `Scheduler.Poised.amendAll`
-/
import Mathlib.Data.List.Induction
import Mathlib.Data.List.Nodup
import Rtos.Proofs.Move
import Rtos.Proofs.Redecision

namespace Rtos

/-! ### What an interrupt makes of its target -/

namespace Task

variable {C : Type} {before after : Task C}

/-- The task after events have been delivered to it: if it is active it has them, and if it waits
for one of them it is woken. -/
def notified (mask : EventMask) (task : Task C) : Task C :=
  if task.state.isActive then
    if (task.deliver mask).hasAwaited then (task.deliver mask).wake else task.deliver mask
  else task

/-- The task goes on as it is, but for the events that it has. -/
def GoesOn (before after : Task C) : Prop :=
  after = { before with eventFlags := after.eventFlags }

/-- The task was not runnable, and is ready now. -/
structure Readied (before after : Task C) : Prop where
  blocked : before.isRunnable = false
  ready : after.state = .ready
  id : after.id = before.id
  onCpu : after.context = .onCpu → before.context = .onCpu

/-- What an interrupt may make of a task. -/
inductive Amended (before after : Task C) : Prop where
  | goesOn (goes : before.GoesOn after)
  | readied (readied : before.Readied after)

theorem GoesOn.sameChoice (goes : before.GoesOn after) : after.SameChoice before := by
  rw [goes]
  exact ⟨rfl, rfl, rfl⟩

theorem GoesOn.context (goes : before.GoesOn after) : after.context = before.context := by
  rw [goes]

theorem Readied.runnable (readied : before.Readied after) : after.isRunnable := by
  rw [isRunnable, readied.ready]
  rfl

namespace Amended

theorem id (amended : before.Amended after) : after.id = before.id := by
  cases amended with
  | goesOn goes => exact goes.sameChoice.id
  | readied readied => exact readied.id

theorem running_iff (amended : before.Amended after) :
    after.state = .running ↔ before.state = .running := by
  cases amended with
  | goesOn goes => rw [goes]
  | readied readied =>
      rw [readied.ready]
      refine iff_of_false nofun fun running => ?_
      have blocked := readied.blocked
      rw [isRunnable, running] at blocked
      cases blocked

theorem onCpu (amended : before.Amended after) (onCpu : after.context = .onCpu) :
    before.context = .onCpu := by
  cases amended with
  | goesOn goes => exact goes.context.symm.trans onCpu
  | readied readied => exact readied.onCpu onCpu

/-- A runnable task goes on. -/
theorem goesOn_of_isRunnable (amended : before.Amended after) (runnable : before.isRunnable) :
    before.GoesOn after := by
  cases amended with
  | goesOn goes => exact goes
  | readied readied =>
      rw [readied.blocked] at runnable
      cases runnable

end Amended

theorem readied_of_activate [Machine C] {task fresh : Task C}
    (activated : task.activate Machine.prime = .ok fresh) : task.Readied fresh := by
  have suspended := suspended_of_activate activated
  unfold activate at activated
  split at activated <;> cases activated
  refine ⟨?_, rfl, rfl, nofun⟩
  rw [isRunnable, suspended]
  rfl

theorem readied_of_hasAwaited {mask : EventMask} {task : Task C}
    (hit : (task.deliver mask).hasAwaited) : task.Readied (task.deliver mask).wake := by
  refine ⟨?_, rfl, rfl, fun onCpu => onCpu⟩
  rw [isRunnable, Fits.state_of_hasAwaited hit]
  rfl

theorem amended_started [Machine C] (task : Task C) : task.Amended task.started := by
  unfold started
  split
  · exact .readied (readied_of_activate ‹_›)
  · exact .goesOn rfl

theorem amended_notified (mask : EventMask) (task : Task C) :
    task.Amended (task.notified mask) := by
  unfold notified
  split
  · split
    · exact .readied (readied_of_hasAwaited ‹_›)
    · exact .goesOn rfl
  · exact .goesOn rfl

end Task

namespace InterruptCall

variable {C : Type} [Machine C] {call : InterruptCall} {task other : Task C}

/-- What the call makes of its target, before any decision. -/
def edit : InterruptCall → Task C → Task C
  | activateTask _, task => task.started
  | setEvent _ mask, task => task.notified mask

/-- The call makes a task runnable that was not. -/
def readies (call : InterruptCall) (task : Task C) : Bool :=
  !task.isRunnable && (call.edit task).isRunnable

theorem amended_edit (call : InterruptCall) (task : Task C) : task.Amended (call.edit task) := by
  cases call with
  | activateTask target => exact task.amended_started
  | setEvent target mask => exact task.amended_notified mask

theorem readies_of_readied (readied : task.Readied (call.edit task)) : call.readies task := by
  rw [readies, readied.blocked, readied.runnable]
  rfl

theorem not_readies_of_isRunnable_eq (same : (call.edit task).isRunnable = task.isRunnable) :
    call.readies task = false := by
  rw [readies, same, Bool.not_and_self]

/-- A call that readies nobody lets its target go on. -/
theorem goesOn_of_not_readies (quiet : call.readies task = false) :
    task.GoesOn (call.edit task) := by
  cases call.amended_edit task with
  | goesOn goes => exact goes
  | readied readied =>
      rw [readies_of_readied readied] at quiet
      cases quiet

/-- Calls do not look at marks. -/
theorem edit_demote (call : InterruptCall) (task : Task C) :
    call.edit task.demote = (call.edit task).demote := by
  by_cases running : task.state = .running
  · cases call with
    | activateTask target =>
        simp [edit, Task.started, Task.activate, Task.demote, running]
    | setEvent target mask =>
        simp [edit, Task.notified, Task.hasAwaited, Task.deliver, Task.demote, running,
          TaskState.isActive]
  · rw [Task.demote_of_ne running,
      Task.demote_of_ne (mt (call.amended_edit task).running_iff.mp running)]

theorem readies_demote (call : InterruptCall) (task : Task C) :
    call.readies task.demote = call.readies task := by
  rw [readies, edit_demote, Task.isRunnable_demote, Task.isRunnable_demote, readies]

theorem readies_congr (same : task.demote = other.demote) :
    call.readies task = call.readies other := by
  rw [← readies_demote, same, readies_demote]

/-- Where the targets of some calls are different, so are those of all but the last, which has a
target of its own. -/
theorem nodup_of_concat {calls : List InterruptCall}
    (apart : ((calls ++ [call]).map target).Nodup) :
    (calls.map target).Nodup ∧ call.target ∉ calls.map target := by
  rw [List.map_append, List.map_singleton, List.nodup_append_comm] at apart
  exact (List.nodup_cons.mp apart).symm

end InterruptCall

/-! ### Changes before a decision -/

namespace Scheduler

variable {C : Type} [Machine C] {sched left right : Scheduler C} {call : InterruptCall}
  {calls other : List InterruptCall} {id : TaskId}

/-- The change that an interrupt makes, before any decision. -/
def amend (sched : Scheduler C) (call : InterruptCall) : Scheduler C :=
  sched.modify call.target call.edit

/-- The changes that some interrupts make. -/
def amendAll (sched : Scheduler C) (calls : List InterruptCall) : Scheduler C :=
  calls.foldl amend sched

theorem amendAll_concat (sched : Scheduler C) (calls : List InterruptCall) (call : InterruptCall) :
    sched.amendAll (calls ++ [call]) = (sched.amendAll calls).amend call := by
  rw [amendAll, List.foldl_append]
  rfl

@[simp] theorem current_amend : (sched.amend call).current = sched.current := rfl

/-- An update that makes of the target what the call makes of it. -/
theorem amend_eq_modify {f : Task C → Task C}
    (same : call.edit (sched.slot call.target) = f (sched.slot call.target)) :
    sched.amend call = sched.modify call.target f := by
  rw [amend, modify, modify, same]

/-- Whether or not its target exists, that is all that a call concerns. -/
theorem slot_amend (sched : Scheduler C) (call : InterruptCall) (id : TaskId) :
    (sched.amend call).slot id =
      if call.target = id then call.edit (sched.slot id) else sched.slot id := by
  rw [amend, slot_modify]
  by_cases here : call.target = id
  · by_cases inTable : call.target < maxTasks
    · rw [if_pos ⟨here, inTable⟩, if_pos here]
    · rw [if_neg fun both => inTable both.2, if_pos here,
        slot_of_le (by rw [← here]; exact Nat.le_of_not_lt inTable)]
      cases call <;> rfl
  · rw [if_neg fun both => here both.1, if_neg here]

theorem amended_amend (sched : Scheduler C) (call : InterruptCall) (id : TaskId) :
    (sched.slot id).Amended ((sched.amend call).slot id) := by
  rw [slot_amend]
  split
  · exact call.amended_edit _
  · exact .goesOn rfl

/-- If a call readies nobody, everybody goes on. -/
theorem goesOn_amend (quiet : call.readies (sched.slot call.target) = false) (id : TaskId) :
    (sched.slot id).GoesOn ((sched.amend call).slot id) := by
  rw [slot_amend]
  split
  · rename_i here
    subst here
    exact InterruptCall.goesOn_of_not_readies quiet
  · rfl

/-- Marks neither stand in the way of a change nor follow from it. -/
theorem demote_amend_congr (same : ∀ id, (left.slot id).demote = (right.slot id).demote)
    (call : InterruptCall) (id : TaskId) :
    ((left.amend call).slot id).demote = ((right.amend call).slot id).demote := by
  rw [slot_amend, slot_amend]
  split
  · rw [← InterruptCall.edit_demote, ← InterruptCall.edit_demote, same]
  · exact same id

/-- Changes of different tasks can be made in either order. -/
theorem amend_comm {one two : InterruptCall} (apart : one.target ≠ two.target)
    (sched : Scheduler C) : (sched.amend one).amend two = (sched.amend two).amend one := by
  refine ext_slot rfl rfl fun id => ?_
  simp only [slot_amend]
  by_cases first : one.target = id
  · rw [if_pos first, if_pos first, if_neg fun second => apart (first.trans second.symm),
      if_neg fun second => apart (first.trans second.symm)]
  · rw [if_neg first, if_neg first]

theorem amendAll_perm (perm : calls.Perm other) (apart : (calls.map InterruptCall.target).Nodup)
    (sched : Scheduler C) : sched.amendAll calls = sched.amendAll other := by
  refine perm.foldl_eq' ?_ sched
  intro one first two second sched
  by_cases same : one.target = two.target
  · rw [List.inj_on_of_nodup_map apart first second same]
  · exact amend_comm same sched

/-- A task that no call concerns stays as it is. -/
theorem slot_amendAll_of_notMem (elsewhere : id ∉ calls.map InterruptCall.target) :
    (sched.amendAll calls).slot id = sched.slot id := by
  induction calls using List.reverseRecOn with
  | nil => rfl
  | append_singleton calls call ih =>
      rw [List.map_append, List.mem_append, not_or] at elsewhere
      obtain ⟨before, last⟩ := elsewhere
      rw [amendAll_concat, slot_amend, if_neg, ih before]
      exact fun here => last (List.mem_singleton.mpr here.symm)

/-- The calls ready somebody. -/
def anyReadied (sched : Scheduler C) (calls : List InterruptCall) : Bool :=
  calls.any fun call => call.readies (sched.slot call.target)

theorem anyReadied_singleton (sched : Scheduler C) (call : InterruptCall) :
    sched.anyReadied [call] = call.readies (sched.slot call.target) := Bool.or_false _

theorem anyReadied_concat (sched : Scheduler C) (calls : List InterruptCall)
    (call : InterruptCall) :
    sched.anyReadied (calls ++ [call]) =
      (sched.anyReadied calls || call.readies (sched.slot call.target)) := by
  rw [← anyReadied_singleton]
  exact List.any_append

/-- Calls that ready nobody make nobody runnable. -/
theorem isRunnable_amendAll (apart : (calls.map InterruptCall.target).Nodup)
    (quiet : sched.anyReadied calls = false) (id : TaskId) :
    ((sched.amendAll calls).slot id).isRunnable = (sched.slot id).isRunnable := by
  induction calls using List.reverseRecOn with
  | nil => rfl
  | append_singleton calls call ih =>
      obtain ⟨apart, elsewhere⟩ := InterruptCall.nodup_of_concat apart
      rw [anyReadied_concat, Bool.or_eq_false_iff] at quiet
      obtain ⟨before, last⟩ := quiet
      rw [← slot_amendAll_of_notMem elsewhere] at last
      rw [amendAll_concat, (goesOn_amend last id).sameChoice.runnable, ih apart before]

/-! ### What changes keep -/

/-- A change leaves the scheduler ready for a decision. -/
theorem Poised.amend (poised : sched.Poised) (call : InterruptCall) :
    (sched.amend call).Poised where
  ids := by
    intro id
    rw [(sched.amended_amend call id).id, poised.ids]
  idle := by
    have goes := (sched.amended_amend call idleTask).goesOn_of_isRunnable poised.idle
    rw [goes.sameChoice.runnable]
    exact poised.idle
  marked := fun id running =>
    poised.marked id ((sched.amended_amend call id).running_iff.mp running)

theorem Poised.amendAll (poised : sched.Poised) (calls : List InterruptCall) :
    (sched.amendAll calls).Poised :=
  List.foldlRecOn calls Scheduler.amend poised fun _ before call _ => before.amend call

/-- If the task on the CPU has its registers there, it can go on. -/
def LiveRuns (sched : Scheduler C) : Prop :=
  (sched.slot sched.current).context = .onCpu → (sched.slot sched.current).isRunnable

theorem LiveRuns.amend (live : sched.LiveRuns) (call : InterruptCall) :
    (sched.amend call).LiveRuns := by
  intro onCpu
  have amended := sched.amended_amend call sched.current
  have runnable := live (amended.onCpu onCpu)
  exact (amended.goesOn_of_isRunnable runnable).sameChoice.runnable.trans runnable

theorem LiveRuns.amendAll (live : sched.LiveRuns) (calls : List InterruptCall) :
    (sched.amendAll calls).LiveRuns :=
  List.foldlRecOn calls Scheduler.amend live fun _ before call _ => before.amend call

end Scheduler

end Rtos
