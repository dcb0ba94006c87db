/-
Module: Rtos.Resource
Purpose: Mutual-exclusion resources under the immediate priority ceiling protocol.  An owner runs at
  least as urgently as the ceiling of each resource it holds; tasks that find a resource taken queue
  for it and are served in the order in which they came.
Main definitions: Resource, Core, Core.acquire, Core.release, Core.releaseAll
-/
import Rtos.Scheduler

namespace Rtos

/-- Position of a resource in the resource table. -/
abbrev ResourceId := Nat

/-- Slots in the resource table. -/
def maxResources : Nat := 4

/-- A resource, its owner and the tasks that queue for it, longest waiting first. -/
structure Resource where
  /-- The most urgent priority among the tasks that may ever take the resource. -/
  ceiling : Priority
  owner : Option TaskId := none
  waiters : List TaskId := []
deriving DecidableEq, Repr, Inhabited

/-- How a request for a resource was answered. -/
inductive Acquisition where
  /-- The caller owns the resource now. -/
  | granted
  /-- The caller was queued and will own the resource before it runs again. -/
  | blocked
deriving DecidableEq, Repr, Inhabited

/-- Resources that nobody owns, one for each ceiling. -/
def resourceTable (ceilings : List Priority) : Except Refusal (Array Resource) :=
  if ceilings.length ≤ maxResources then
    .ok (ceilings.map fun ceiling => { ceiling }).toArray
  else .error .exhausted

/-- The part of the kernel that settles who runs: the tasks, and the resources that they share. -/
structure Core (C : Type) where
  sched : Scheduler C := {}
  resources : Array Resource := #[]

namespace Core

variable {C : Type}

/-- Perform an operation on the scheduler alone. -/
def onScheduler {α : Type} (action : Action (Scheduler C) α) : Action (Core C) α :=
  Action.within Core.sched (fun sched core => { core with sched }) action

/-- Change one task. -/
def modifyTask (id : TaskId) (f : Task C → Task C) (core : Core C) : Core C :=
  { core with sched := core.sched.modify id f }

/-- Change one resource. -/
def modifyResource (id : ResourceId) (f : Resource → Resource) (core : Core C) : Core C :=
  { core with resources := core.resources.modify id f }

/-- The ids of the resources, in table order. -/
def resourceIds (core : Core C) : List ResourceId := List.range core.resources.size

/-- The task owns the resource. -/
def owns (core : Core C) (task : TaskId) (id : ResourceId) : Bool :=
  match core.resources[id]? with
  | some resource => resource.owner = some task
  | none => false

/-- The ceilings of the resources that the task owns. -/
def heldCeilings (core : Core C) (task : TaskId) : List Priority :=
  (core.resources.toList.filter fun resource => resource.owner = some task).map Resource.ceiling

/-- The priority at which the task has to run: the most urgent of its base priority and the
ceilings that it holds. -/
def effectivePriority (core : Core C) (task : TaskId) : Priority :=
  (core.heldCeilings task).foldl min (core.sched.slot task).basePriority

/-- Hand a resource to a task and raise the task to its ceiling. -/
def grant (id : ResourceId) (ceiling : Priority) (task : TaskId) : Action (Core C) Unit := do
  let _ ← Action.ofExcept ((← Action.get).sched.findTask task)
  Action.modify (modifyResource id fun resource => { resource with owner := some task })
  Action.modify (modifyTask task fun tcb => { tcb with priority := min tcb.priority ceiling })
  Action.log (.granted task ((← Action.get).sched.slot task).priority)

/-- Put a task at the end of a resource's queue and block it. -/
def enqueue (id : ResourceId) (task : TaskId) : Action (Core C) Unit := do
  Action.modify (modifyResource id fun resource =>
    { resource with waiters := resource.waiters ++ [task] })
  Action.modify (modifyTask task fun tcb => { tcb with state := .waiting })
  Action.log (.blocked task id)

/-- Take a resource on behalf of a task, or queue the task behind the owner.  Refused are an owner
that asks again, a task more urgent than the ceiling, and the idle task when it would block. -/
def acquire (id : ResourceId) (task : TaskId) : Action (Core C) Acquisition := do
  let core ← Action.get
  let resource ← Action.require .unknownId core.resources[id]?
  let caller ← Action.ofExcept (core.sched.findTask task)
  if resource.owner = some task ∨ caller.basePriority < resource.ceiling then
    Action.refuse .notPermitted
  else if resource.owner = none then
    grant id resource.ceiling task
    pure .granted
  else if task = idleTask then Action.refuse .notPermitted
  else if maxTasks ≤ resource.waiters.length then Action.refuse .exhausted
  else
    enqueue id task
    pure .blocked

/-- Give up a resource.  The task drops to the priority that its other resources ask for, and the
longest waiting task, which is the answer, becomes the owner and is ready. -/
def release (id : ResourceId) (task : TaskId) : Action (Core C) (Option TaskId) := do
  let resource ← Action.require .unknownId (← Action.get).resources[id]?
  if resource.owner ≠ some task then Action.refuse .notOwner
  else
    Action.modify (modifyResource id fun resource =>
      { resource with owner := none, waiters := resource.waiters.tail })
    let core ← Action.get
    let _ ← Action.ofExcept (core.sched.findTask task)
    Action.modify (modifyTask task fun tcb =>
      { tcb with priority := core.effectivePriority task })
    match resource.waiters with
    | [] => pure none
    | next :: _ =>
        grant id resource.ceiling next
        Action.modify (modifyTask next fun tcb => { tcb with state := .ready })
        pure (some next)

/-- Give up those of the listed resources that the task owns, in the order of the list. -/
def releaseOwned (task : TaskId) : List ResourceId → Action (Core C) Unit
  | [] => pure ()
  | id :: rest => do
      if (← Action.get).owns task id then
        let _ ← Action.attempt (release id task)
      releaseOwned task rest

/-- Give up everything that the task owns, from the last resource of the table to the first. -/
def releaseAll (task : TaskId) : Action (Core C) Unit := do
  releaseOwned task (← Action.get).resourceIds.reverse

end Core

end Rtos
