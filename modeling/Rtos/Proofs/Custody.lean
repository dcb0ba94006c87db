/-
Module: Rtos.Proofs.Custody
Purpose: All that can happen to one resource: a task takes it, queues for it, or parts with it, and
  then the longest waiting task has it and can run.  Interrupts and switches leave resources alone.
Main definitions: Core.queueOf, Core.Inherits, Core.quit, Resource.Change, Step.PartsWith,
  Step.HandsOver
Main statements: `Core.Consistent.slot_passOwned_of_inherits`, `Core.getElem?_quit`,
  `Move.Allowed.resourceChange`, `Step.Ready.untouched_or_served`,
  `Step.Ready.queued_or_handedOver`, `Step.Ready.owned_or_partedWith`
-/
import Mathlib.Data.List.Nodup
import Rtos.Proofs.Change
import Rtos.Proofs.Execution

namespace Rtos

namespace Core

variable {C : Type} {core : Core C} {id : ResourceId} {resource : Resource}
  {task giver next : TaskId} {order : List ResourceId}

/-- The tasks that queue for a resource, longest waiting first. -/
def queueOf (core : Core C) (id : ResourceId) : List TaskId :=
  match core.resources[id]? with
  | some resource => resource.waiters
  | none => []

theorem queueOf_of_found (found : core.resources[id]? = some resource) :
    core.queueOf id = resource.waiters := by
  rw [queueOf, found]

theorem mem_queueOf :
    task ∈ core.queueOf id ↔
      ∃ resource, core.resources[id]? = some resource ∧ task ∈ resource.waiters := by
  unfold queueOf
  cases core.resources[id]? <;> simp

theorem owns_of_found (found : core.resources[id]? = some resource) :
    core.owns task id ↔ resource.owner = some task := by
  rw [owns, found, decide_eq_true_eq]

/-! ### All that a task owns, passed on

A task that ends goes through the table once.  What it owns is passed on exactly once, although
each hand-over changes the table that the next one works on: the resource just passed on is not the
giver's any more, and the other ones are as they were. -/

theorem getElem?_pass {first : ResourceId} (found : core.resources[first]? = some resource)
    (giver : TaskId) (id : ResourceId) :
    (core.pass first giver).resources[id]? =
      if first = id then core.resources[id]?.map Resource.pass else core.resources[id]? := by
  rw [resources_pass found, Array.getElem?_modify]

/-- The table stays as large as it is. -/
theorem size_pass (id : ResourceId) (giver : TaskId) (core : Core C) :
    (core.pass id giver).resources.size = core.resources.size := by
  cases found : core.resources[id]? with
  | none => rw [pass, found]
  | some resource => rw [resources_pass found, Array.size_modify]

theorem size_passOwned (giver : TaskId) (ids : List ResourceId) (core : Core C) :
    (core.passOwned giver ids).resources.size = core.resources.size := by
  induction ids generalizing core with
  | nil => rfl
  | cons first rest ih =>
      unfold passOwned
      split
      · exact (ih _).trans (size_pass first giver core)
      · exact ih core

/-- Of the listed resources a task passes on those that it owns, and no others. -/
theorem getElem?_passOwned (giver : TaskId) {ids : List ResourceId} (nodup : ids.Nodup)
    (found : core.resources[id]? = some resource) :
    (core.passOwned giver ids).resources[id]? =
      some (if id ∈ ids ∧ resource.owner = some giver then resource.pass else resource) := by
  induction ids generalizing core resource with
  | nil => simp [passOwned, found]
  | cons first rest ih =>
      obtain ⟨apart, nodup⟩ := List.nodup_cons.mp nodup
      unfold passOwned
      by_cases here : first = id
      · subst here
        split
        · rename_i owned
          have passed := getElem?_pass found giver first
          rw [if_pos rfl, found] at passed
          simp [ih nodup passed, apart, (owns_of_found found).mp owned]
        · rename_i kept
          rw [owns_of_found found] at kept
          simp [ih nodup found, kept]
      · have other : ¬ id = first := fun same => here same.symm
        split
        · rename_i owned
          obtain ⟨given, foundGiven, -⟩ := owns_iff.mp owned
          have passed := getElem?_pass foundGiven giver id
          rw [if_neg here, found] at passed
          simp [ih nodup passed, other]
        · simp [ih nodup found, other]

/-- The longest waiting task is not the owner. -/
theorem Consistent.owner_ne_head (consistent : core.Consistent)
    (found : core.resources[id]? = some resource) (owner : resource.owner = some giver)
    (head : resource.waiters.head? = some next) : giver ≠ next := by
  rintro rfl
  exact (consistent.queues.orderly id resource found).apart giver owner
    (List.mem_of_mem_head? head)

/-- The giver owns the resource, and the heir is the first in its queue. -/
structure Inherits (core : Core C) (giver heir : TaskId) (id : ResourceId) (resource : Resource) :
    Prop where
  found : core.resources[id]? = some resource
  owner : resource.owner = some giver
  head : resource.waiters.head? = some heir

namespace Inherits

variable {heir : TaskId} {first other : ResourceId} {passed another : Resource}

theorem apart (inherits : core.Inherits giver heir id resource) (consistent : core.Consistent) :
    giver ≠ heir :=
  consistent.owner_ne_head inherits.found inherits.owner inherits.head

/-- Nobody inherits two resources. -/
theorem unique (one : core.Inherits giver heir id resource) (consistent : core.Consistent)
    (two : core.Inherits giver heir other another) : id = other ∧ resource = another := by
  have same : id = other :=
    consistent.queues.unique heir id other resource another one.found two.found
      (List.mem_of_mem_head? one.head) (List.mem_of_mem_head? two.head)
  exact ⟨same, Option.some.inj (one.found.symm.trans (same ▸ two.found))⟩

/-- A resource is still to be inherited when another one has been passed on. -/
theorem pass (inherits : core.Inherits giver heir id resource)
    (found : core.resources[first]? = some passed) (differ : first ≠ id) :
    (core.pass first giver).Inherits giver heir id resource where
  found := by rw [getElem?_pass found, if_neg differ, inherits.found]
  owner := inherits.owner
  head := inherits.head

/-- What is still to be inherited when a resource has been passed on is another one. -/
theorem of_pass (later : (core.pass first giver).Inherits giver heir id resource)
    (consistent : core.Consistent) (found : core.resources[first]? = some passed)
    (owner : passed.owner = some giver) :
    first ≠ id ∧ core.Inherits giver heir id resource := by
  have here := later.found
  rw [getElem?_pass found] at here
  split at here
  · rename_i same
    subst same
    rw [found] at here
    cases here
    exact absurd rfl (consistent.owner_ne_head found owner later.owner)
  · rename_i differ
    exact ⟨differ, here, later.owner, later.head⟩

end Inherits

/-- A task that inherits none of the listed resources is as it was. -/
theorem Consistent.slot_passOwned_of_not_inherits (consistent : core.Consistent)
    (apart : giver ≠ task) {ids : List ResourceId}
    (none : ∀ id ∈ ids, ∀ resource, ¬ core.Inherits giver task id resource) :
    (core.passOwned giver ids).sched.slot task = core.sched.slot task := by
  induction ids generalizing core with
  | nil => rfl
  | cons first rest ih =>
      obtain ⟨here, others⟩ := List.forall_mem_cons.mp none
      unfold Core.passOwned
      split
      · rename_i owned
        obtain ⟨given, found, owner⟩ := owns_iff.mp owned
        rw [ih (consistent.pass found owner), slot_pass_of_owner consistent found owner,
          if_neg apart, if_neg fun head => here given ⟨found, owner, head⟩]
        exact fun id member resource later =>
          others id member resource (later.of_pass consistent found owner).2
      · exact ih consistent others

/-- Whoever inherits one of the listed resources can run from then on, and is at least as urgent as
its ceiling. -/
theorem Consistent.slot_passOwned_of_inherits (consistent : core.Consistent)
    {ids : List ResourceId} (member : id ∈ ids) (inherits : core.Inherits giver task id resource) :
    (core.passOwned giver ids).sched.slot task =
      { core.sched.slot task with
        priority := min (core.sched.slot task).priority resource.ceiling, state := .ready } := by
  induction ids generalizing core with
  | nil => cases member
  | cons first rest ih =>
      have apart := inherits.apart consistent
      unfold Core.passOwned
      by_cases here : first = id
      · subst here
        rw [if_pos ((owns_of_found inherits.found).mpr inherits.owner),
          (consistent.pass inherits.found inherits.owner).slot_passOwned_of_not_inherits apart,
          slot_pass_of_owner consistent inherits.found inherits.owner, if_neg apart,
          if_pos inherits.head]
        -- the other resources that the giver owns have other heirs
        intro other _ another later
        obtain ⟨differ, two⟩ := later.of_pass consistent inherits.found inherits.owner
        exact differ (inherits.unique consistent two).1
      · have later : id ∈ rest := (List.mem_cons.mp member).resolve_left fun same => here same.symm
        split
        · rename_i owned
          obtain ⟨given, found, owner⟩ := owns_iff.mp owned
          have kept : (core.pass first giver).sched.slot task = core.sched.slot task := by
            rw [slot_pass_of_owner consistent found owner, if_neg apart, if_neg]
            exact fun head => here (inherits.unique consistent ⟨found, owner, head⟩).1.symm
          rw [ih (consistent.pass found owner) later (inherits.pass found here), kept]
        · exact ih consistent later inherits

/-- The giver itself changes in priority only. -/
theorem Consistent.slot_passOwned_giver (consistent : core.Consistent) (giver : TaskId)
    (ids : List ResourceId) :
    ∃ priority, (core.passOwned giver ids).sched.slot giver =
      { core.sched.slot giver with priority } := by
  induction ids generalizing core with
  | nil => exact ⟨_, rfl⟩
  | cons first rest ih =>
      unfold Core.passOwned
      split
      · rename_i owned
        obtain ⟨given, found, owner⟩ := owns_iff.mp owned
        obtain ⟨priority, slot⟩ := ih (consistent.pass found owner)
        rw [slot_pass_of_owner consistent found owner, if_pos rfl] at slot
        exact ⟨priority, slot⟩
      · exact ih consistent

/-- A task that ends goes through all resources, each of them once. -/
theorem mem_resourceIds (found : core.resources[id]? = some resource) :
    id ∈ core.resourceIds.reverse := by
  obtain ⟨inTable, -⟩ := Array.getElem?_eq_some_iff.mp found
  simpa [resourceIds] using inTable

theorem nodup_resourceIds (core : Core C) : core.resourceIds.reverse.Nodup :=
  List.nodup_reverse.mpr List.nodup_range

/-! ### The end of a task -/

/-- A task passes on what it owns of the listed resources, and ends. -/
def quit (giver : TaskId) (order : List ResourceId) (core : Core C) : Core C :=
  (core.passOwned giver order).modifyTask giver Task.terminate

/-- The list goes through all that the task owns, each resource once. -/
structure Exhausts (core : Core C) (giver : TaskId) (order : List ResourceId) : Prop where
  nodup : order.Nodup
  complete : ∀ id, core.owns giver id → id ∈ order

/-- The kernel goes through the whole table. -/
theorem exhausts_resourceIds (core : Core C) (giver : TaskId) :
    core.Exhausts giver core.resourceIds.reverse where
  nodup := core.nodup_resourceIds
  complete := by
    intro id owned
    obtain ⟨resource, found, -⟩ := owns_iff.mp owned
    exact mem_resourceIds found

/-- All that the task owns is passed on, and nothing else. -/
theorem getElem?_quit (exhausts : core.Exhausts giver order) (id : ResourceId) :
    (core.quit giver order).resources[id]? =
      core.resources[id]?.map fun resource =>
        if resource.owner = some giver then resource.pass else resource := by
  change (core.passOwned giver order).resources[id]? = _
  cases found : core.resources[id]? with
  | none =>
      have beyond := Array.getElem?_eq_none_iff.mp found
      rw [Option.map_none, Array.getElem?_eq_none (by rwa [size_passOwned])]
  | some resource =>
      rw [getElem?_passOwned giver exhausts.nodup found, Option.map_some]
      by_cases owner : resource.owner = some giver
      · rw [if_pos ⟨exhausts.complete id ((owns_of_found found).mpr owner), owner⟩, if_pos owner]
      · rw [if_neg fun both => owner both.2, if_neg owner]

theorem slot_quit_giver (consistent : core.Consistent) (inTable : giver < maxTasks)
    (order : List ResourceId) :
    (core.quit giver order).sched.slot giver = (core.sched.slot giver).terminate := by
  obtain ⟨priority, passed⟩ := consistent.slot_passOwned_giver giver order
  rw [quit, slot_modifyTask, if_pos ⟨rfl, inTable⟩, passed]
  rfl

theorem slot_quit_of_ne (apart : giver ≠ task) (order : List ResourceId) :
    (core.quit giver order).sched.slot task =
      (core.passOwned giver order).sched.slot task := by
  rw [quit, slot_modifyTask, if_neg fun both => apart both.1]

/-- Whoever is first in a queue receives the resource. -/
theorem slot_quit_of_inherits (consistent : core.Consistent) (exhausts : core.Exhausts giver order)
    (inherits : core.Inherits giver task id resource) :
    (core.quit giver order).sched.slot task =
      { core.sched.slot task with
        priority := min (core.sched.slot task).priority resource.ceiling, state := .ready } := by
  have owned := (owns_of_found inherits.found).mpr inherits.owner
  rw [slot_quit_of_ne (inherits.apart consistent),
    consistent.slot_passOwned_of_inherits (exhausts.complete id owned) inherits]

/-- Nobody else is concerned. -/
theorem slot_quit_of_not_inherits (consistent : core.Consistent) (apart : giver ≠ task)
    (none : ∀ id resource, ¬ core.Inherits giver task id resource) (order : List ResourceId) :
    (core.quit giver order).sched.slot task = core.sched.slot task := by
  rw [slot_quit_of_ne apart, consistent.slot_passOwned_of_not_inherits apart fun id _ => none id]

/-- The task on the CPU ends so, and goes through the whole table. -/
theorem finish_eq_quit (core : Core C) :
    core.finish = core.quit core.sched.current core.resourceIds.reverse := rfl

theorem getElem?_finish (found : core.resources[id]? = some resource) :
    core.finish.resources[id]? =
      some (if resource.owner = some core.sched.current then resource.pass else resource) := by
  rw [finish_eq_quit, getElem?_quit (core.exhausts_resourceIds _), found, Option.map_some]

theorem ready_finish (consistent : core.Consistent)
    (inherits : core.Inherits core.sched.current next id resource) :
    (core.finish.sched.slot next).state = .ready := by
  rw [finish_eq_quit,
    slot_quit_of_inherits consistent (core.exhausts_resourceIds _) inherits]

end Core

/-! ### Moves -/

/-- By this move the task on the CPU may part with the resource. -/
def Move.gives (id : ResourceId) : Move → Bool
  | release other => other = id
  | finish | chain _ => true
  | declare .. | start .. | deliver .. | wake .. | clear .. | await .. | take .. | queue .. => false

/-- What becomes of one resource by a move. -/
inductive Resource.Change (move : Move) (current : TaskId) (id : ResourceId)
    (before after : Resource) : Prop where
  | kept (same : after = before) (other : move ≠ .queue id)
  | taken (asked : move = .take id) (free : before.owner = none)
      (taken : after = { before with owner := some current })
  | joined (asked : move = .queue id) (owned : before.owner ≠ none)
      (joined : after = { before with waiters := before.waiters ++ [current] })
  | passed (gives : move.gives id) (owner : before.owner = some current)
      (passed : after = before.pass)

namespace Move

variable {C : Type} [Machine C] {core : Core C} {move : Move} {id : ResourceId}
  {resource : Resource} {next : TaskId}

omit [Machine C] in
/-- A task that ends parts with all that it owns, whether or not another one is activated. -/
theorem change_finish (move : Move) (found : core.resources[id]? = some resource)
    (gives : move.gives id) (other : move ≠ .queue id) :
    ∃ after, core.finish.resources[id]? = some after ∧
      resource.Change move core.sched.current id after := by
  refine ⟨_, Core.getElem?_finish found, ?_⟩
  split
  · rename_i owner
    exact .passed gives owner rfl
  · exact .kept rfl other

omit [Machine C] in
/-- A move that edits one resource changes that one and keeps the other ones. -/
theorem change_modify {target : ResourceId} {edit : Resource → Resource}
    (found : core.resources[id]? = some resource)
    (changed : target = id → resource.Change move core.sched.current id (edit resource))
    (other : target ≠ id → move ≠ .queue id) :
    ∃ after, (core.resources.modify target edit)[id]? = some after ∧
      resource.Change move core.sched.current id after := by
  rw [Array.getElem?_modify]
  by_cases here : target = id
  · exact ⟨edit resource, by rw [if_pos here, found]; rfl, changed here⟩
  · exact ⟨resource, by rw [if_neg here, found], .kept rfl (other here)⟩

/-- A move changes each resource in one of four ways. -/
theorem Allowed.resourceChange (allowed : move.Allowed core)
    (found : core.resources[id]? = some resource) :
    ∃ after, (move.apply core).resources[id]? = some after ∧
      resource.Change move core.sched.current id after := by
  have permitted := allowed.permitted
  rw [resources_apply]
  have kept : (∀ target, move ≠ .queue target) → (move.edit core).resources = core.resources →
      ∃ after, (move.edit core).resources[id]? = some after ∧
        resource.Change move core.sched.current id after := by
    intro other same
    exact ⟨resource, by rw [same, found], .kept rfl (other id)⟩
  cases move with
  | take target =>
      obtain ⟨wanted, foundWanted, free, -⟩ := permitted
      rw [edit, foundWanted]
      refine change_modify found ?_ (by rintro _ ⟨⟩)
      rintro rfl
      rw [found] at foundWanted
      cases foundWanted
      exact .taken rfl free rfl
  | queue target =>
      obtain ⟨wanted, foundWanted, owned, -⟩ := permitted
      refine change_modify found ?_ ?_
      · rintro rfl
        rw [found] at foundWanted
        cases foundWanted
        exact .joined rfl owned rfl
      · rintro apart ⟨⟩
        exact apart rfl
  | release target =>
      obtain ⟨given, foundGiven, owner⟩ := permitted
      rw [edit, Core.resources_pass foundGiven]
      refine change_modify found ?_ (by rintro _ ⟨⟩)
      rintro rfl
      rw [found] at foundGiven
      cases foundGiven
      exact .passed (decide_eq_true rfl) owner rfl
  | finish => exact change_finish .finish found rfl (by rintro ⟨⟩)
  | chain target => exact change_finish (.chain target) found rfl (by rintro ⟨⟩)
  | _ => exact kept (by rintro _ ⟨⟩) rfl

/-- Whoever is first in the queue of a resource that its owner parts with can run. -/
theorem Allowed.receiver_runnable (allowed : move.Allowed core) (sound : core.Sound)
    (gives : move.gives id) (found : core.resources[id]? = some resource)
    (owner : resource.owner = some core.sched.current)
    (head : resource.waiters.head? = some next) :
    ((move.apply core).sched.slot next).state.isRunnable := by
  have consistent := sound.toConsistent
  have edited : ((move.edit core).sched.slot next).state = .ready := by
    cases move with
    | release target =>
        obtain rfl : target = id := of_decide_eq_true gives
        have apart := consistent.owner_ne_head found owner head
        rw [edit, Core.slot_pass_of_owner consistent found owner, if_neg apart, if_pos head]
    | finish => exact Core.ready_finish consistent ⟨found, owner, head⟩
    | chain target =>
        have inTable := Scheduler.lt_of_isRunnable (allowed.caller_runnable sound rfl)
        have ready := Core.ready_finish consistent ⟨found, owner, head⟩
        have suspended := Core.suspended_finish consistent inTable allowed.permitted.2
        rw [edit, Core.start, Core.slot_modifyTask, if_neg]
        -- the activated task is suspended once the caller has ended, so it is not the receiver
        · exact ready
        · rintro ⟨rfl, -⟩
          rw [ready] at suspended
          cases suspended
    | _ => cases gives
  obtain ⟨state, applied, same | ⟨runnable, -⟩⟩ := allowed.slot_apply sound next
  · rw [applied, same, edited]
    rfl
  · rw [applied]
    exact runnable

end Move

/-! ### Steps -/

/-- Interrupts leave the resources alone. -/
theorem Moved.resources_eq {C : Type} [Machine C] {first last : Situation C} {moves : List Move}
    (moved : Moved first moves last) (each : ∀ move ∈ moves, move.isInterrupt) :
    last.core.resources = first.core.resources := by
  induction moved with
  | nil => rfl
  | @cons first last move moves allowed rest ih =>
      obtain ⟨interrupt, others⟩ := List.forall_mem_cons.mp each
      refine (ih others).trans ((Move.resources_apply move first.core).trans ?_)
      cases move <;> first | rfl | cases interrupt

namespace Step

variable {C : Type} [Machine C] {step : Step C} {id : ResourceId} {resource : Resource}
  {task : TaskId} {request : Request} {move : Move}

/-- The task on the CPU makes a request, and the move is what comes of it. -/
structure Served (step : Step C) (request : Request) (move : Move) : Prop where
  asked : step.operation.request? = some request
  serves : move.Serves request
  allowed : move.Allowed step.before.core
  core : step.after.core = move.apply step.before.core

/-- The owner of the resource is on the CPU, and gives the resource up or ends. -/
structure PartsWith (step : Step C) (id : ResourceId) : Prop where
  owner : step.before.core.owns step.before.current id
  asked : step.operation.request? = some (.releaseResource id) ∨
    step.operation.request? = some .terminateTask ∨
    ∃ next, step.operation.request? = some (.chainTask next)
  lost : ¬ step.after.core.owns step.before.current id

theorem PartsWith.exists_request? (parts : step.PartsWith id) :
    ∃ request, step.operation.request? = some request := by
  rcases parts.asked with asked | asked | ⟨next, asked⟩
  all_goals exact ⟨_, asked⟩

/-- The owner of the resource parts with it, and the task has it from then on and can run. -/
structure HandsOver (step : Step C) (id : ResourceId) (task : TaskId) : Prop
    extends step.PartsWith id where
  received : step.after.core.owns task id
  runnable : (step.after.core.sched.slot task).state.isRunnable

/-- Resources change at the request of the task on the CPU only. -/
theorem Ready.untouched_or_served (ready : step.Ready) :
    step.after.core.resources = step.before.core.resources ∨
      ∃ request move, step.Served request move := by
  rcases ready.cases with ⟨outgoing, switches⟩ | ⟨moves, makes⟩
  · rw [switches.core]
    exact .inl rfl
  · rcases makes.maker with each | ⟨request, move, asked, rfl, serves⟩
    · exact .inl (makes.effect.moved.resources_eq each)
    · obtain ⟨allowed, core⟩ := makes.of_singleton
      exact .inr ⟨request, move, asked, serves, allowed, core⟩

/-- What a request makes of each resource. -/
theorem Served.resourceChange (served : step.Served request move)
    (found : step.before.core.resources[id]? = some resource) :
    ∃ after, step.after.core.resources[id]? = some after ∧
      resource.Change move step.before.current id after := by
  rw [served.core]
  exact served.allowed.resourceChange found

/-- A task that passes a resource on gave it up or ended, and has it no more. -/
theorem Served.partsWith (served : step.Served request move) (sound : step.before.core.Sound)
    (gives : move.gives id) (found : step.before.core.resources[id]? = some resource)
    (owner : resource.owner = some step.before.current)
    (passed : step.after.core.resources[id]? = some resource.pass) : step.PartsWith id where
  owner := (Core.owns_of_found found).mpr owner
  asked := by
    have asked := served.asked
    cases served.serves with
    | release other =>
        obtain rfl : other = id := of_decide_eq_true gives
        exact .inl asked
    | finish => exact .inr (.inl asked)
    | chain next => exact .inr (.inr ⟨next, asked⟩)
    | _ => cases gives
  lost := by
    rw [Core.owns_of_found passed]
    intro head
    exact sound.owner_ne_head found owner head rfl

/-- A task stays in the queue of a resource until the owner hands the resource over to it. -/
theorem Ready.queued_or_handedOver (ready : step.Ready)
    (queued : task ∈ step.before.core.queueOf id) :
    task ∈ step.after.core.queueOf id ∨ step.HandsOver id task := by
  obtain ⟨resource, found, waits⟩ := Core.mem_queueOf.mp queued
  rcases ready.untouched_or_served with same | ⟨request, move, served⟩
  · exact .inl (Core.mem_queueOf.mpr ⟨resource, by rw [same]; exact found, waits⟩)
  · obtain ⟨after, foundAfter, change⟩ := served.resourceChange found
    rw [Core.queueOf_of_found foundAfter]
    cases change with
    | kept same => exact .inl (by rw [same]; exact waits)
    | taken asked free =>
        rw [(ready.sound.queues.orderly id resource found).owned free] at waits
        cases waits
    | joined asked owned joined =>
        rw [joined]
        exact .inl (List.mem_append_left _ waits)
    | passed gives owner passed =>
        subst passed
        -- either the queue moves up, or the task was first in it
        by_cases head : resource.waiters.head? = some task
        · have parts := served.partsWith ready.sound gives found owner foundAfter
          refine .inr { parts with
            received := (Core.owns_of_found foundAfter).mpr head, runnable := ?_ }
          rw [served.core]
          exact served.allowed.receiver_runnable ready.sound gives found owner head
        · left
          unfold Resource.pass
          cases waiters : resource.waiters with
          | nil =>
              rw [waiters] at waits
              cases waits
          | cons first rest =>
              rw [waiters] at waits head
              exact (List.mem_cons.mp waits).resolve_left fun same => head (congrArg some same.symm)

/-- A task owns a resource until it gives it up or ends. -/
theorem Ready.owned_or_partedWith (ready : step.Ready) (owned : step.before.core.owns task id) :
    step.after.core.owns task id ∨ step.before.current = task ∧ step.PartsWith id := by
  obtain ⟨resource, found, owner⟩ := Core.owns_iff.mp owned
  rcases ready.untouched_or_served with same | ⟨request, move, served⟩
  · exact .inl (Core.owns_iff.mpr ⟨resource, by rw [same]; exact found, owner⟩)
  · obtain ⟨after, foundAfter, change⟩ := served.resourceChange found
    rw [Core.owns_of_found foundAfter]
    cases change with
    | kept same => exact .inl (by rw [same]; exact owner)
    | taken asked free =>
        rw [free] at owner
        cases owner
    | joined asked _ joined => exact .inl (by rw [joined]; exact owner)
    | passed gives giver passed =>
        subst passed
        rw [giver] at owner
        exact .inr ⟨Option.some.inj owner,
          served.partsWith ready.sound gives found giver foundAfter⟩

end Step

end Rtos
