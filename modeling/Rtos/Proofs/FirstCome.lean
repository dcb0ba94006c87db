/-
Module: Rtos.Proofs.FirstCome
Purpose: Tasks get a resource in the order in which they came for it.  Nobody who was made to wait
  is passed over, served twice or lost, however the resource changes hands.
Main definitions: Step.receiver?, Step.blocked?, Execution.received, Execution.blockedOn
Main statements: `Step.Ready.queue_conserved`, `Execution.received_append_queue`
-/
import Rtos.Proofs.Handover

namespace Rtos

/-- By this request the owner of the resource gives it up, or ends. -/
def Request.gives (id : ResourceId) : Request → Bool
  | releaseResource other => other = id
  | terminateTask | chainTask _ => true
  | debug .. | declare .. | activateTask .. | getTaskId | getTaskState .. | getResource .. => false
  | setEvent .. | clearEvent .. | getEvent .. | waitEvent .. | getAlarmBase .. | getAlarm .. => false
  | setRelAlarm .. | setAbsAlarm .. | cancelAlarm .. => false

namespace Core

variable {C : Type} {core : Core C} {id : ResourceId} {resource : Resource}

/-- The owner of a resource, if it has one. -/
def ownerOf? (core : Core C) (id : ResourceId) : Option TaskId :=
  match core.resources[id]? with
  | some resource => resource.owner
  | none => none

theorem ownerOf?_of_found (found : core.resources[id]? = some resource) :
    core.ownerOf? id = resource.owner := by
  rw [ownerOf?, found]

theorem owns_iff_ownerOf? {task : TaskId} :
    core.owns task id ↔ core.ownerOf? id = some task := by
  unfold owns ownerOf?
  cases core.resources[id]? <;> simp

end Core

namespace Move

variable {C : Type} [Machine C]

/-- No resource is ever added or removed. -/
theorem size_apply (move : Move) (core : Core C) :
    (move.apply core).resources.size = core.resources.size := by
  rw [resources_apply]
  cases move with
  | take id =>
      rw [edit]
      split
      · exact Array.size_modify
      · rfl
  | queue id => exact Array.size_modify
  | release id => exact Core.size_pass id core.sched.current core
  | finish => exact Core.size_passOwned core.sched.current core.resourceIds.reverse core
  | chain id => exact Core.size_passOwned core.sched.current core.resourceIds.reverse core
  | _ => rfl

end Move

namespace Step

variable {C : Type} [Machine C] {step : Step C} {id : ResourceId} {request : Request} {move : Move}

instance (step : Step C) (id : ResourceId) : Decidable (step.BlocksOn id) :=
  decidable_of_iff
    (step.operation.request? = some (.getResource id) ∧
      ((Kernel.getResource id).run step.before).result = .ok .blocked)
    ⟨fun both => ⟨both.1, both.2⟩, fun blocks => ⟨blocks.asked, blocks.answer⟩⟩

/-- The task whose request for the resource is answered, in this step, by blocking it. -/
def blocked? (step : Step C) (id : ResourceId) : Option TaskId :=
  if step.BlocksOn id then some step.before.current else none

/-- The task that receives the resource in this step: the owner asks to give it up, or to end, and
somebody else owns it afterwards. -/
def receiver? (step : Step C) (id : ResourceId) : Option TaskId :=
  if step.before.core.owns step.before.current id ∧
      step.operation.request?.any (Request.gives id) then
    (step.after.core.ownerOf? id).filter (· ≠ step.before.current)
  else none

omit [Machine C] in
/-- A task that acts is in no queue. -/
theorem Ready.not_queued_of_request? (ready : step.Ready)
    (asked : step.operation.request? = some request) (id : ResourceId) :
    step.before.current ∉ step.before.core.queueOf id := by
  intro queued
  have waiting : (step.before.sched.slot step.before.current).state = .waiting :=
    (ready.sound.awaitsIn queued).1
  rw [ready.running_of_request? asked] at waiting
  cases waiting

/-- An owner that stays the owner hands nothing over. -/
theorem receiver?_of_kept (kept : step.after.core.ownerOf? id = step.before.core.ownerOf? id) :
    step.receiver? id = none := by
  unfold receiver?
  split
  · rename_i gives
    rw [kept, Core.owns_iff_ownerOf?.mp gives.1]
    simp
  · rfl

/-- What comes of a request joins the task to the queue exactly if the answer is that the task has
to wait. -/
theorem Ready.blocksOn_iff (ready : step.Ready) (served : step.Served request move) :
    step.BlocksOn id ↔ move = .queue id := by
  have outside := ready.not_queued_of_request? served.asked id
  have sound := ready.sound
  have chosen := ready.chosen (Operation.isCaller_of_request? served.asked)
  constructor
  · intro blocks
    -- the task is in the queue afterwards, and it was not before
    obtain ⟨-, queued⟩ := ready.awaitsIn_of_blocksOn blocks
    have asked := served.asked.symm.trans blocks.asked
    cases found : step.before.core.resources[id]? with
    | none =>
        rw [Core.queueOf, Array.getElem?_eq_none] at queued
        · cases queued
        · rw [served.core, Move.size_apply]
          exact Array.getElem?_eq_none_iff.mp found
    | some resource =>
        obtain ⟨after, foundAfter, change⟩ := served.resourceChange found
        rw [Core.queueOf_of_found found] at outside
        rw [Core.queueOf_of_found foundAfter] at queued
        cases change with
        | kept same =>
            rw [same] at queued
            exact absurd queued outside
        | taken _ _ taken =>
            rw [taken] at queued
            exact absurd queued outside
        | joined asked => exact asked
        | passed _ _ passed =>
            rw [passed] at queued
            exact absurd (List.mem_of_mem_tail queued) outside
  · rintro rfl
    have asked := served.asked
    have allowed := served.allowed
    cases served.serves
    refine ⟨asked, ?_⟩
    obtain ⟨resource, found, owned, -⟩ := allowed.permitted
    rcases Kernel.getResource_makes sound chosen id with takes | queues | ⟨reason, refused⟩
    · obtain ⟨other, foundOther, free, -⟩ := takes.allowed.permitted
      rw [found] at foundOther
      cases foundOther
      exact absurd free owned
    · exact queues.result
    · -- a refusal would leave the queue as it was
      obtain ⟨after, foundAfter, change⟩ := served.resourceChange found
      have same : step.after.core = step.before.core := by
        rw [after_of_request? asked, Kernel.perform, Action.state_bind_pure, refused]
      rw [same, found] at foundAfter
      cases foundAfter
      rw [Core.queueOf_of_found found] at outside
      cases change with
      | kept _ other => exact absurd rfl other
      | taken asked => cases asked
      | joined _ _ joined =>
          have longer := congrArg (fun resource => resource.waiters.length) joined
          simp at longer
      | passed gives => cases gives

theorem Ready.blocked?_of_ne (ready : step.Ready) (served : step.Served request move)
    (other : move ≠ .queue id) : step.blocked? id = none :=
  if_neg fun blocks => other ((ready.blocksOn_iff served).mp blocks)

/-- A resource that its owner parts with goes to the longest waiting task. -/
theorem Ready.receiver?_of_passed (ready : step.Ready) (served : step.Served request move)
    {resource : Resource} (gives : move.gives id)
    (found : step.before.core.resources[id]? = some resource)
    (owner : resource.owner = some step.before.current)
    (passed : step.after.core.resources[id]? = some resource.pass) :
    step.receiver? id = resource.waiters.head? := by
  have asks : request.gives id := by
    cases served.serves <;> exact gives
  have holds : step.before.core.owns step.before.current id ∧
      step.operation.request?.any (Request.gives id) := by
    refine ⟨(Core.owns_of_found found).mpr owner, ?_⟩
    rw [served.asked]
    exact asks
  rw [receiver?, if_pos holds, Core.ownerOf?_of_found passed, Resource.pass]
  cases head : resource.waiters.head? with
  | none => rfl
  | some next =>
      have apart := ready.sound.owner_ne_head found owner head
      exact Option.filter_some_pos (decide_eq_true apart.symm)

/-- What a request does to the queue of a resource that exists. -/
theorem Ready.queue_conserved_of_found (ready : step.Ready) (served : step.Served request move)
    {resource : Resource} (found : step.before.core.resources[id]? = some resource) :
    step.before.core.queueOf id ++ (step.blocked? id).toList =
      (step.receiver? id).toList ++ step.after.core.queueOf id := by
  obtain ⟨after, foundAfter, change⟩ := served.resourceChange found
  have kept (same : after.owner = resource.owner) : step.receiver? id = none := by
    refine receiver?_of_kept ?_
    rw [Core.ownerOf?_of_found found, Core.ownerOf?_of_found foundAfter, same]
  rw [Core.queueOf_of_found found, Core.queueOf_of_found foundAfter]
  cases change with
  | kept same other =>
      rw [kept (by rw [same]), ready.blocked?_of_ne served other, same]
      exact List.append_nil _
  | taken asked free taken =>
      have nobody : ¬ step.before.core.owns step.before.current id := by
        rw [Core.owns_of_found found, free]
        nofun
      have other : move ≠ .queue id := by
        rw [asked]
        nofun
      rw [receiver?, if_neg fun gives => nobody gives.1, ready.blocked?_of_ne served other, taken]
      exact List.append_nil _
  | joined asked owned joined =>
      have blocks : step.BlocksOn id := (ready.blocksOn_iff served).mpr asked
      rw [kept (by rw [joined]), blocked?, if_pos blocks, joined]
      rfl
  | passed gives owner passed =>
      subst passed
      have other : move ≠ .queue id := by
        rintro rfl
        cases gives
      rw [ready.receiver?_of_passed served gives found owner foundAfter,
        ready.blocked?_of_ne served other, Resource.pass]
      cases resource.waiters <;> simp

/-- Whoever comes in one step joins the queue at its end, and whoever is served leaves it at its
front. -/
theorem Ready.queue_conserved (ready : step.Ready) (id : ResourceId) :
    step.before.core.queueOf id ++ (step.blocked? id).toList =
      (step.receiver? id).toList ++ step.after.core.queueOf id := by
  -- where the entry of the resource stays as it is, nobody comes and nobody is served
  have untouched (same : step.after.core.resources[id]? = step.before.core.resources[id]?) :
      step.before.core.queueOf id ++ (step.blocked? id).toList =
        (step.receiver? id).toList ++ step.after.core.queueOf id := by
    have queue : step.after.core.queueOf id = step.before.core.queueOf id := by
      rw [Core.queueOf, Core.queueOf, same]
    have owner : step.after.core.ownerOf? id = step.before.core.ownerOf? id := by
      rw [Core.ownerOf?, Core.ownerOf?, same]
    have moving : ¬ step.BlocksOn id := by
      intro blocks
      have queued := (ready.awaitsIn_of_blocksOn blocks).2
      rw [queue] at queued
      exact ready.not_queued_of_request? blocks.asked id queued
    rw [receiver?_of_kept owner, blocked?, if_neg moving, queue]
    exact List.append_nil _
  rcases ready.untouched_or_served with same | ⟨request, move, served⟩
  · exact untouched (by rw [same])
  · cases found : step.before.core.resources[id]? with
    | none =>
        refine untouched ?_
        rw [found, served.core, Array.getElem?_eq_none_iff, Move.size_apply]
        exact Array.getElem?_eq_none_iff.mp found
    | some resource => exact ready.queue_conserved_of_found served found

end Step

namespace Execution

variable {C : Type} [Machine C] {admits : Step C → Prop} {config : Configuration}
  {steps : List (Step C)} {kernel : Kernel C}

/-- The tasks that received the resource from an owner that gave it up or ended, first one first. -/
def received (id : ResourceId) (steps : List (Step C)) : List TaskId :=
  steps.reverse.filterMap (·.receiver? id)

/-- The tasks that were made to wait for the resource, in the order of their requests. -/
def blockedOn (id : ResourceId) (steps : List (Step C)) : List TaskId :=
  steps.reverse.filterMap (·.blocked? id)

theorem received_cons (id : ResourceId) (step : Step C) (steps : List (Step C)) :
    received id (step :: steps) = received id steps ++ (step.receiver? id).toList := by
  rw [received, List.reverse_cons, List.filterMap_append]
  cases receiver : step.receiver? id <;> simp [received, receiver]

theorem blockedOn_cons (id : ResourceId) (step : Step C) (steps : List (Step C)) :
    blockedOn id (step :: steps) = blockedOn id steps ++ (step.blocked? id).toList := by
  rw [blockedOn, List.reverse_cons, List.filterMap_append]
  cases blocked : step.blocked? id <;> simp [blockedOn, blocked]

/-- The tasks that have received a resource from its owner, followed by those that still queue for
it, are the tasks that were made to wait for it, in the order in which they came.  Nobody is passed
over, served twice or lost. -/
theorem received_append_queue (execution : Execution admits config steps kernel)
    (id : ResourceId) :
    received id steps ++ kernel.core.queueOf id = blockedOn id steps := by
  induction execution with
  | @boot console kernel seen built booted heap =>
      change kernel.core.queueOf id = []
      cases found : kernel.core.resources[id]? with
      | none => rw [Core.queueOf, found]
      | some resource =>
          rw [Core.queueOf_of_found found]
          exact (Kernel.boot_unowned booted id resource found).2
  | @step steps kernel operation earlier launched idle admitted ih =>
      obtain ⟨latest, -⟩ := (earlier.step launched idle admitted).latest
      have conserved := latest.ready.queue_conserved id
      rw [received_cons, blockedOn_cons, ← ih, List.append_assoc, List.append_assoc, conserved]

/-- Both tasks come for the resource while the other one owns it.  The first of them has received it
and sleeps with it, while the second one waits. -/
def takenInTurn : List (Operation FrameIndex) :=
  [.launch ⟨0⟩, .request (.getResource 0), .request (.activateTask 2), .dispatch ⟨1⟩,
    .request (.getResource 0), .dispatch ⟨2⟩, .request (.releaseResource 0), .dispatch ⟨3⟩,
    .request (.waitEvent 1), .dispatch ⟨4⟩, .request (.getResource 0)]

set_option maxRecDepth 8000 in
theorem received_taken_in_turn :
    ∃ (steps : List (Step FrameIndex)) (kernel : Kernel FrameIndex),
      Execution (fun _ => True) (Configuration.pair 2) steps kernel ∧
        received 0 steps = [2] ∧ kernel.core.queueOf 0 = [1] ∧ blockedOn 0 steps = [2, 1] := by
  have execution : Execution (fun _ => True) (Configuration.pair 2) (pairSteps 2 takenInTurn)
      (pairReached 2 takenInTurn) :=
    of_pair (by decide) (by decide) (by decide)
  have order := execution.received_append_queue 0
  have first : received 0 (pairSteps 2 takenInTurn) = [2] := by decide
  have queue : (pairReached 2 takenInTurn).core.queueOf 0 = [1] := by decide
  rw [first, queue] at order
  exact ⟨_, _, execution, first, queue, order.symm⟩

end Execution

end Rtos
