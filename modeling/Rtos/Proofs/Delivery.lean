/-
Module: Rtos.Proofs.Delivery
Purpose: No wake-up is lost, and none is spurious.  The calls that interrupts, alarms and tasks make
  to notify a task are told one by one, those within a timer interrupt included, and a task that
  waits for events wakes up in the first of them that brings one of these.  A step that makes any
  calls does nothing else to tasks, so that what the calls bring about is there when it ends.
Main definitions: CallAt, Step.calls, Core.Trail, Core.ByCalls, Step.Consists, Step.FallsAsleep,
  Step.SleepsUntilAwaited
Main statements: `Step.Ready.consists`, `Step.Ready.trail`, `Step.Ready.sleepsUntilAwaited`,
  `Execution.asleep_until_awaited`
-/
import Rtos.Proofs.Refusal
import Rtos.Proofs.Sleep

namespace Rtos

/-! ### Calls -/

/-- A call of a service that is open to interrupts, and the kernel that it is made to. -/
structure CallAt (C : Type) where
  before : Kernel C
  call : InterruptCall

namespace CallAt

variable {C : Type} [Machine C]

/-- How the call ends. -/
def done (made : CallAt C) : Outcome (Kernel C) Unit := (Kernel.serve made.call).run made.before

/-- The kernel after the call. -/
def after (made : CallAt C) : Kernel C := made.done.state

/-- The events that the call delivers to a task: none if it is refused. -/
def delivered (task : TaskId) (made : CallAt C) : EventMask :=
  match made.call with
  | .setEvent target mask => if target = task ∧ made.done.result.isOk then mask else 0
  | .activateTask _ => 0

/-- The events that some calls deliver to a task. -/
def allDelivered (task : TaskId) (calls : List (CallAt C)) : EventMask :=
  calls.foldr (fun made events => made.delivered task ||| events) 0

@[simp] theorem allDelivered_nil (task : TaskId) :
    allDelivered task ([] : List (CallAt C)) = 0 := rfl

@[simp] theorem allDelivered_cons (task : TaskId) (made : CallAt C) (calls : List (CallAt C)) :
    allDelivered task (made :: calls) = made.delivered task ||| allDelivered task calls := rfl

@[simp] theorem allDelivered_append (task : TaskId) (early late : List (CallAt C)) :
    allDelivered task (early ++ late) = allDelivered task early ||| allDelivered task late := by
  induction early with
  | nil => simp
  | cons made early ih => simp [ih, UInt32.or_assoc]

end CallAt

namespace Kernel

variable {C : Type} [Machine C]

/-- The calls that the code of a callback makes, in their order. -/
def callsOfHandler (kernel : Kernel C) : Handler → List (CallAt C)
  | .done => []
  | .call request next =>
      let made : CallAt C := ⟨kernel, request⟩
      made :: callsOfHandler made.after (next made.done.result)
  | .note _ _ next => callsOfHandler kernel next

/-- The calls that an expired alarm leads to. -/
def callsOfAlarm (kernel : Kernel C) : AlarmAction → List (CallAt C)
  | .service request => [⟨kernel, request⟩]
  | .callback code => kernel.callsOfHandler code.body

/-- The calls that expired alarms lead to in turn. -/
def callsOfAlarms (kernel : Kernel C) : List AlarmAction → List (CallAt C)
  | [] => []
  | action :: rest =>
      kernel.callsOfAlarm action ++ callsOfAlarms ((runAlarm action).run kernel).state rest

/-- The calls that a timer interrupt leads to. -/
def callsOfTick (kernel : Kernel C) : List (CallAt C) :=
  let expired := (onAlarms AlarmTable.expire).run kernel
  match expired.result with
  | .ok due => expired.state.callsOfAlarms due
  | .error _ => []

end Kernel

/-- The request, if interrupts may make it as well. -/
def Request.call? : Request → Option InterruptCall
  | activateTask task => some (.activateTask task)
  | setEvent task mask => some (.setEvent task mask)
  | debug .. | declare .. | terminateTask | chainTask .. | getTaskId | getTaskState ..
  | getResource .. | releaseResource .. | clearEvent .. | getEvent .. | waitEvent ..
  | getAlarmBase .. | getAlarm .. | setRelAlarm .. | setAbsAlarm .. | cancelAlarm .. => none

/-- The calls that a step consists of, whoever makes them, in their order. -/
def Step.calls {C : Type} [Machine C] (step : Step C) : List (CallAt C) :=
  match step.operation with
  | .tick => step.before.callsOfTick
  | .interrupt call => [⟨step.before, call⟩]
  | .request .. | .trap .. =>
      (step.operation.request?.bind Request.call?).toList.map (CallAt.mk step.before)
  | .launch _ | .install _ | .dispatch _ | .switch _ => []

/-- The calls of the steps of an execution, oldest first. -/
def Execution.calls {C : Type} [Machine C] (steps : List (Step C)) : List (CallAt C) :=
  steps.reverse.flatMap Step.calls

/-! ### What a call does -/

namespace CallAt

variable {C : Type} [Machine C] {made : CallAt C} {task : TaskId} {mask flags : EventMask}

/-- The call comes down to one move, which starts what the call activates and delivers the same
events. -/
structure Moves (made : CallAt C) (move : Move) : Prop where
  allowed : move.Allowed made.before.core
  interrupt : move.isInterrupt
  core : made.after.core = move.apply made.before.core
  starts : ∀ task, move.activates? = some task →
    made.call = .activateTask task ∧ made.done.result = .ok ()
  delivered : ∀ task, made.delivered task = move.delivered task

/-- The call is refused, and delivers nothing. -/
structure Refused (made : CallAt C) : Prop where
  core : made.after.core = made.before.core
  delivered : ∀ task, made.delivered task = 0

theorem moves_of_makes {move : Move} (makes : made.before.Makes move () made.done)
    (interrupt : move.isInterrupt)
    (starts : ∀ task, move.activates? = some task → made.call = .activateTask task)
    (same : ∀ task, made.delivered task = move.delivered task) : made.Moves move where
  allowed := makes.allowed
  interrupt := interrupt
  core := congrArg Situation.core makes.situation
  starts := fun task target => ⟨starts task target, makes.result⟩
  delivered := same

theorem refused_of_refuses (refuses : made.before.Refuses made.done) : made.Refused := by
  obtain ⟨reason, done⟩ := refuses
  refine ⟨by rw [after, done], fun task => ?_⟩
  unfold delivered
  rw [done]
  cases made.call with
  | activateTask target => rfl
  | setEvent target events => exact if_neg fun both => nomatch both.2

/-- What a call that is not refused delivers. -/
theorem delivered_of_makes {before : Kernel C} {target : TaskId} {events : EventMask} {move : Move}
    (makes : before.Makes move () (CallAt.done ⟨before, .setEvent target events⟩)) (task : TaskId) :
    CallAt.delivered task ⟨before, .setEvent target events⟩ =
      if target = task then events else 0 := by
  simp [delivered, makes.result, Except.isOk, Except.toBool]

theorem moves_or_refused (sound : made.before.core.Sound) :
    (∃ move, made.Moves move) ∨ made.Refused := by
  obtain ⟨before, call⟩ := made
  cases call with
  | activateTask target =>
      rcases Kernel.activateTask_makes sound target with makes | refuses
      · refine .inl ⟨_, moves_of_makes makes rfl ?_ fun _ => rfl⟩
        rintro task ⟨⟩
        rfl
      · exact .inr (refused_of_refuses refuses)
  | setEvent target events =>
      rcases Kernel.setEvent_makes sound target events with makes | makes | refuses
      · exact .inl ⟨_, moves_of_makes makes rfl nofun (delivered_of_makes makes)⟩
      · exact .inl ⟨_, moves_of_makes makes rfl nofun (delivered_of_makes makes)⟩
      · exact .inr (refused_of_refuses refuses)

theorem sound_after (sound : made.before.core.Sound) : made.after.core.Sound :=
  (Kernel.serve_interrupts sound made.call).sound sound

/-- A call that brings nothing that a task waits for adds to its events and lets it sleep. -/
theorem asleep_after (sound : made.before.core.Sound)
    (asleep : made.before.core.Asleep task mask flags) (missed : made.delivered task &&& mask = 0) :
    made.after.core.Asleep task mask (flags ||| made.delivered task) := by
  rcases moves_or_refused sound with ⟨move, moves⟩ | refused
  · rw [moves.delivered] at missed
    rw [moves.core, moves.delivered]
    exact moves.allowed.asleep_apply sound asleep missed
  · rw [refused.core, refused.delivered, UInt32.or_zero]
    exact asleep

/-- A call that brings one of the awaited events wakes the task. -/
theorem woken_after (sound : made.before.core.Sound)
    (asleep : made.before.core.Asleep task mask flags) (hit : made.delivered task &&& mask ≠ 0) :
    made.after.core.Woken task (flags ||| made.delivered task) := by
  rcases moves_or_refused sound with ⟨move, moves⟩ | refused
  · rw [moves.delivered] at hit
    rw [moves.core, moves.delivered]
    exact moves.allowed.woken_apply sound asleep hit
  · rw [refused.delivered, UInt32.zero_and] at hit
    exact absurd rfl hit

/-- A call lets a task that is awake go on, and adds what it brings to the events of the task. -/
theorem stays_woken (sound : made.before.core.Sound) (woken : made.before.core.Woken task flags) :
    made.after.core.Woken task (flags ||| made.delivered task) := by
  rcases moves_or_refused sound with ⟨move, moves⟩ | refused
  · rw [moves.core, moves.delivered]
    exact moves.allowed.woken_kept sound moves.interrupt woken
  · rw [refused.core, refused.delivered, UInt32.or_zero]
    exact woken

end CallAt

/-! ### Between the calls -/

namespace Core

variable {C : Type} {first middle last : Core C} {task : TaskId} {mask flags : EventMask}

/-- The sleep of no task is disturbed. -/
structure LetsSleep (first last : Core C) : Prop where
  sound : first.Sound → last.Sound
  asleep : ∀ task mask flags, first.Asleep task mask flags → last.Asleep task mask flags

theorem Sound.letsSleep_switched (sound : first.Sound) (outgoing : C) :
    first.LetsSleep (first.switched outgoing) where
  sound := fun _ => sound.switched outgoing
  asleep := fun _ _ _ => (sound.asleep_switched_iff outgoing).mpr

variable [Machine C]

/-- A move that delivers no events wakes nobody who waits for some. -/
theorem letsSleep_apply {move : Move} (allowed : move.Allowed first) (sound : first.Sound)
    (silent : ∀ task, move.delivered task = 0) : first.LetsSleep (move.apply first) where
  sound := fun _ => allowed.sound sound
  asleep := by
    intro task mask flags asleep
    have after := allowed.asleep_apply sound asleep (by rw [silent, UInt32.zero_and])
    rwa [silent, UInt32.or_zero] at after

/-- The way from one core to another by way of some calls, with nothing in between that would
disturb a sleeping task. -/
inductive Trail : Core C → List (CallAt C) → Core C → Prop where
  | nil (core : Core C) : Trail core [] core
  | quiet {first middle last : Core C} {calls : List (CallAt C)} (lets : first.LetsSleep middle)
      (rest : Trail middle calls last) : Trail first calls last
  | call {made : CallAt C} {last : Core C} {calls : List (CallAt C)}
      (rest : Trail made.after.core calls last) : Trail made.before.core (made :: calls) last

namespace Trail

variable {calls early late : List (CallAt C)} {made : CallAt C}

theorem append (way : Trail first early middle) (rest : Trail middle late last) :
    Trail first (early ++ late) last := by
  induction way with
  | nil => exact rest
  | quiet lets _ ih => exact .quiet lets (ih rest)
  | call _ ih => exact .call (ih rest)

theorem of_letsSleep (lets : first.LetsSleep last) : Trail first [] last := .quiet lets (.nil last)

/-- The way leads past each of the calls. -/
theorem before_call (way : Trail first (early ++ made :: late) last) :
    Trail first early made.before.core := by
  generalize whole : early ++ made :: late = calls at way
  induction way generalizing early with
  | nil => simp at whole
  | quiet lets _ ih => exact .quiet lets (ih whole)
  | @call next last calls rest ih =>
      cases early with
      | nil =>
          obtain ⟨rfl, -⟩ := List.cons.inj whole
          exact .nil _
      | cons first early =>
          obtain ⟨rfl, later⟩ := List.cons.inj whole
          exact .call (ih later)

theorem sound (way : Trail first calls last) (sound : first.Sound) : last.Sound := by
  induction way with
  | nil => exact sound
  | quiet lets _ ih => exact ih (lets.sound sound)
  | call _ ih => exact ih (CallAt.sound_after sound)

/-- A task sleeps as long as nothing is delivered that it waits for, and has all that is
delivered. -/
theorem asleep (way : Trail first calls last) (sound : first.Sound)
    (asleep : first.Asleep task mask flags)
    (missed : ∀ made ∈ calls, made.delivered task &&& mask = 0) :
    last.Asleep task mask (flags ||| CallAt.allDelivered task calls) := by
  induction way generalizing flags with
  | nil => simpa using asleep
  | quiet lets _ ih => exact ih (lets.sound sound) (lets.asleep _ _ _ asleep) missed
  | call _ ih =>
      obtain ⟨now, later⟩ := List.forall_mem_cons.mp missed
      have after := ih (CallAt.sound_after sound) (CallAt.asleep_after sound asleep now) later
      rwa [CallAt.allDelivered_cons, ← UInt32.or_assoc]

end Trail

/-- The way from one core to another by nothing but some calls. -/
inductive ByCalls : Core C → List (CallAt C) → Core C → Prop where
  | nil (core : Core C) : ByCalls core [] core
  | call {made : CallAt C} {last : Core C} {calls : List (CallAt C)}
      (rest : ByCalls made.after.core calls last) : ByCalls made.before.core (made :: calls) last

namespace ByCalls

variable {calls early late : List (CallAt C)} {made : CallAt C}

theorem append (way : ByCalls first early middle) (rest : ByCalls middle late last) :
    ByCalls first (early ++ late) last := by
  induction way with
  | nil => exact rest
  | call _ ih => exact .call (ih rest)

theorem of_call (made : CallAt C) : ByCalls made.before.core [made] made.after.core :=
  .call (.nil _)

theorem trail (way : ByCalls first calls last) : Trail first calls last := by
  induction way with
  | nil => exact .nil _
  | call _ ih => exact .call ih

/-- The way goes on from each of the calls. -/
theorem after_call (way : ByCalls first (early ++ made :: late) last) :
    ByCalls made.after.core late last := by
  generalize whole : early ++ made :: late = calls at way
  induction way generalizing early with
  | nil => simp at whole
  | @call next last calls rest ih =>
      cases early with
      | nil =>
          obtain ⟨rfl, rfl⟩ := List.cons.inj whole
          exact rest
      | cons first early => exact ih (List.cons.inj whole).2

/-- A task that is awake stays so, and has all that is delivered. -/
theorem woken (way : ByCalls first calls last) (sound : first.Sound)
    (woken : first.Woken task flags) :
    last.Woken task (flags ||| CallAt.allDelivered task calls) := by
  induction way generalizing flags with
  | nil => simpa using woken
  | call _ ih =>
      have after := ih (CallAt.sound_after sound) (CallAt.stays_woken sound woken)
      rwa [CallAt.allDelivered_cons, ← UInt32.or_assoc]

end ByCalls

end Core

/-! ### Steps -/

namespace Kernel

variable {C : Type} [Machine C] {kernel : Kernel C}

theorem byCalls_runHandler (kernel : Kernel C) (tag : Nat) (handler : Handler) :
    Core.ByCalls kernel.core (kernel.callsOfHandler handler)
      ((runHandler tag handler).run kernel).state.core := by
  induction handler generalizing kernel with
  | done => exact .nil _
  | call request next ih =>
      unfold runHandler
      rw [Action.run_attempt_bind]
      dsimp only
      rw [Action.run_emit_bind]
      exact (Core.ByCalls.of_call ⟨kernel, request⟩).append (ih _ _)
  | note severity message next ih =>
      unfold runHandler
      rw [Action.run_log_bind]
      exact ih kernel

theorem byCalls_runAlarm (kernel : Kernel C) (action : AlarmAction) :
    Core.ByCalls kernel.core (kernel.callsOfAlarm action)
      ((runAlarm action).run kernel).state.core := by
  unfold runAlarm
  cases action with
  | service request =>
      have called := Core.ByCalls.of_call ⟨kernel, request⟩
      dsimp only
      rw [Action.run_attempt_bind]
      dsimp only
      cases ((serve request).run kernel).result <;> exact called
  | callback code =>
      dsimp only
      rw [Action.run_emit_bind]
      exact byCalls_runHandler kernel code.tag code.body

theorem byCalls_runAlarms (kernel : Kernel C) (actions : List AlarmAction) :
    Core.ByCalls kernel.core (kernel.callsOfAlarms actions)
      ((runAlarms actions).run kernel).state.core := by
  induction actions generalizing kernel with
  | nil => exact .nil _
  | cons action rest ih =>
      obtain ⟨_, ran⟩ := neverRefused_runAlarm action kernel
      unfold runAlarms
      rw [Action.run_bind, ran]
      exact (byCalls_runAlarm kernel action).append (ih _)

/-- All that a timer interrupt does to tasks, it does by calls. -/
theorem byCalls_tick (kernel : Kernel C) :
    Core.ByCalls kernel.core kernel.callsOfTick (tick.run kernel).state.core := by
  let due := kernel.alarms.dueIds.filterMap fun id => kernel.alarms.alarms[id]?.map (·.action)
  let expired := ((onAlarms AlarmTable.expire).run kernel).state
  have result : ((onAlarms AlarmTable.expire).run kernel).result = .ok due := by
    rw [onAlarms, Action.run_within, AlarmTable.run_expire]
  obtain ⟨_, ran⟩ := neverRefused_runAlarms due expired
  have calls : kernel.callsOfTick = expired.callsOfAlarms due := by
    unfold callsOfTick
    dsimp only
    rw [result]
  unfold tick
  rw [calls, Action.run_bind, result]
  dsimp only
  rw [Action.run_bind, ran]
  exact byCalls_runAlarms expired due

end Kernel

namespace Step

variable {C : Type} [Machine C] {step : Step C} {request : Request} {reply : Reply} {move : Move}

/-- The task on the CPU makes the request, and it is granted with this reply. -/
structure Granted (step : Step C) (request : Request) (reply : Reply) : Prop where
  asked : step.operation.request? = some request
  answer : ((Kernel.perform request).run step.before).result = .ok reply

/-- What a step does to tasks and resources: it carries out a switch, or it consists of its calls,
or it grants what only tasks may ask for. -/
inductive Consists (step : Step C) : Prop where
  | switch {outgoing : C} (switches : step.Switches outgoing) (uncalled : step.calls = [])
  | calls (way : Core.ByCalls step.before.core step.calls step.after.core)
  | request {request : Request} {reply : Reply} {move : Move} (served : step.Served request move)
      (answers : move.Answers request reply) (granted : step.Granted request reply)
      (reserved : request.call? = none) (uncalled : step.calls = [])

theorem consists_of_core_eq (uncalled : step.calls = [])
    (same : step.after.core = step.before.core) : step.Consists := by
  refine .calls ?_
  rw [uncalled, same]
  exact .nil _

theorem Ready.consists_of_outgoing? (ready : step.Ready) (switches : step.outgoing? ≠ none)
    (uncalled : step.calls = []) : step.Consists := by
  rcases ready.cases with ⟨outgoing, switched⟩ | ⟨moves, makes⟩
  · exact .switch switched uncalled
  · exact absurd makes.unasked switches

theorem calls_of_request? (asked : step.operation.request? = some request) :
    step.calls = request.call?.toList.map (CallAt.mk step.before) := by
  obtain ⟨before, operation⟩ := step
  unfold calls
  cases operation with
  | request | trap =>
      dsimp only
      rw [asked]
      rfl
  | _ => cases asked

/-- What a task asks for is either a call that interrupts may make as well, or it makes the move that
is due if it is granted. -/
theorem Ready.consists_of_request? (ready : step.Ready)
    (asked : step.operation.request? = some request) : step.Consists := by
  have caller : step.operation.isCaller := Operation.isCaller_of_request? asked
  have after := after_of_request? asked
  have calls := calls_of_request? asked
  cases called : request.call? with
  | some call =>
      have same : ((Kernel.perform request).run step.before).state =
          CallAt.after ⟨step.before, call⟩ := by
        cases request <;> cases called <;> exact Action.state_bind_pure _ _ _
      refine .calls ?_
      rw [calls, called, after, same]
      exact .of_call ⟨step.before, call⟩
  | none =>
      have uncalled : step.calls = [] := by rw [calls, called]; rfl
      rcases Kernel.perform_makes ready.sound (ready.chosen caller) request with
        effect | ⟨move, reply, answers, makes⟩
      · refine consists_of_core_eq uncalled ?_
        rw [after]
        exact congrArg Situation.core effect.moved.of_nil
      · have core : step.after.core = move.apply step.before.core := by
          rw [after]
          exact congrArg Situation.core makes.situation
        exact .request ⟨asked, answers.serves, makes.allowed, core⟩ answers ⟨asked, makes.result⟩
          called uncalled

/-- A trap that cannot be understood changes nothing. -/
theorem core_after_of_undecoded {before : Kernel C} {memory : Memory} {number : Nat}
    {words : Registers} {reason : Refusal}
    (undecoded : Request.decode memory number words = .error reason) :
    (after ⟨before, .trap memory number words⟩).core = before.core := by
  unfold after done Operation.perform
  dsimp only
  rw [Action.state_bind_pure, Kernel.run_handleTrap, Kernel.performTrap, undecoded]
  rfl

theorem Ready.consists (ready : step.Ready) : step.Consists := by
  obtain ⟨before, operation⟩ := step
  cases operation with
  | launch outgoing | switch outgoing => exact ready.consists_of_outgoing? nofun rfl
  | dispatch outgoing =>
      cases pending : before.line.pending with
      | true =>
          refine ready.consists_of_outgoing? ?_ rfl
          change (if before.line.pending then some outgoing else none) ≠ none
          rw [if_pos pending]
          nofun
      | false =>
          refine consists_of_core_eq rfl ?_
          rw [after, done, Operation.perform, Kernel.run_commitPending_of_not pending]
  | install heap => exact consists_of_core_eq rfl rfl
  | tick =>
      refine .calls ?_
      change Core.ByCalls before.core before.callsOfTick
        ((Kernel.tick >>= fun _ => pure none).run before).state.core
      rw [Action.state_bind_pure]
      exact Kernel.byCalls_tick before
  | interrupt call =>
      refine .calls ?_
      change Core.ByCalls before.core [⟨before, call⟩]
        ((Kernel.serve call >>= fun _ => pure none).run before).state.core
      rw [Action.state_bind_pure]
      exact .of_call ⟨before, call⟩
  | request request => exact ready.consists_of_request? rfl
  | trap memory number words =>
      cases decoded : Request.decode memory number words with
      | ok request =>
          have asked : Operation.request? (.trap memory number words : Operation C) =
              some request := congrArg Except.toOption decoded
          exact ready.consists_of_request? asked
      | error reason =>
          have unasked : Operation.request? (.trap memory number words : Operation C) = none :=
            congrArg Except.toOption decoded
          refine consists_of_core_eq ?_ (core_after_of_undecoded decoded)
          rw [calls, unasked]
          rfl

omit [Machine C] in
/-- What only tasks may ask for delivers no events. -/
theorem delivered_of_serves (serves : move.Serves request)
    (reserved : request.call? = none) (task : TaskId) : move.delivered task = 0 := by
  cases serves with
  | deliver | wake => cases reserved
  | _ => rfl

/-- As far as sleeping tasks are concerned, a step consists of its calls. -/
theorem Ready.trail (ready : step.Ready) :
    Core.Trail step.before.core step.calls step.after.core := by
  cases ready.consists with
  | switch switches uncalled =>
      rw [uncalled, switches.core]
      exact .of_letsSleep (ready.sound.letsSleep_switched _)
  | calls way => exact way.trail
  | request served answers granted reserved uncalled =>
      have silent := delivered_of_serves served.serves reserved
      rw [uncalled, served.core]
      exact .of_letsSleep (Core.letsSleep_apply served.allowed ready.sound silent)

/-- The task, which is on the CPU, asks to wait for the events of the mask and is blocked.  The
flags are the events that it has by then. -/
structure FallsAsleep (step : Step C) (task : TaskId) (mask flags : EventMask) : Prop where
  caller : step.before.current = task
  asked : step.operation.request? = some (.waitEvent mask)
  had : (step.before.sched.slot task).eventFlags = flags
  blocked : (step.after.sched.slot task).state = .waiting

/-- A task that waits for events falls asleep with the events that it had. -/
theorem Ready.asleep_of_fallsAsleep (ready : step.Ready) {task : TaskId} {mask flags : EventMask}
    (falls : step.FallsAsleep task mask flags) : step.after.core.Asleep task mask flags := by
  obtain ⟨rfl, asked, rfl, blocked⟩ := falls
  have chosen := ready.chosen (Operation.isCaller_of_request? asked)
  have runnable := ready.sound.current_runnable chosen
  have moving := TaskState.ne_waiting_of_isRunnable runnable
  have after : step.after = ((Kernel.waitEvent mask).run step.before).state := by
    rw [after_of_request? asked]
    exact Action.state_bind_pure _ _ _
  rcases Kernel.waitEvent_makes ready.sound chosen mask with makes | there | ⟨reason, refused⟩
  · have core : step.after.core = (Move.await mask).apply step.before.core := by
      rw [after]
      exact congrArg Situation.core makes.situation
    rw [core]
    exact makes.allowed.asleep_of_await ready.sound
  · rw [after, there] at blocked
    exact absurd blocked moving
  · rw [after, refused] at blocked
    exact absurd blocked moving

/-- How a step goes for a task that waits for the events of the mask, and has some others by then.
What the step does, if it consists of any calls, it does by these calls.  Through them the task
sleeps until one brings an awaited event, which wakes it up, and it goes on from there.  All the
while it has all that the calls have brought. -/
structure SleepsUntilAwaited (step : Step C) (task : TaskId) (mask had : EventMask) : Prop where
  asleep : step.before.core.Asleep task mask had
  way : step.calls ≠ [] → Core.ByCalls step.before.core step.calls step.after.core
  missed : (∀ made ∈ step.calls, made.delivered task &&& mask = 0) →
    step.after.core.Asleep task mask (had ||| CallAt.allDelivered task step.calls)
  awaited : ∀ (early late : List (CallAt C)) (made : CallAt C),
    step.calls = early ++ made :: late → (∀ past ∈ early, past.delivered task &&& mask = 0) →
      made.before.core.Asleep task mask (had ||| CallAt.allDelivered task early) ∧
        if made.delivered task &&& mask = 0 then
          made.after.core.Asleep task mask
            (had ||| CallAt.allDelivered task (early ++ [made]))
        else
          made.after.core.Woken task (had ||| CallAt.allDelivered task (early ++ [made])) ∧
            step.after.core.Woken task (had ||| CallAt.allDelivered task step.calls)

/-- A step that consists of any calls at all consists of these and nothing else. -/
theorem Ready.byCalls (ready : step.Ready) (called : step.calls ≠ []) :
    Core.ByCalls step.before.core step.calls step.after.core := by
  cases ready.consists with
  | switch switches uncalled => exact absurd uncalled called
  | calls way => exact way
  | request served answers granted reserved uncalled => exact absurd uncalled called

theorem Ready.sleepsUntilAwaited (ready : step.Ready) {task : TaskId} {mask had : EventMask}
    (asleep : step.before.core.Asleep task mask had) : step.SleepsUntilAwaited task mask had where
  asleep := asleep
  way := ready.byCalls
  missed := ready.trail.asleep ready.sound asleep
  awaited := by
    intro early late made split missed
    have way := ready.byCalls (by rw [split]; exact List.append_ne_nil_of_right_ne_nil _ nofun)
    rw [split] at way
    have reached := way.trail.before_call
    have sound := reached.sound ready.sound
    have still := reached.asleep ready.sound asleep missed
    have brought : had ||| CallAt.allDelivered task (early ++ [made]) =
        (had ||| CallAt.allDelivered task early) ||| made.delivered task := by
      simp [UInt32.or_assoc]
    refine ⟨still, ?_⟩
    rw [brought]
    split
    · rename_i miss
      exact CallAt.asleep_after sound still miss
    · rename_i hit
      have woken := CallAt.woken_after sound still hit
      have later := way.after_call.woken (CallAt.sound_after sound) woken
      refine ⟨woken, ?_⟩
      rw [split]
      simpa [UInt32.or_assoc] using later

end Step

namespace Execution

variable {C : Type} [Machine C] {admits : Step C → Prop} {config : Configuration}
  {later earlier : List (Step C)} {step : Step C} {kernel : Kernel C} {task : TaskId}
  {mask flags : EventMask}

/-- Whatever has happened to sleeping tasks since a step is told by the calls. -/
theorem trail (execution : Execution admits config (later ++ step :: earlier) kernel) :
    Core.Trail step.after.core (calls later) kernel.core := by
  induction later generalizing kernel with
  | nil =>
      obtain ⟨-, rfl⟩ := execution.latest
      exact .nil _
  | cons next rest ih =>
      obtain ⟨latest, rfl⟩ := execution.latest
      have together := (ih latest.earlier).append latest.ready.trail
      simpa [calls] using together

/-- A task that has fallen asleep, and the calls since. -/
theorem trail_of_fallsAsleep (execution : Execution admits config (later ++ step :: earlier) kernel)
    (falls : step.FallsAsleep task mask flags) :
    step.after.core.Sound ∧ step.after.core.Asleep task mask flags ∧
      Core.Trail step.after.core (calls later) kernel.core := by
  obtain ⟨_, latest⟩ := execution.exists_latest (List.mem_append_right _ List.mem_cons_self)
  exact ⟨latest.ready.core_sound, latest.ready.asleep_of_fallsAsleep falls, execution.trail⟩

/-- A task that asks for events and is blocked waits until the first of the calls since then that
brings one of these, whoever makes it, and is woken by that very call: it waits before every step up
to the one that makes this call, and is awake after that one.  All the while, and when it wakes up, it
has the events that it had before and all that the calls have brought. -/
theorem asleep_until_awaited
    (execution : Execution admits config (later ++ step :: earlier) kernel)
    (falls : step.FallsAsleep task mask flags) :
    ((∀ made ∈ calls later, made.delivered task &&& mask = 0) →
      kernel.core.Asleep task mask (flags ||| CallAt.allDelivered task (calls later))) ∧
    ∀ (after before : List (Step C)) (next : Step C), later = after ++ next :: before →
      (∀ past ∈ calls before, past.delivered task &&& mask = 0) →
        next.SleepsUntilAwaited task mask (flags ||| CallAt.allDelivered task (calls before)) := by
  obtain ⟨sound, asleep, way⟩ := execution.trail_of_fallsAsleep falls
  refine ⟨way.asleep sound asleep, ?_⟩
  rintro after before next rfl missed
  rw [List.append_assoc] at execution
  have latest := execution.latest_of_append
  obtain ⟨-, -, reached⟩ := latest.earlier.trail_of_fallsAsleep falls
  exact latest.ready.sleepsUntilAwaited (reached.asleep sound asleep missed)

/-- A counter that makes a count in every tick. -/
def everyTick : AlarmBase := { maxAllowedValue := 9, ticksPerBase := 1, minCycle := 1 }

/-- An alarm that notifies the task in slot 1 twice, by a callback. -/
def knocker : AlarmSpec :=
  { counter := 0, action := .callback ⟨1, .ofList [.setEvent 1 16, .setEvent 1 4]⟩ }

/-- An alarm that notifies the task in slot 1 by itself. -/
def ringer : AlarmSpec := { counter := 0, action := .service (.setEvent 1 32) }

/-- A pair of tasks, a counter, and both alarms. -/
def alarmClock : Configuration :=
  { Configuration.pair 2 with
    counters := [everyTick]
    alarms := [knocker, ringer] }

theorem built_alarmClock : alarmClock.Built := by
  have counting := (Configuration.built_pair 2).addCounter
    (show Configuration.addCounter _ everyTick = .ok (0, _) from rfl)
  have knocking := counting.addAlarm (show Configuration.addAlarm _ knocker = .ok (0, _) from rfl)
  exact knocking.addAlarm (show Configuration.addAlarm _ ringer = .ok (1, alarmClock) from rfl)

/-- Before the switch away from a task that has fallen asleep is carried out, an interrupt brings it
events that it does not wait for, and then both alarms expire in one tick. -/
def wokenInTime : List (Operation FrameIndex) :=
  [.launch ⟨0⟩, .request (.setEvent 1 1), .request (.setRelAlarm 0 0 0),
    .request (.setRelAlarm 1 0 0), .request (.waitEvent 6), .interrupt (.setEvent 1 8), .tick]

/-- The callback wakes the task in the middle of the tick. -/
theorem asleep_until_woken_in_time :
    ∃ (earlier : List (Step FrameIndex)) (step knock ring : Step FrameIndex)
        (kernel : Kernel FrameIndex) (missed made more : CallAt FrameIndex),
      Execution (fun _ => True) alarmClock ([ring, knock] ++ step :: earlier) kernel ∧
        step.FallsAsleep 1 6 1 ∧ ring.operation = .tick ∧ ring.before.line.pending ∧
        ring.before.current = 1 ∧ ring.calls = [missed, made, more] ∧
        missed.delivered 1 = 16 ∧ made.delivered 1 = 4 ∧ more.delivered 1 = 32 ∧
        ring.before.core.Asleep 1 6 9 ∧ made.before.core.Asleep 1 6 25 ∧
        made.after.core.Woken 1 29 ∧ ring.after.core.Woken 1 61 := by
  let booted : Kernel FrameIndex := booted alarmClock Hosted.console
  have execution : Execution (fun _ => True) alarmClock (replay booted [] wokenInTime)
      (reached booted wokenInTime) :=
    of_replay built_alarmClock (by decide +kernel) (by decide +kernel) (by decide +kernel)
  have split : ∃ earlier step knock ring,
      replay booted [] wokenInTime = [ring, knock] ++ step :: earlier ∧ step.FallsAsleep 1 6 1 ∧
        calls [knock] = [⟨knock.before, .setEvent 1 8⟩] ∧ ring.operation = .tick ∧
        CallAt.delivered 1 ⟨knock.before, .setEvent 1 8⟩ = 8 ∧ ring.before.line.pending ∧
        ring.before.current = 1 ∧ ring.calls.map (CallAt.delivered 1) = [16, 4, 32] :=
    ⟨_, _, _, _, rfl, ⟨by decide +kernel, rfl, by decide +kernel, by decide +kernel⟩, rfl, rfl,
      by decide +kernel, by decide +kernel, by decide +kernel, by decide +kernel⟩
  obtain ⟨earlier, step, knock, ring, same, falls, knocks, tick, knocked, pending, current,
    brings⟩ := split
  rw [same] at execution
  obtain ⟨missed, rest, ringing, first, others⟩ := List.map_eq_cons_iff.mp brings
  obtain ⟨made, rest, rfl, second, others⟩ := List.map_eq_cons_iff.mp others
  obtain ⟨more, rest, rfl, third, others⟩ := List.map_eq_cons_iff.mp others
  obtain rfl := List.map_eq_nil_iff.mp others
  obtain ⟨-, course⟩ := execution.asleep_until_awaited falls
  have missing : ∀ past ∈ calls [knock], past.delivered 1 &&& 6 = 0 := by
    intro past member
    rw [knocks] at member
    rw [List.mem_singleton.mp member, knocked]
    decide
  have goes := course [] [knock] ring rfl missing
  rw [knocks, CallAt.allDelivered_cons, knocked] at goes
  obtain ⟨asleep, woken⟩ := goes.awaited [missed] [more] made ringing (by
    intro past member
    rw [List.mem_singleton.mp member, first]
    decide)
  rw [if_neg (by rw [second]; decide)] at woken
  simp only [ringing, CallAt.allDelivered_append, CallAt.allDelivered_cons,
    CallAt.allDelivered_nil, first, second, third] at asleep woken
  exact ⟨earlier, step, knock, ring, _, missed, made, more, execution, falls, tick, pending,
    current, ringing, first, second, third, goes.asleep, asleep, woken⟩

end Execution

end Rtos
