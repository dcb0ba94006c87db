/-
Module: Rtos.Proofs.Execution
Purpose: Executions of a kernel under the discipline of its machine: it is launched first, and a
  task makes calls only while no switch is pending.  Interrupts, ticks and switches come at any
  moment.
Main definitions: Operation, Step, Step.Ready, Execution, Execution.replay
Main statements: `Step.Ready.cases`, `Execution.invariant`, `Execution.of_replay`
-/
import Rtos.Hosted
import Rtos.Proofs.Boot
import Rtos.Proofs.Effects

namespace Rtos

/-- What a machine does with a kernel that has booted. -/
inductive Operation (C : Type) where
  /-- Ask for the first switch and carry it out. -/
  | launch (outgoing : C)
  /-- Install the source of stacks. -/
  | install (heap : StackSource)
  | tick
  /-- An interrupt handler asks for a service. -/
  | interrupt (call : InterruptCall)
  /-- Carry out the switch that was asked for, if any. -/
  | dispatch (outgoing : C)
  /-- Carry out a switch, whether or not one was asked for. -/
  | switch (outgoing : C)
  /-- The task on the CPU asks for a service. -/
  | request (request : Request)
  /-- The task on the CPU traps. -/
  | trap (memory : Memory) (number : Nat) (words : Registers)

namespace Operation

variable {C : Type}

/-- The operation on the kernel.  It answers with the handle to restore where a switch was carried
out. -/
def perform [Machine C] : Operation C → Action (Kernel C) (Option C)
  | launch outgoing => do
      Action.modify Kernel.requestSwitch
      Kernel.commitPending outgoing
  | install heap => do
      Action.modify (Kernel.setHeap heap)
      pure none
  | tick => do
      Kernel.tick
      pure none
  | interrupt call => do
      Kernel.serve call
      pure none
  | dispatch outgoing => Kernel.commitPending outgoing
  | switch outgoing => do
      let restored ← Kernel.switchContext outgoing
      pure (some restored)
  | request asked => do
      let _ ← Kernel.perform asked
      pure none
  | trap memory number words => do
      let _ ← Kernel.handleTrap memory number words
      pure none

/-- What the task on the CPU asks for, if the operation is its doing and can be understood. -/
def request? : Operation C → Option Request
  | request asked => some asked
  | trap memory number words => (Request.decode memory number words).toOption
  | launch _ | install _ | tick | interrupt _ | dispatch _ | switch _ => none

/-- The operation is the doing of the task on the CPU. -/
def isCaller : Operation C → Bool
  | request _ | trap .. => true
  | launch _ | install _ | tick | interrupt _ | dispatch _ | switch _ => false

theorem isCaller_of_request? {operation : Operation C} {asked : Request}
    (request : operation.request? = some asked) : operation.isCaller := by
  cases operation with
  | request | trap => rfl
  | _ => cases request

/-- The operation lets the first task run. -/
def isLaunch : Operation C → Bool
  | launch _ => true
  | install _ | tick | interrupt _ | dispatch _ | switch _ | request _ | trap .. => false

end Operation

/-- An operation and the kernel that it is performed on. -/
structure Step (C : Type) where
  before : Kernel C
  operation : Operation C

namespace Step

variable {C : Type} [Machine C]

/-- How the operation ends. -/
def done (step : Step C) : Outcome (Kernel C) (Option C) := step.operation.perform.run step.before

/-- The kernel after the operation. -/
def after (step : Step C) : Kernel C := step.done.state

/-- The handle that the machine is told to restore, where a switch is carried out. -/
def restored? (step : Step C) : Option C :=
  match step.done.result with
  | .ok restored => restored
  | .error _ => none

omit [Machine C] in
/-- The handle that is given to the switch that the operation carries out, if any. -/
def outgoing? (step : Step C) : Option C :=
  match step.operation with
  | .launch outgoing | .switch outgoing => some outgoing
  | .dispatch outgoing => if step.before.line.pending then some outgoing else none
  | .install _ | .tick | .interrupt _ | .request _ | .trap .. => none

end Step

/-! ### The kernel in an ordinary process -/

namespace Hosted

variable (host : Hosted)

/-- Carrying out a pending switch is a step of the kernel.  What it restores is handed in by the
next one. -/
theorem state_dispatchPending :
    let step : Step FrameIndex := ⟨host.kernel, .dispatch (host.onCpu.getD noContext)⟩
    (dispatchPending.run host).state =
      { kernel := step.after, onCpu := step.restored?.or host.onCpu } := by
  dsimp only
  unfold Step.after Step.restored? Step.done Operation.perform dispatchPending
  rw [Action.run_get_bind, Action.run_bind, onKernel, Action.run_within]
  rcases (Kernel.commitPending (host.onCpu.getD noContext)).run host.kernel with
    ⟨_ | _ | _, _, _⟩ <;> rfl

/-- The launch is a step of the kernel. -/
theorem state_launch :
    let step : Step FrameIndex := ⟨host.kernel, .launch (host.onCpu.getD noContext)⟩
    (launch.run host).state =
      { kernel := step.after, onCpu := step.restored?.or host.onCpu } := by
  let asked : Hosted := { host with kernel := host.kernel.requestSwitch }
  have first : (onKernel (Action.modify Kernel.requestSwitch)).run host = ⟨.ok (), asked, []⟩ := rfl
  have second := state_dispatchPending asked
  have same : Step.done ⟨host.kernel, .launch (host.onCpu.getD noContext)⟩ =
      Step.done ⟨asked.kernel, .dispatch (asked.onCpu.getD noContext)⟩ := Action.run_modify_bind ..
  dsimp only
  unfold Step.after Step.restored? launch
  rw [same, Action.run_bind_of_ok first, Action.run_bind]
  cases (dispatchPending.run asked).result <;> exact second

end Hosted

/-- The steps that a kernel of a configuration has gone through since it booted, latest first, and
where they led.  Every step is one that `admits` lets pass. -/
inductive Execution {C : Type} [Machine C] (admits : Step C → Prop) (config : Configuration) :
    List (Step C) → Kernel C → Prop where
  | boot {console : Console} {kernel : Kernel C} {seen : Trace} (built : config.Built)
      (booted : Kernel.boot config console = .ok (kernel, seen)) (heap : Option StackSource) :
      Execution admits config [] { kernel with heap }
  | step {steps : List (Step C)} {kernel : Kernel C} {operation : Operation C}
      (earlier : Execution admits config steps kernel)
      (launched : steps = [] → operation.isLaunch)
      (idle : operation.isCaller → kernel.line.pending = false)
      (admitted : admits ⟨kernel, operation⟩) :
      Execution admits config (⟨kernel, operation⟩ :: steps) (Step.after ⟨kernel, operation⟩)

/-! ### Switches -/

namespace Kernel

variable {C : Type} {kernel : Kernel C}

/-- A sound kernel commits its decision. -/
theorem run_switchContext (sound : kernel.core.Sound) (outgoing : C) :
    (switchContext outgoing).run kernel =
      ⟨.ok (kernel.core.sched.restored outgoing),
        { kernel with core := kernel.core.switched outgoing }, []⟩ :=
  run_onScheduler (Scheduler.run_switchContext sound.steady sound.selected_active)

theorem run_commitPending (sound : kernel.core.Sound) (pending : kernel.line.pending)
    (outgoing : C) :
    (commitPending outgoing).run kernel =
      ⟨.ok (some (kernel.core.sched.restored outgoing)),
        { kernel with core := kernel.core.switched outgoing, line := kernel.line.take }, []⟩ := by
  unfold commitPending
  rw [Action.run_get_bind, if_pos pending, Action.run_modify_bind]
  let taken : Kernel C := { kernel with line := kernel.line.take }
  have switched := run_switchContext (show taken.core.Sound from sound) outgoing
  rw [Action.run_bind_of_ok switched]
  rfl

theorem run_commitPending_of_not (idle : kernel.line.pending = false) (outgoing : C) :
    (commitPending outgoing).run kernel = ⟨.ok none, kernel, []⟩ := by
  unfold commitPending
  rw [Action.run_get_bind, if_neg (by rw [idle]; exact Bool.false_ne_true)]
  rfl

end Kernel

namespace Step

variable {C : Type} [Machine C] {step : Step C}

omit [Machine C] in
/-- The step is taken where tasks and resources are sound, and by a task only if that is the chosen
one. -/
structure Ready (step : Step C) : Prop where
  sound : step.before.core.Sound
  chosen : step.operation.isCaller →
    step.before.core.sched.selected = step.before.core.sched.current

/-- The operation carries out a switch. -/
structure Switches (step : Step C) (outgoing : C) : Prop where
  asked : step.outgoing? = some outgoing
  core : step.after.core = step.before.core.switched outgoing
  restored : step.restored? = some (step.before.core.sched.restored outgoing)
  silent : step.done.trace = []

/-- A switch puts the chosen task on the CPU. -/
theorem Switches.current_after {outgoing : C} (switches : step.Switches outgoing) :
    step.after.current = step.before.core.sched.selected := by
  rw [Kernel.current, Kernel.sched, switches.core]
  exact Scheduler.current_switched

/-- An operation that ends in a committed decision. -/
theorem switches_of_done {before : Kernel C} {operation : Operation C} {outgoing : C}
    {line : SwitchLine} (asked : Step.outgoing? ⟨before, operation⟩ = some outgoing)
    (done : Step.done ⟨before, operation⟩ =
      ⟨.ok (some (before.core.sched.restored outgoing)),
        { before with core := before.core.switched outgoing, line }, []⟩) :
    Switches ⟨before, operation⟩ outgoing where
  asked := asked
  core := by rw [after, done]
  restored := by rw [restored?, done]
  silent := by rw [done]

/-- The operation comes down to some moves. -/
structure Makes (step : Step C) (moves : List Move) : Prop where
  unasked : step.outgoing? = none
  effect : step.before.Effect moves step.done
  /-- Interrupts start and notify tasks; anything else is the one thing that a task asks for. -/
  maker : (∀ move ∈ moves, move.isInterrupt) ∨
    ∃ request move, step.operation.request? = some request ∧ moves = [move] ∧ move.Serves request

theorem Makes.of_singleton {move : Move} (makes : step.Makes [move]) :
    move.Allowed step.before.core ∧ step.after.core = move.apply step.before.core := by
  cases makes.effect.moved with
  | cons allowed rest => exact ⟨allowed, congrArg Situation.core rest.of_nil⟩

/-- An operation that does no more than some moves. -/
theorem makes_of_bind {α : Type} {before : Kernel C} {operation : Operation C}
    {action : Action (Kernel C) α} {moves : List Move}
    (performs : operation.perform = action >>= fun _ => pure none)
    (unasked : Step.outgoing? ⟨before, operation⟩ = none)
    (effect : before.Effect moves (action.run before))
    (maker : (∀ move ∈ moves, move.isInterrupt) ∨ ∃ request move,
      operation.request? = some request ∧ moves = [move] ∧ move.Serves request) :
    Makes ⟨before, operation⟩ moves where
  unasked := unasked
  effect := by
    rw [done, performs]
    exact effect.bind_pure fun _ => none
  maker := maker

omit [Machine C] in
theorem maker_of_option {operation : Operation C} {move? : Option Move}
    (serves : ∀ move ∈ move?, ∃ request, operation.request? = some request ∧ move.Serves request) :
    (∀ move ∈ move?.toList, move.isInterrupt) ∨ ∃ request move,
      operation.request? = some request ∧ move?.toList = [move] ∧ move.Serves request := by
  cases move? with
  | none => exact .inl fun _ => nofun
  | some move =>
      obtain ⟨request, asked, serves⟩ := serves move rfl
      exact .inr ⟨request, move, asked, rfl, serves⟩

/-- Every operation carries out a switch or comes down to some moves. -/
theorem Ready.cases (ready : step.Ready) :
    (∃ outgoing, step.Switches outgoing) ∨ ∃ moves, step.Makes moves := by
  obtain ⟨sound, chosen⟩ := ready
  obtain ⟨before, operation⟩ := step
  cases operation with
  | launch outgoing =>
      have done : Step.done ⟨before, .launch outgoing⟩ =
          ⟨.ok (some (before.core.sched.restored outgoing)),
            { before with
              core := before.core.switched outgoing
              line := before.requestSwitch.line.take }, []⟩ :=
        Kernel.run_commitPending (show before.requestSwitch.core.Sound from sound) rfl outgoing
      exact .inl ⟨outgoing, switches_of_done rfl done⟩
  | install heap =>
      exact .inr ⟨[], makes_of_bind rfl rfl (Kernel.effect_nil rfl rfl) (.inl fun _ => nofun)⟩
  | tick =>
      obtain ⟨moves, effect, each⟩ := Kernel.tick_interrupts sound
      exact .inr ⟨moves, makes_of_bind rfl rfl effect (.inl each)⟩
  | interrupt call =>
      obtain ⟨moves, effect, each⟩ := Kernel.serve_interrupts sound call
      exact .inr ⟨moves, makes_of_bind rfl rfl effect (.inl each)⟩
  | dispatch outgoing =>
      cases pending : before.line.pending with
      | true =>
          have done := Kernel.run_commitPending sound pending outgoing
          refine .inl ⟨outgoing, switches_of_done ?_ done⟩
          exact if_pos pending
      | false =>
          have done := Kernel.run_commitPending_of_not pending outgoing
          refine .inr ⟨[], ⟨?_, ?_, .inl fun _ => nofun⟩⟩
          · exact if_neg (by rw [pending]; exact Bool.false_ne_true)
          · rw [Step.done, Operation.perform, done]
            exact Kernel.effect_nil rfl rfl
  | switch outgoing =>
      have switched := Kernel.run_switchContext sound outgoing
      refine .inl ⟨outgoing, switches_of_done rfl ((Action.run_bind_of_ok switched _).trans rfl)⟩
  | request request =>
      obtain ⟨move?, serves, effect⟩ := Kernel.perform_effect sound (chosen rfl) request
      refine .inr ⟨move?.toList, makes_of_bind rfl rfl effect (maker_of_option ?_)⟩
      exact fun move member => ⟨request, rfl, serves move member⟩
  | trap memory number words =>
      obtain ⟨move?, serves, effect⟩ :=
        Kernel.handleTrap_effect sound (chosen rfl) memory number words
      exact .inr ⟨move?.toList, makes_of_bind rfl rfl effect (maker_of_option serves)⟩

/-- What the task on the CPU asks for is performed, whether it traps for that or not. -/
theorem after_of_request? {request : Request} (asked : step.operation.request? = some request) :
    step.after = ((Kernel.perform request).run step.before).state := by
  obtain ⟨before, operation⟩ := step
  unfold Step.after Step.done Operation.perform
  cases operation with
  | request other =>
      cases asked
      dsimp only
      rw [Action.state_bind_pure]
  | trap memory number words =>
      change (Request.decode memory number words).toOption = some request at asked
      cases decoded : Request.decode memory number words with
      | error reason =>
          rw [decoded] at asked
          cases asked
      | ok found =>
          rw [decoded] at asked
          cases asked
          dsimp only
          rw [Action.state_bind_pure, Kernel.run_handleTrap, Kernel.performTrap, decoded,
            Action.run_ok_bind]
  | _ => cases asked

/-- What the switch keeps, and every move that an interrupt or the caller may make, the step keeps.
Interrupts make several moves in a row, a caller makes one. -/
theorem Ready.preserves (ready : step.Ready) (property : Core C → Prop)
    (switched : ∀ outgoing, property (step.before.core.switched outgoing))
    (interrupted : ∀ (core : Core C) (move : Move), core.Sound → move.Allowed core →
      move.isInterrupt → property core → property (move.apply core))
    (served : ∀ (request : Request) (move : Move), step.operation.request? = some request →
      move.Serves request → move.Allowed step.before.core →
      step.after.core = move.apply step.before.core → property (move.apply step.before.core))
    (holds : property step.before.core) : property step.after.core := by
  rcases ready.cases with ⟨outgoing, switches⟩ | ⟨moves, makes⟩
  · rw [switches.core]
    exact switched outgoing
  · rcases makes.maker with each | ⟨request, move, asked, rfl, serves⟩
    · exact makes.effect.moved.preserves interrupted each ready.sound holds
    · obtain ⟨allowed, last⟩ := makes.of_singleton
      rw [last]
      exact served request move asked serves allowed last

/-- Every operation keeps tasks and resources sound. -/
theorem Ready.core_sound (ready : step.Ready) : step.after.core.Sound := by
  have sound := ready.sound
  rcases ready.cases with ⟨outgoing, switches⟩ | ⟨moves, makes⟩
  · rw [switches.core]
    exact sound.switched outgoing
  · exact makes.effect.moved.core_sound sound

/-- Once a kernel is launched, no operation loses a switch. -/
theorem Ready.situation_sound (ready : step.Ready)
    (settled : step.operation.isLaunch ∨ step.before.situation.Sound) :
    step.after.situation.Sound := by
  rcases ready.cases with ⟨outgoing, switches⟩ | ⟨moves, makes⟩
  · refine ⟨ready.core_sound, fun _ => ?_⟩
    change step.after.core.Settled
    rw [switches.core]
    exact Core.settled_switched ready.sound.selected_lt outgoing
  · rcases settled with launch | settled
    · have unasked := makes.unasked
      unfold outgoing? at unasked
      cases operation : step.operation <;> simp_all [Operation.isLaunch]
    · exact makes.effect.moved.sound settled

end Step

namespace Execution

variable {C : Type} [Machine C] {admits : Step C → Prop} {config : Configuration}
  {steps : List (Step C)} {kernel : Kernel C}

omit [Machine C] in
/-- A kernel is launched before anything else. -/
theorem launch_or_settled {operation : Operation C} (launched : steps = [] → operation.isLaunch)
    (settled : steps ≠ [] → kernel.situation.Sound) :
    operation.isLaunch ∨ kernel.situation.Sound := by
  cases steps with
  | nil => exact .inl (launched rfl)
  | cons _ _ => exact .inr (settled nofun)

omit [Machine C] in
/-- The discipline of the machine: a task acts while no switch is pending, and so is the chosen
one. -/
theorem ready_of_idle {operation : Operation C} (sound : kernel.core.Sound)
    (settled : operation.isLaunch ∨ kernel.situation.Sound)
    (idle : operation.isCaller → kernel.line.pending = false) :
    Step.Ready ⟨kernel, operation⟩ := by
  refine ⟨sound, fun caller => ?_⟩
  rcases settled with launch | situation
  · cases operation <;> simp_all [Operation.isLaunch, Operation.isCaller]
  · exact (situation.settled (idle caller)).1

/-- The invariants of an execution: tasks and resources are sound, and from the launch on no switch
is lost. -/
theorem invariant (execution : Execution admits config steps kernel) :
    kernel.core.Sound ∧ (steps ≠ [] → kernel.situation.Sound) := by
  induction execution with
  | boot built booted heap =>
      have sound := Kernel.boot_sound built booted
      exact ⟨sound, fun none => absurd rfl none⟩
  | step earlier launched idle admitted ih =>
      obtain ⟨sound, settled⟩ := ih
      have settled := launch_or_settled launched settled
      have ready := ready_of_idle sound settled idle
      exact ⟨ready.core_sound, fun _ => ready.situation_sound settled⟩

theorem core_sound (execution : Execution admits config steps kernel) : kernel.core.Sound :=
  execution.invariant.1

/-- The latest step of an execution. -/
structure Latest (admits : Step C → Prop) (config : Configuration) (steps : List (Step C))
    (step : Step C) : Prop where
  earlier : Execution admits config steps step.before
  admitted : admits step
  ready : step.Ready

theorem latest {step : Step C} (execution : Execution admits config (step :: steps) kernel) :
    Latest admits config steps step ∧ kernel = step.after := by
  cases execution with
  | step earlier launched idle admitted =>
      obtain ⟨sound, settled⟩ := earlier.invariant
      have ready := ready_of_idle sound (launch_or_settled launched settled) idle
      exact ⟨⟨earlier, admitted, ready⟩, rfl⟩

/-- Every step was once the latest, with the same steps before it. -/
theorem latest_of_append {later earlier : List (Step C)} {step : Step C}
    (execution : Execution admits config (later ++ step :: earlier) kernel) :
    Latest admits config earlier step := by
  induction later generalizing kernel with
  | nil => exact execution.latest.1
  | cons next rest ih => exact ih execution.latest.1.earlier

theorem exists_latest {step : Step C} (execution : Execution admits config steps kernel)
    (member : step ∈ steps) : ∃ earlier, Latest admits config earlier step := by
  obtain ⟨later, earlier, rfl⟩ := List.append_of_mem member
  exact ⟨earlier, execution.latest_of_append⟩

omit [Machine C] in
/-- The states that an execution goes through, latest first. -/
def visited (steps : List (Step C)) (kernel : Kernel C) : List (Kernel C) :=
  kernel :: steps.map Step.before

omit [Machine C] in
theorem forall_visited {property : Kernel C → Prop} :
    (∀ state ∈ visited steps kernel, property state) ↔
      property kernel ∧ ∀ step ∈ steps, property step.before := by
  simp only [visited, List.forall_mem_cons, List.forall_mem_map]

/-- Tasks and resources are sound in all states that an execution goes through. -/
theorem sound_of_visited (execution : Execution admits config steps kernel) {state : Kernel C}
    (visited : state ∈ visited steps kernel) : state.core.Sound := by
  rcases List.mem_cons.mp visited with rfl | before
  · exact execution.core_sound
  · obtain ⟨step, member, rfl⟩ := List.mem_map.mp before
    obtain ⟨_, latest⟩ := execution.exists_latest member
    exact latest.ready.sound

/-! ### Executions that can be computed -/

/-- The steps of performing operations in turn after some earlier steps, latest first. -/
def replay (kernel : Kernel C) (steps : List (Step C)) : List (Operation C) → List (Step C)
  | [] => steps
  | operation :: rest => replay (Step.after ⟨kernel, operation⟩) (⟨kernel, operation⟩ :: steps) rest

/-- Where performing operations in turn leads. -/
def reached (kernel : Kernel C) : List (Operation C) → Kernel C
  | [] => kernel
  | operation :: rest => reached (Step.after ⟨kernel, operation⟩) rest

/-- Operations that keep the discipline, performed in turn: a task makes calls only while no switch
is pending. -/
def Disciplined (admits : Step C → Prop) (kernel : Kernel C) : List (Operation C) → Prop
  | [] => True
  | operation :: rest =>
      (operation.isCaller → kernel.line.pending = false) ∧ admits ⟨kernel, operation⟩ ∧
        Disciplined admits (Step.after ⟨kernel, operation⟩) rest

/-- The discipline can be tested along any sequence of operations. -/
instance decidableDisciplined [∀ step : Step C, Decidable (admits step)] (kernel : Kernel C) :
    (operations : List (Operation C)) → Decidable (Disciplined admits kernel operations)
  | [] => inferInstanceAs (Decidable True)
  | operation :: rest =>
      have := decidableDisciplined (Step.after ⟨kernel, operation⟩) rest
      inferInstanceAs (Decidable ((operation.isCaller → kernel.line.pending = false) ∧
        admits ⟨kernel, operation⟩ ∧
          Disciplined admits (Step.after ⟨kernel, operation⟩) rest))

/-- Operations that keep the discipline continue an execution. -/
theorem continued (execution : Execution admits config steps kernel)
    {operations : List (Operation C)}
    (launched : steps = [] → ∀ operation ∈ operations.head?, operation.isLaunch)
    (disciplined : Disciplined admits kernel operations) :
    Execution admits config (replay kernel steps operations) (reached kernel operations) := by
  induction operations generalizing kernel steps with
  | nil => exact execution
  | cons operation rest ih =>
      obtain ⟨idle, admitted, disciplined⟩ := disciplined
      have next := execution.step (fun first => launched first operation rfl) idle admitted
      exact ih next (fun none => by cases none) disciplined

/-- The kernel that a configuration boots into, or a blank one if it does not. -/
def booted (config : Configuration) (console : Console) : Kernel C :=
  match Kernel.boot config console with
  | .ok (kernel, _) => kernel
  | .error _ => { console }

theorem boot_booted {console : Console}
    (boots : (Kernel.boot config console : Except Refusal (Kernel C × Trace)).isOk) :
    ∃ seen, Kernel.boot config console = .ok ((booted config console : Kernel C), seen) := by
  unfold booted
  cases done : (Kernel.boot config console : Except Refusal (Kernel C × Trace)) with
  | error reason =>
      rw [done] at boots
      cases boots
  | ok result => exact ⟨result.2, rfl⟩

/-- A disciplined sequence of operations on a configuration that boots is an execution. -/
theorem of_replay (built : config.Built) {console : Console}
    (boots : (Kernel.boot config console : Except Refusal (Kernel C × Trace)).isOk)
    {operations : List (Operation C)}
    (launched : ∀ operation ∈ operations.head?, operation.isLaunch)
    (disciplined : Disciplined admits (booted config console) operations) :
    Execution admits config (replay (booted config console) [] operations)
      (reached (booted config console) operations) := by
  obtain ⟨seen, done⟩ := boot_booted boots
  have start : Execution admits config [] (booted config console : Kernel C) :=
    .boot built done (booted config console).heap
  exact start.continued (fun _ => launched) disciplined

end Execution

namespace Configuration

/-- A task with the smallest stack and a given urgency. -/
def plainTask (priority : Priority) (autostart : Bool) : TaskSpec :=
  { priority, image := { entry := 0x400, argument := 0, stack := Stack.zeros minStackWords },
    autostart }

/-- The idle task, a task of priority 5 that starts with the kernel, a suspended task of priority 2,
and a resource. -/
def pair (ceiling : Priority) : Configuration :=
  { tasks := [plainTask leastUrgent false, plainTask 5 true, plainTask 2 false]
    ceilings := [ceiling] }

theorem built_pair (ceiling : Priority) : (pair ceiling).Built :=
  ((Built.new (plainTask leastUrgent false)).addTask rfl).addTask rfl |>.addResource rfl

end Configuration

namespace Execution

/-- The steps of performing operations on a pair of tasks. -/
def pairSteps (ceiling : Priority) : List (Operation FrameIndex) → List (Step FrameIndex) :=
  replay (booted (Configuration.pair ceiling) Hosted.console) []

/-- Where performing operations on a pair of tasks leads. -/
def pairReached (ceiling : Priority) : List (Operation FrameIndex) → Kernel FrameIndex :=
  reached (booted (Configuration.pair ceiling) Hosted.console)

theorem of_pair {admits : Step FrameIndex → Prop} {ceiling : Priority}
    {operations : List (Operation FrameIndex)}
    (boots : (Kernel.boot (Configuration.pair ceiling) Hosted.console :
      Except Refusal (Kernel FrameIndex × Trace)).isOk)
    (launched : ∀ operation ∈ operations.head?, operation.isLaunch)
    (disciplined : Disciplined admits (pairReached ceiling []) operations) :
    Execution admits (Configuration.pair ceiling) (pairSteps ceiling operations)
      (pairReached ceiling operations) :=
  of_replay (Configuration.built_pair ceiling) boots launched disciplined

end Execution

end Rtos
