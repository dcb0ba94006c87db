/-
Module: Rtos.Proofs.Effects
Purpose: Runs of moves.  A request makes one move at most, and an interrupt, with all the handlers
  that it runs, makes a run of moves that only start and notify tasks.
Main definitions: Moved, Kernel.Effect, Kernel.Interrupts, Move.Serves
Main statements: `Kernel.tick_interrupts`, `Kernel.perform_effect`
-/
import Rtos.Kernel.Tick
import Rtos.Trap
import Rtos.Proofs.AlarmTable
import Rtos.Proofs.Services

namespace Rtos

/-- One allowed move after another. -/
inductive Moved {C : Type} [Machine C] : Situation C → List Move → Situation C → Prop where
  | nil (situation : Situation C) : Moved situation [] situation
  | cons {first last : Situation C} {move : Move} {moves : List Move}
      (allowed : move.Allowed first.core) (rest : Moved (first.make move) moves last) :
      Moved first (move :: moves) last

namespace Moved

variable {C : Type} [Machine C] {first middle last : Situation C} {moves later : List Move}

theorem append (early : Moved first moves middle) (late : Moved middle later last) :
    Moved first (moves ++ later) last := by
  induction early with
  | nil => exact late
  | cons allowed _ ih => exact .cons allowed (ih late)

/-- Moves keep a core sound. -/
theorem core_sound (moved : Moved first moves last) (sound : first.core.Sound) :
    last.core.Sound := by
  induction moved with
  | nil => exact sound
  | cons allowed _ ih => exact ih (allowed.sound sound)

/-- Moves lose no switch. -/
theorem sound (moved : Moved first moves last) (sound : first.Sound) : last.Sound := by
  induction moved with
  | nil => exact sound
  | cons allowed _ ih => exact ih (sound.make allowed)

theorem of_nil (moved : Moved first [] last) : last = first := by
  cases moved
  rfl

/-- What each of the moves keeps, all of them keep. -/
theorem preserves {property : Core C → Prop} {kind : Move → Prop} (moved : Moved first moves last)
    (keeps : ∀ (core : Core C) (move : Move), core.Sound → move.Allowed core → kind move →
      property core → property (move.apply core))
    (each : ∀ move ∈ moves, kind move) (sound : first.core.Sound) (holds : property first.core) :
    property last.core := by
  induction moved with
  | nil => exact holds
  | cons allowed _ ih =>
      obtain ⟨this, others⟩ := List.forall_mem_cons.mp each
      exact ih others (allowed.sound sound) (keeps _ _ sound allowed this holds)

end Moved

/-- The moves that interrupt handlers make: they start and notify tasks. -/
def Move.isInterrupt : Move → Bool
  | start .. | deliver .. | wake .. => true
  | declare .. | clear .. | await .. | take .. | queue .. | release .. | finish | chain .. => false

/-- What is the caller's to do is not done by interrupts. -/
theorem Move.ne_of_isInterrupt {move other : Move} (interrupt : move.isInterrupt)
    (reserved : other.isInterrupt = false) : move ≠ other := by
  rintro rfl
  rw [reserved] at interrupt
  cases interrupt

/-- What a single move activates. -/
theorem Move.filterMap_activates? (move : Move) :
    [move].filterMap Move.activates? = move.activates?.toList := by
  rw [List.filterMap_cons]
  cases move.activates? <;> rfl

/-- The requests that a move may be the answer to. -/
inductive Move.Serves : Move → Request → Prop where
  | declare (id : TaskId) (spec : TaskSpec) (entry : Entry) (priority : Priority)
      (stackWords : Nat) (argument : Int32) :
      Serves (.declare id spec) (.declare entry priority stackWords argument)
  | start (id : TaskId) : Serves (.start id) (.activateTask id)
  | finish : Serves .finish .terminateTask
  | chain (id : TaskId) : Serves (.chain id) (.chainTask id)
  | take (id : ResourceId) : Serves (.take id) (.getResource id)
  | queue (id : ResourceId) : Serves (.queue id) (.getResource id)
  | release (id : ResourceId) : Serves (.release id) (.releaseResource id)
  | deliver (id : TaskId) (mask : EventMask) : Serves (.deliver id mask) (.setEvent id mask)
  | wake (id : TaskId) (mask : EventMask) : Serves (.wake id mask) (.setEvent id mask)
  | clear (mask : EventMask) : Serves (.clear mask) (.clearEvent mask)
  | await (mask : EventMask) : Serves (.await mask) (.waitEvent mask)

/-- The answers to requests that come down to a move. -/
inductive Move.Answers : Move → Request → Reply → Prop where
  | declare (id : TaskId) (spec : TaskSpec) (entry : Entry) (priority : Priority)
      (stackWords : Nat) (argument : Int32) :
      Answers (.declare id spec) (.declare entry priority stackWords argument) (.task id)
  | start (id : TaskId) : Answers (.start id) (.activateTask id) .done
  | finish : Answers .finish .terminateTask .done
  | chain (id : TaskId) : Answers (.chain id) (.chainTask id) .done
  | take (id : ResourceId) : Answers (.take id) (.getResource id) (.acquired .granted)
  | queue (id : ResourceId) : Answers (.queue id) (.getResource id) (.acquired .blocked)
  | release (id : ResourceId) : Answers (.release id) (.releaseResource id) .done
  | deliver (id : TaskId) (mask : EventMask) : Answers (.deliver id mask) (.setEvent id mask) .done
  | wake (id : TaskId) (mask : EventMask) : Answers (.wake id mask) (.setEvent id mask) .done
  | clear (mask : EventMask) : Answers (.clear mask) (.clearEvent mask) .done
  | await (mask : EventMask) : Answers (.await mask) (.waitEvent mask) .done

theorem Move.Answers.serves {move : Move} {request : Request} {reply : Reply}
    (answers : move.Answers request reply) : move.Serves request := by
  cases answers <;> constructor

/-- The form of an answer does not matter for the state. -/
theorem Action.state_bind_pure {σ α β : Type} (action : Action σ α) (reply : α → β) (state : σ) :
    ((action >>= fun answer => pure (reply answer)).run state).state = (action.run state).state := by
  rw [bind_pure_comp, run_map]

namespace Kernel

variable {C α β : Type} [Machine C] {kernel : Kernel C} {moves later : List Move}

/-- What an operation does to the situation, and which activations it shows. -/
structure Effect (kernel : Kernel C) (moves : List Move) (done : Outcome (Kernel C) α) : Prop where
  moved : Moved kernel.situation moves done.state.situation
  shown : activations done.trace = moves.filterMap Move.activates?

/-- The operation is one that an interrupt may perform. -/
def Interrupts (kernel : Kernel C) (done : Outcome (Kernel C) α) : Prop :=
  ∃ moves, kernel.Effect moves done ∧ ∀ move ∈ moves, move.isInterrupt

/-! ### Putting effects together -/

theorem Makes.effect {move : Move} {answer : α} {done : Outcome (Kernel C) α}
    (makes : kernel.Makes move answer done) : kernel.Effect [move] done where
  moved := by
    rw [makes.situation]
    exact .cons makes.allowed (.nil _)
  shown := by
    rw [makes.shown, Move.filterMap_activates?]

/-- Nothing happens that settles who runs. -/
theorem effect_nil {done : Outcome (Kernel C) α} (same : done.state.situation = kernel.situation)
    (quiet : activations done.trace = []) : kernel.Effect [] done where
  moved := by
    rw [same]
    exact .nil _
  shown := quiet

theorem Refuses.effect {done : Outcome (Kernel C) α} (refused : Refuses kernel done) :
    kernel.Effect [] done := by
  obtain ⟨reason, rfl⟩ := refused
  exact effect_nil rfl rfl

/-- One operation is followed by another. -/
theorem Effect.followed {first : Outcome (Kernel C) α} {last : Outcome (Kernel C) β}
    (early : kernel.Effect moves first) (late : first.state.Effect later last) :
    kernel.Effect (moves ++ later) ⟨last.result, last.state, first.trace ++ last.trace⟩ where
  moved := early.moved.append late.moved
  shown := by
    rw [activations_append, early.shown, late.shown, List.filterMap_append]

theorem interrupts_nil {done : Outcome (Kernel C) α}
    (same : done.state.situation = kernel.situation) (quiet : activations done.trace = []) :
    kernel.Interrupts done :=
  ⟨[], effect_nil same quiet, fun _ => nofun⟩

theorem Interrupts.followed {first : Outcome (Kernel C) α} {last : Outcome (Kernel C) β}
    (early : kernel.Interrupts first) (late : first.state.Interrupts last) :
    kernel.Interrupts ⟨last.result, last.state, first.trace ++ last.trace⟩ := by
  obtain ⟨moves, effect, each⟩ := early
  obtain ⟨later, effectLater, eachLater⟩ := late
  refine ⟨moves ++ later, effect.followed effectLater, ?_⟩
  intro move member
  rcases List.mem_append.mp member with old | new
  · exact each move old
  · exact eachLater move new

/-- One operation is followed by another unless it is refused. -/
theorem Interrupts.bind {first : Action (Kernel C) α} {next : α → Action (Kernel C) β}
    (early : kernel.Interrupts (first.run kernel))
    (late : ∀ answer, (first.run kernel).state.Interrupts
      ((next answer).run (first.run kernel).state)) :
    kernel.Interrupts ((first >>= next).run kernel) := by
  rw [Action.run_bind]
  cases (first.run kernel).result with
  | ok answer => exact early.followed (late answer)
  | error reason =>
      obtain ⟨moves, effect, each⟩ := early
      exact ⟨moves, ⟨effect.moved, effect.shown⟩, each⟩

/-- A record of something else than an activation comes first. -/
theorem interrupts_cons {done : Outcome (Kernel C) α} (interrupts : kernel.Interrupts done)
    {seen : Observation} (other : seen.activated? = none) :
    kernel.Interrupts ⟨done.result, done.state, seen :: done.trace⟩ := by
  obtain ⟨moves, effect, each⟩ := interrupts
  refine ⟨moves, ⟨effect.moved, ?_⟩, each⟩
  rw [activations_cons, other]
  exact effect.shown

/-- Interrupts keep a core sound. -/
theorem Interrupts.sound {done : Outcome (Kernel C) α} (interrupts : kernel.Interrupts done)
    (sound : kernel.core.Sound) : done.state.core.Sound := by
  obtain ⟨moves, effect, -⟩ := interrupts
  exact effect.moved.core_sound sound

/-! ### Interrupts -/

/-- A service for an interrupt starts or notifies a task, or is refused. -/
theorem serve_interrupts (sound : kernel.core.Sound) (call : InterruptCall) :
    kernel.Interrupts ((serve call).run kernel) := by
  have one : ∀ {move : Move} {answer : Unit} {done : Outcome (Kernel C) Unit},
      kernel.Makes move answer done → move.isInterrupt → kernel.Interrupts done :=
    fun makes interrupt => ⟨_, makes.effect, fun _ member => by
      rw [List.mem_singleton.mp member]
      exact interrupt⟩
  cases call with
  | activateTask target =>
      rcases activateTask_makes sound target with makes | refused
      · exact one makes rfl
      · exact ⟨[], refused.effect, fun _ => nofun⟩
  | setEvent target mask =>
      rcases setEvent_makes sound target mask with makes | makes | refused
      · exact one makes rfl
      · exact one makes rfl
      · exact ⟨[], refused.effect, fun _ => nofun⟩

/-- Whatever the code of a callback does, it does by services for interrupts. -/
theorem runHandler_interrupts (sound : kernel.core.Sound) (tag : Nat) (handler : Handler) :
    kernel.Interrupts ((runHandler tag handler).run kernel) := by
  induction handler generalizing kernel with
  | done => exact interrupts_nil rfl rfl
  | call request next ih =>
      have served := serve_interrupts sound request
      unfold runHandler
      rw [Action.run_attempt_bind]
      refine served.followed ?_
      rw [Action.run_emit_bind]
      exact interrupts_cons (ih _ (served.sound sound)) rfl
  | note severity message next ih =>
      unfold runHandler
      rw [Action.run_log_bind]
      exact interrupts_cons (ih sound) rfl

/-- What an expired alarm asks for is served or dropped. -/
theorem runAlarm_interrupts (sound : kernel.core.Sound) (action : AlarmAction) :
    kernel.Interrupts ((runAlarm action).run kernel) := by
  cases action with
  | service request =>
      have served := serve_interrupts sound request
      unfold runAlarm
      rw [Action.run_attempt_bind]
      refine served.followed ?_
      cases ((serve request).run kernel).result <;> exact interrupts_nil rfl rfl
  | callback code =>
      unfold runAlarm
      rw [Action.run_emit_bind]
      exact interrupts_cons (runHandler_interrupts sound code.tag code.body) rfl

theorem runAlarms_interrupts (sound : kernel.core.Sound) (actions : List AlarmAction) :
    kernel.Interrupts ((runAlarms actions).run kernel) := by
  induction actions generalizing kernel with
  | nil => exact interrupts_nil rfl rfl
  | cons action rest ih =>
      have first := runAlarm_interrupts sound action
      exact first.bind fun _ => ih (first.sound sound)

/-- The first part of a tick concerns the alarms alone. -/
theorem expire_interrupts (kernel : Kernel C) :
    kernel.Interrupts ((onAlarms AlarmTable.expire).run kernel) := by
  rw [onAlarms, Action.run_within, AlarmTable.run_expire]
  refine interrupts_nil rfl ?_
  dsimp only
  rw [activations, List.filterMap_flatMap, List.flatMap_eq_nil_iff]
  intro id due
  unfold AlarmTable.expiry
  cases kernel.alarms.lookup id <;> rfl

/-- A timer interrupt starts and notifies tasks. -/
theorem tick_interrupts (sound : kernel.core.Sound) : kernel.Interrupts (tick.run kernel) := by
  have expired := expire_interrupts kernel
  refine expired.bind fun due => ?_
  have acted := runAlarms_interrupts (expired.sound sound) due
  exact acted.bind fun _ => interrupts_nil rfl rfl

/-! ### Requests -/

/-- A trap is answered whatever becomes of the request. -/
theorem run_handleTrap (memory : Memory) (number : Nat) (words : Registers) (kernel : Kernel C) :
    (handleTrap memory number words).run kernel =
      ⟨.ok (Reply.resultRegisters ((performTrap memory number words).run kernel).result),
        ((performTrap memory number words).run kernel).state,
        ((performTrap memory number words).run kernel).trace⟩ := by
  rw [handleTrap, bind_pure_comp, Action.run_map, Action.run_attempt]
  rfl

/-- The answer may still be put into another form. -/
theorem Effect.bind_pure {action : Action (Kernel C) α}
    (effect : kernel.Effect moves (action.run kernel)) (reply : α → β) :
    kernel.Effect moves ((action >>= fun answer => pure (reply answer)).run kernel) := by
  rw [Action.run_bind]
  cases (action.run kernel).result with
  | ok answer =>
      refine ⟨effect.moved, ?_⟩
      dsimp only [Action.run_pure]
      rw [List.append_nil]
      exact effect.shown
  | error reason => exact ⟨effect.moved, effect.shown⟩

theorem Makes.bind_pure {move : Move} {answer : α} {action : Action (Kernel C) α}
    (makes : kernel.Makes move answer (action.run kernel)) (reply : α → β) :
    kernel.Makes move (reply answer)
      ((action >>= fun answer => pure (reply answer)).run kernel) := by
  rw [bind_pure_comp, Action.run_map]
  exact { makes with result := by rw [makes.result]; rfl }

/-- A question changes nothing. -/
theorem effect_ofExcept (answer : Kernel C → Except Refusal α) :
    kernel.Effect []
      ((Action.get >>= fun kernel => Action.ofExcept (answer kernel)).run kernel) := by
  rw [Action.run_get_bind]
  exact effect_nil rfl rfl

theorem taskState_effect (id : TaskId) : kernel.Effect [] ((taskState id).run kernel) := by
  unfold taskState
  rw [Action.run_get_bind]
  cases kernel.sched.findSlot id <;> exact effect_nil rfl rfl

/-- The alarms do not settle who runs. -/
theorem updateAlarms_effect (f : AlarmTable → Except Refusal AlarmTable) :
    kernel.Effect [] ((updateAlarms f).run kernel) := by
  unfold updateAlarms
  rw [Action.run_get_bind]
  cases f kernel.alarms <;> exact effect_nil rfl rfl

omit [Machine C] in
/-- The slot for a new task is vacant. -/
theorem freeSlot?_spec {sched : Scheduler C} {id : TaskId} (found : sched.freeSlot? = some id) :
    id < maxTasks ∧ (sched.slot id).state = .free := by
  have free := List.find?_some found
  have member := List.mem_of_find?_eq_some found
  exact ⟨List.mem_range.mp member, by simpa using free⟩

omit [Machine C] in
/-- Asking for a stack concerns the source of stacks alone. -/
theorem run_allocStack {source : StackSource} (heap : kernel.heap = some source) (words : Nat) :
    (allocStack words).run kernel =
      let after := { kernel with heap := some (source.alloc words).2 }
      match (source.alloc words).1 with
      | some stack => ⟨.ok stack, after, []⟩
      | none => ⟨.error .exhausted, after, []⟩ := by
  unfold allocStack
  rw [Action.run_get_bind, heap, Action.run_some_bind]
  dsimp only
  rw [Action.run_modify_bind]
  cases (source.alloc words).1 <;> rfl

omit [Machine C] in
/-- A declaration is refused at once, or goes through to the source of stacks; the first vacant slot
is filled if that grants a stack. -/
theorem run_declare (kernel : Kernel C) (entry : Entry) (priority : Priority) (stackWords : Nat)
    (argument : Int32) :
    Refuses kernel ((declare entry priority stackWords argument).run kernel) ∨
      ∃ source id, kernel.heap = some source ∧ kernel.core.sched.freeSlot? = some id ∧
        (declare entry priority stackWords argument).run kernel =
          let (granted, left) := source.alloc (max stackWords minStackWords)
          match granted with
          | none => ⟨.error .exhausted, { kernel with heap := some left }, []⟩
          | some stack =>
              let spec : TaskSpec := { priority, image := { entry, argument, stack } }
              ⟨.ok id,
                { kernel with
                  core := kernel.core.modifyTask id (Task.declare spec)
                  heap := some left },
                [.logged (.declared id priority)]⟩ := by
  unfold declare
  rw [Action.run_get_bind]
  cases heap : kernel.heap with
  | none => exact .inl ⟨.notPermitted, rfl⟩
  | some source =>
      rw [Action.run_some_bind]
      cases found : kernel.sched.freeSlot? with
      | none => exact .inl ⟨.exhausted, rfl⟩
      | some id =>
          refine .inr ⟨source, id, rfl, found, ?_⟩
          have allocated := run_allocStack heap (max stackWords minStackWords)
          rw [Action.run_some_bind]
          cases granted : (source.alloc (max stackWords minStackWords)).1 with
          | none =>
              rw [granted] at allocated
              rw [Action.run_bind_of_error allocated]
              simp only [granted]
          | some stack =>
              rw [granted] at allocated
              rw [Action.run_bind_of_ok allocated]
              simp only [granted]
              rfl

/-- A task is declared in a vacant slot, or not at all. -/
theorem declare_makes (kernel : Kernel C) (entry : Entry) (priority : Priority)
    (stackWords : Nat) (argument : Int32) :
    kernel.Effect [] ((declare entry priority stackWords argument).run kernel) ∨
      ∃ id spec, kernel.Makes (.declare id spec) id
        ((declare entry priority stackWords argument).run kernel) := by
  rcases run_declare kernel entry priority stackWords argument with
    refused | ⟨source, id, -, vacant, done⟩
  · exact .inl refused.effect
  · rw [done]
    dsimp only
    split
    · exact .inl (effect_nil rfl rfl)
    · rename_i stack _
      let spec : TaskSpec := { priority, image := { entry, argument, stack } }
      have allowed : Move.Allowed kernel.core (.declare id spec) := ⟨freeSlot?_spec vacant, nofun⟩
      exact .inr ⟨id, spec, makes_edited allowed rfl rfl rfl rfl⟩

/-- Every request makes one move at most, of the kind that it is for, and is answered as that says. -/
theorem perform_makes (sound : kernel.core.Sound)
    (chosen : kernel.core.sched.selected = kernel.core.sched.current) (request : Request) :
    kernel.Effect [] ((perform request).run kernel) ∨
      ∃ move reply, move.Answers request reply ∧
        kernel.Makes move reply ((perform request).run kernel) := by
  cases request with
  | debug message =>
      refine .inl (Effect.bind_pure ?_ _)
      exact effect_nil rfl rfl
  | declare entry priority stackWords argument =>
      rcases declare_makes kernel entry priority stackWords argument with
        effect | ⟨id, spec, makes⟩
      · exact .inl (effect.bind_pure _)
      · exact .inr ⟨_, _, .declare .., makes.bind_pure _⟩
  | activateTask task =>
      rcases activateTask_makes sound task with makes | refused
      · exact .inr ⟨_, _, .start task, makes.bind_pure fun _ => Reply.done⟩
      · exact .inl (refused.effect.bind_pure _)
  | terminateTask =>
      rcases terminateTask_makes sound chosen with makes | refused
      · exact .inr ⟨_, _, .finish, makes.bind_pure fun _ => Reply.done⟩
      · exact .inl (refused.effect.bind_pure _)
  | chainTask task =>
      rcases chainTask_makes sound chosen task with makes | refused
      · exact .inr ⟨_, _, .chain task, makes.bind_pure fun _ => Reply.done⟩
      · exact .inl (refused.effect.bind_pure _)
  | getTaskId =>
      refine .inl (Effect.bind_pure ?_ _)
      exact effect_nil rfl rfl
  | getTaskState task => exact .inl ((taskState_effect task).bind_pure _)
  | getResource resource =>
      rcases getResource_makes sound chosen resource with makes | makes | refused
      · exact .inr ⟨_, _, .take resource, makes.bind_pure _⟩
      · exact .inr ⟨_, _, .queue resource, makes.bind_pure _⟩
      · exact .inl (refused.effect.bind_pure _)
  | releaseResource resource =>
      rcases releaseResource_makes sound chosen resource with makes | refused
      · exact .inr ⟨_, _, .release resource, makes.bind_pure fun _ => Reply.done⟩
      · exact .inl (refused.effect.bind_pure _)
  | setEvent task mask =>
      rcases setEvent_makes sound task mask with makes | makes | refused
      · exact .inr ⟨_, _, .deliver task mask, makes.bind_pure fun _ => Reply.done⟩
      · exact .inr ⟨_, _, .wake task mask, makes.bind_pure fun _ => Reply.done⟩
      · exact .inl (refused.effect.bind_pure _)
  | clearEvent mask =>
      have makes := clearEvent_makes chosen mask
      exact .inr ⟨_, _, .clear mask, makes.bind_pure fun _ => Reply.done⟩
  | getEvent task => exact .inl ((effect_ofExcept _).bind_pure _)
  | waitEvent mask =>
      rcases waitEvent_makes sound chosen mask with makes | there | refused
      · exact .inr ⟨_, _, .await mask, makes.bind_pure fun _ => Reply.done⟩
      · exact .inl (Effect.bind_pure (by rw [there]; exact effect_nil rfl rfl) _)
      · exact .inl (refused.effect.bind_pure _)
  | getAlarmBase alarm => exact .inl ((effect_ofExcept _).bind_pure _)
  | getAlarm alarm => exact .inl ((effect_ofExcept _).bind_pure _)
  | setRelAlarm alarm increment cycle => exact .inl ((updateAlarms_effect _).bind_pure _)
  | setAbsAlarm alarm start cycle => exact .inl ((updateAlarms_effect _).bind_pure _)
  | cancelAlarm alarm => exact .inl ((updateAlarms_effect _).bind_pure _)

/-- Every request makes one move at most, of the kind that it is for. -/
theorem perform_effect (sound : kernel.core.Sound)
    (chosen : kernel.core.sched.selected = kernel.core.sched.current) (request : Request) :
    ∃ move? : Option Move, (∀ move ∈ move?, move.Serves request) ∧
      kernel.Effect move?.toList ((perform request).run kernel) := by
  rcases perform_makes sound chosen request with effect | ⟨move, reply, answers, makes⟩
  · exact ⟨none, nofun, effect⟩
  · refine ⟨some move, ?_, makes.effect⟩
    rintro other ⟨⟩
    exact answers.serves

/-- A trap makes the move of the request that it is read as, if it can be read. -/
theorem handleTrap_effect (sound : kernel.core.Sound)
    (chosen : kernel.core.sched.selected = kernel.core.sched.current) (memory : Memory)
    (number : Nat) (words : Registers) :
    ∃ move? : Option Move,
      (∀ move ∈ move?, ∃ request, (Request.decode memory number words).toOption = some request ∧
        move.Serves request) ∧
      kernel.Effect move?.toList ((handleTrap memory number words).run kernel) := by
  have trapped : ∀ {moves : List Move},
      kernel.Effect moves ((performTrap memory number words).run kernel) →
      kernel.Effect moves ((handleTrap memory number words).run kernel) := by
    intro moves effect
    have attempted : kernel.Effect moves ((performTrap memory number words).attempt.run kernel) :=
      ⟨effect.moved, effect.shown⟩
    exact attempted.bind_pure _
  cases decoded : Request.decode memory number words with
  | error reason =>
      refine ⟨none, nofun, trapped ?_⟩
      rw [performTrap, decoded]
      exact effect_nil rfl rfl
  | ok request =>
      obtain ⟨move?, serves, effect⟩ := perform_effect sound chosen request
      refine ⟨move?, fun move member => ⟨request, rfl, serves move member⟩, trapped ?_⟩
      rw [performTrap, decoded, Action.run_ok_bind]
      exact effect

end Kernel

end Rtos
