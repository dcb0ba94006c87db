/-
Module: Rtos.Proofs.FreshStart
Purpose: A task that is dispatched for the first time starts its entry with its argument.  Every task
  has a stack with room for a frame, from the configuration or from a source that grants what it is
  asked for, and whoever is primed has a whole initial frame at the top of it.
Main definitions: StackSource.Generous, Core.Roomy, Core.Fresh
Main statements: `Step.Ready.roomy_after`, `Execution.fresh`, `Execution.primed_frame`
-/
import Rtos.Proofs.Frame

namespace Rtos

/-- The source never grants less than what it is asked for. -/
def StackSource.Generous (source : StackSource) : Prop :=
  ∀ (earlier : List Nat) (words : Nat) (stack : Stack),
    source.grant earlier words = some stack → words ≤ stack.size

/-- The frame of a fresh task, word by word: R4 to R11, R0 to R3, R12, LR, PC and xPSR. -/
theorem initialFrame_eq (entry : Entry) (argument : Int32) :
    initialFrame entry argument =
      [0, 0, 0, 0, 0, 0, 0, 0, argument.toUInt32.toUInt64, 0, 0, 0, 0, landingPad, entry &&& ~~~1,
        0x01000000] := rfl

/-- Above the start of a fresh frame there is that frame, and nothing else. -/
theorem TaskImage.drop_laid (image : TaskImage) (room : frameWords ≤ image.stack.size) :
    image.laid.stack.toList.drop (image.stack.size - frameWords) =
      initialFrame image.entry image.argument := by
  rw [laid, Stack.drop_prime, Nat.min_eq_right room, ← length_initialFrame, List.take_length]

/-! ### Room on every stack -/

/-- Every task has a stack with room for a frame and as much again to run. -/
def Core.Roomy {C : Type} (core : Core C) : Prop :=
  ∀ (id : TaskId) (image : TaskImage), (core.sched.slot id).image = some image →
    minStackWords ≤ image.stack.size

/-- Where the stack of a task comes from after a move: it is the one that the task had, possibly with
another content, or the task has just been declared with it. -/
theorem Move.Allowed.image_apply {C : Type} [Machine C] {core : Core C} {move : Move}
    (allowed : move.Allowed core) (sound : core.Sound) {id : TaskId} {image : TaskImage}
    (imaged : ((move.apply core).sched.slot id).image = some image) :
    (∃ origin, (core.sched.slot id).image = some origin ∧
        image.stack.size = origin.stack.size) ∨
      ∃ spec, move = .declare id spec ∧ image = spec.image := by
  obtain ⟨state, applied, -⟩ := allowed.slot_apply sound id
  rw [applied] at imaged
  have same : ((move.edit core).sched.slot id).image = (core.sched.slot id).image →
      ∃ origin, (core.sched.slot id).image = some origin ∧
        image.stack.size = origin.stack.size :=
    fun kept => ⟨image, kept.symm.trans imaged, rfl⟩
  cases allowed.change sound id with
  | kept life => exact .inl (same life.image)
  | declared spec place free filled =>
      rw [filled] at imaged
      cases imaged
      exact .inr ⟨spec, place, rfl⟩
  | started _ _ _ _ _ laid =>
      obtain ⟨origin, had, fresh⟩ := laid
      cases fresh.image.symm.trans imaged
      exact .inl ⟨origin, had, origin.size_laid⟩
  | blocked _ _ _ _ image => exact .inl (same image)
  | ended _ _ _ _ _ image => exact .inl (same image)

/-- A move leaves room on all stacks if it declares nobody. -/
theorem Move.Allowed.roomy_apply {C : Type} [Machine C] {core : Core C} {move : Move}
    (allowed : move.Allowed core) (sound : core.Sound)
    (other : ∀ id spec, move ≠ .declare id spec) (roomy : core.Roomy) :
    (move.apply core).Roomy := by
  intro id image imaged
  rcases allowed.image_apply sound imaged with ⟨origin, had, same⟩ | ⟨spec, declares, -⟩
  · rw [same]
    exact roomy id origin had
  · exact absurd declares (other id spec)

namespace Kernel

variable {C : Type} {kernel : Kernel C}

/-- A task that is declared at run time gets a stack with room, if the source of stacks grants what
it is asked for. -/
theorem roomy_declare (generous : ∀ source ∈ kernel.heap, source.Generous)
    (roomy : kernel.core.Roomy) (entry : Entry) (priority : Priority) (stackWords : Nat)
    (argument : Int32) :
    ((declare entry priority stackWords argument).run kernel).state.core.Roomy := by
  rcases run_declare kernel entry priority stackWords argument with
    ⟨_, refused⟩ | ⟨source, slot, heap, -, done⟩
  · rw [refused]
    exact roomy
  · rw [done]
    dsimp only
    split
    · exact roomy
    · rename_i stack granted
      intro id image imaged
      have large := generous source heap _ _ stack granted
      rw [Core.slot_modifyTask] at imaged
      split at imaged
      · cases imaged
        exact Nat.le_trans (Nat.le_max_right _ _) large
      · exact roomy id image imaged

end Kernel

/-- As long as the source of stacks is generous, every step leaves room on all stacks. -/
theorem Step.Ready.roomy_after {C : Type} [Machine C] {step : Step C} (ready : step.Ready)
    (generous : ∀ source ∈ step.before.heap, source.Generous)
    (roomy : step.before.core.Roomy) : step.after.core.Roomy := by
  by_cases declares : ∃ entry priority words argument,
      step.operation.request? = some (.declare entry priority words argument)
  · obtain ⟨entry, priority, words, argument, asked⟩ := declares
    rw [after_of_request? asked, Kernel.perform, Action.state_bind_pure]
    exact Kernel.roomy_declare generous roomy entry priority words argument
  · refine ready.preserves Core.Roomy ?_ ?_ ?_ roomy
    · intro outgoing id image imaged
      rw [Core.switched_eq_with_context ready.sound.selected_lt] at imaged
      exact roomy id image imaged
    · intro core move sound allowed interrupt
      exact allowed.roomy_apply sound fun _ _ => Move.ne_of_isInterrupt interrupt rfl
    · intro request move asked serves allowed _
      refine allowed.roomy_apply ready.sound ?_ roomy
      rintro id spec rfl
      cases serves with
      | declare id spec entry priority words argument =>
          exact declares ⟨entry, priority, words, argument, asked⟩

/-! ### Fresh frames -/

/-- Every task that is primed is as an activation has left it. -/
def Core.Fresh {C : Type} [Machine C] (core : Core C) : Prop :=
  ∀ (id : TaskId) (handle : C), (core.sched.slot id).context = .primed handle →
    ∃ origin, (core.sched.slot id).FreshFrom origin

/-- Nothing but another activation touches the frame of a task that is primed. -/
theorem Step.Ready.fresh_after {C : Type} [Machine C] {step : Step C} (ready : step.Ready)
    (fresh : step.before.core.Fresh) : step.after.core.Fresh := by
  intro id handle primed
  rcases ready.primed_after primed with same | ⟨-, origin, -, activated⟩
  · obtain ⟨origin, before⟩ := fresh id handle (same.context.symm.trans primed)
    exact ⟨origin, before.congr same⟩
  · exact ⟨origin, activated⟩

/-- A kernel boots with room on all stacks. -/
theorem Kernel.boot_roomy {C : Type} [Machine C] {config : Configuration} {console : Console}
    {kernel : Kernel C} {seen : Trace} (built : config.Built)
    (booted : boot config console = .ok (kernel, seen)) : kernel.core.Roomy := by
  obtain ⟨core, decided, consistent, slot⟩ := boot_consistent built booted
  intro id image imaged
  obtain ⟨state, same, -⟩ := consistent.slot_decided id
  rw [decided, same, slot] at imaged
  unfold bootTask at imaged
  cases found : config.tasks[id]? with
  | none =>
      rw [found] at imaged
      cases imaged
  | some spec =>
      have room := roomy_of_boot booted spec (List.mem_of_getElem? found)
      rw [found] at imaged
      dsimp only at imaged
      split at imaged
      · cases imaged
        exact (spec.image.size_laid).symm ▸ room
      · cases imaged
        exact room

namespace Execution

variable {C : Type} [Machine C] {admits : Step C → Prop} {config : Configuration}
  {steps : List (Step C)} {kernel : Kernel C}

/-- In all states of an execution, whoever is primed is fresh. -/
theorem fresh (execution : Execution admits config steps kernel) : kernel.core.Fresh := by
  induction steps generalizing kernel with
  | nil =>
      cases execution with
      | boot built booted heap => exact fun id handle => Kernel.boot_fresh built booted
  | cons step earlier ih =>
      obtain ⟨latest, rfl⟩ := execution.latest
      exact latest.ready.fresh_after (ih latest.earlier)

/-- In all states of an execution there is room on all stacks, if stacks come from generous
sources. -/
theorem roomy (execution : Execution admits config steps kernel)
    (generous : ∀ state ∈ visited steps kernel, ∀ source ∈ state.heap, source.Generous) :
    kernel.core.Roomy := by
  induction steps generalizing kernel with
  | nil =>
      cases execution with
      | @boot _ booted _ built boots heap =>
          have room : booted.core.Roomy := Kernel.boot_roomy built boots
          exact room
  | cons step earlier ih =>
      obtain ⟨latest, rfl⟩ := execution.latest
      have before := (List.forall_mem_cons.mp generous).2
      exact latest.ready.roomy_after (List.forall_mem_cons.mp before).1 (ih latest.earlier before)

/-- If stacks come from sources that grant what they are asked for, every declared task has a stack
of at least the smallest size, and whoever is primed is so with the index of the last sixteen words
of its stack, which are the frame that starts its own entry with its own argument: R4 to R11, R0 to
R3, R12, LR, PC and xPSR, in this order. -/
theorem primed_frame {steps : List (Step FrameIndex)} {kernel : Kernel FrameIndex}
    {admits : Step FrameIndex → Prop} (execution : Execution admits config steps kernel)
    (generous : ∀ state ∈ visited steps kernel, ∀ source ∈ state.heap, source.Generous)
    (id : TaskId) :
    ((kernel.core.sched.slot id).state ≠ .free →
      ∃ image, (kernel.core.sched.slot id).image = some image ∧
        minStackWords ≤ image.stack.size) ∧
    ∀ index, (kernel.core.sched.slot id).context = .primed ⟨index⟩ →
      ∃ image, (kernel.core.sched.slot id).image = some image ∧
        index + 16 = image.stack.size ∧
        image.stack.toList.drop index =
          [0, 0, 0, 0, 0, 0, 0, 0, image.argument.toUInt32.toUInt64, 0, 0, 0, 0, landingPad,
            image.entry &&& ~~~1, 0x01000000] := by
  have roomy := execution.roomy generous
  constructor
  · intro declared
    obtain ⟨image, imaged⟩ :=
      Option.isSome_iff_exists.mp ((execution.core_sound.fits id).image_isSome declared)
    exact ⟨image, imaged, roomy id image imaged⟩
  · intro index primed
    obtain ⟨origin, imaged, context⟩ := execution.fresh id _ primed
    have start : index = origin.stack.size - frameWords := by
      rw [primed] at context
      exact congrArg FrameIndex.index (Context.primed.inj context)
    have room : minStackWords ≤ origin.stack.size := origin.size_laid ▸ roomy id _ imaged
    have enough : frameWords ≤ origin.stack.size := Nat.le_trans (by decide) room
    refine ⟨origin.laid, imaged, ?_, ?_⟩
    · rw [start, TaskImage.size_laid]
      exact Nat.sub_add_cancel enough
    · rw [start, origin.drop_laid enough, initialFrame_eq, TaskImage.laid]

/-- A source that grants a little more than what it is asked for. -/
def lavish : StackSource where
  grant _ words := some (Stack.zeros (words + 8))

theorem generous_lavish (requests : List Nat) :
    StackSource.Generous { lavish with requests } := by
  intro earlier words stack granted
  cases granted
  simp [Stack.zeros]

/-- A task is declared at run time and activated, and meanwhile the task on the CPU starts itself
afresh. -/
def startedAfresh : List (Operation FrameIndex) :=
  [.launch ⟨0⟩, .install lavish, .request (.declare 0x501 7 0 (-1)), .request (.activateTask 3),
    .request (.chainTask 1)]

set_option maxRecDepth 8000 in
theorem primed_frame_afresh :
    ∃ (steps : List (Step FrameIndex)) (kernel : Kernel FrameIndex),
      Execution (fun _ => True) (Configuration.pair 2) steps kernel ∧
        (∀ state ∈ visited steps kernel, ∀ source ∈ state.heap, source.Generous) ∧
        (kernel.core.sched.slot 1).context = .primed ⟨16⟩ ∧
        (kernel.core.sched.slot 3).context = .primed ⟨24⟩ ∧
        (∃ image, (kernel.core.sched.slot 1).image = some image ∧
          image.stack.toList.drop 16 =
            [0, 0, 0, 0, 0, 0, 0, 0, 0, 0, 0, 0, 0, landingPad, 0x400, 0x01000000]) ∧
        ∃ image, (kernel.core.sched.slot 3).image = some image ∧
          image.stack.toList.drop 24 =
            [0, 0, 0, 0, 0, 0, 0, 0, 0xFFFFFFFF, 0, 0, 0, 0, landingPad, 0x500, 0x01000000] := by
  have execution : Execution (fun _ => True) (Configuration.pair 2) (pairSteps 2 startedAfresh)
      (pairReached 2 startedAfresh) :=
    of_pair (by decide) (by decide) (by decide)
  have generous : ∀ state ∈ visited (pairSteps 2 startedAfresh) (pairReached 2 startedAfresh),
      ∀ source ∈ state.heap, source.Generous := by
    have absent : ∀ {state : Kernel FrameIndex}, state.heap = none →
        ∀ source ∈ state.heap, source.Generous := by
      intro state absent source has
      rw [absent] at has
      cases has
    have installed : ∀ {state : Kernel FrameIndex} (requests : List Nat),
        state.heap = some { lavish with requests } → ∀ source ∈ state.heap, source.Generous := by
      intro state requests installed source has
      cases installed.symm.trans has
      exact generous_lavish requests
    -- the states from the latest to the first one
    exact List.forall_mem_cons.mpr ⟨installed [32] rfl, List.forall_mem_cons.mpr
      ⟨installed [32] rfl, List.forall_mem_cons.mpr ⟨installed [32] rfl, List.forall_mem_cons.mpr
        ⟨installed [] rfl, List.forall_mem_cons.mpr ⟨absent rfl, List.forall_mem_cons.mpr
          ⟨absent rfl, nofun⟩⟩⟩⟩⟩⟩
  have own : ((pairReached 2 startedAfresh).core.sched.slot 1).context = .primed ⟨16⟩ := by decide
  have other : ((pairReached 2 startedAfresh).core.sched.slot 3).context = .primed ⟨24⟩ := by
    decide
  obtain ⟨first, imagedFirst, -, frameFirst⟩ := (execution.primed_frame generous 1).2 16 own
  obtain ⟨second, imagedSecond, -, frameSecond⟩ := (execution.primed_frame generous 3).2 24 other
  have entryFirst : first.argument = 0 ∧ first.entry = 0x400 := by
    cases imagedFirst
    decide
  have entrySecond : second.argument = -1 ∧ second.entry = 0x501 := by
    cases imagedSecond
    decide
  rw [entryFirst.1, entryFirst.2] at frameFirst
  rw [entrySecond.1, entrySecond.2] at frameSecond
  exact ⟨_, _, execution, generous, own, other, ⟨first, imagedFirst, frameFirst⟩,
    ⟨second, imagedSecond, frameSecond⟩⟩

end Execution

end Rtos
