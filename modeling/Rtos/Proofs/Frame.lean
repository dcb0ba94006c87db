/-
Module: Rtos.Proofs.Frame
Purpose: Initial frames.  An activation lays one on the stack of a task, and no operation of the
  kernel touches it before the task has been on the CPU.
Main definitions: Stack.overlay, Task.SameFrame, Task.Activated, Task.write, TaskImage.FrameAt,
  Task.Whole
Main statements: `Stack.getElem?_store`, `Stack.toList_store`, `Stack.drop_prime`,
  `Step.Ready.primed_after`, `Situation.Sound.write`, `Task.FreshFrom.startsWith`
-/
import Rtos.Board
import Rtos.Proofs.Change
import Rtos.Proofs.Execution

namespace Rtos

/-! ### Frames on stacks -/

namespace Stack

/-- A store changes the words from its start on, as far as the stack reaches. -/
theorem getElem?_store (stack : Stack) (start : Nat) (words : List Word) (index : Nat) :
    (stack.store start words)[index]? =
      if start ≤ index ∧ index < start + words.length ∧ index < stack.size then
        words[index - start]?
      else stack[index]? := by
  induction words generalizing stack start with
  | nil =>
      rw [store, if_neg]
      rintro ⟨above, below, -⟩
      exact Nat.not_lt.mpr above below
  | cons word rest ih =>
      simp only [store, ih, Array.size_setIfInBounds, Array.getElem?_setIfInBounds,
        List.length_cons]
      -- the word itself lands at the start, and the rest above it
      rcases Nat.lt_trichotomy start index with above | here | below <;> grind

/-- Words written over a row of slots, one after the other, until either runs out. -/
def overlay : (slots words : List Word) → List Word
  | _ :: slots, word :: words => word :: overlay slots words
  | slots, _ => slots

theorem overlay_nil (slots : List Word) : overlay slots [] = slots := by
  cases slots <;> rfl

/-- First come the words, as far as there are slots for them, and then the slots that they do not
reach. -/
theorem overlay_eq (slots words : List Word) :
    overlay slots words = words.take slots.length ++ slots.drop words.length := by
  induction slots generalizing words with
  | nil => simp [overlay]
  | cons slot slots ih =>
      cases words with
      | nil => simp [overlay]
      | cons word words => simp [overlay, ih]

/-- A store leaves what is below its start, and writes over what is above. -/
theorem toList_store (stack : Stack) (start : Nat) (words : List Word) :
    (stack.store start words).toList =
      stack.toList.take start ++ overlay (stack.toList.drop start) words := by
  induction words generalizing stack start with
  | nil => rw [store, overlay_nil, List.take_append_drop]
  | cons word words ih =>
      rw [store, ih, Array.toList_setIfInBounds]
      by_cases inside : start < stack.toList.length
      · -- the word takes the first slot, and the rest go on behind it
        have lands : start < (stack.toList.set start word).length := by rwa [List.length_set]
        rw [List.drop_eq_getElem_cons inside, overlay, List.take_succ_eq_append_getElem lands,
          List.getElem_set_self, List.take_set, List.drop_set_of_lt (Nat.lt_add_one start),
          List.set_eq_of_length_le (List.length_take_le _ _), List.append_assoc,
          List.singleton_append]
      · -- there is no slot left
        have past : stack.toList.length ≤ start := Nat.le_of_not_lt inside
        rw [List.set_eq_of_length_le past, List.take_of_length_le past,
          List.drop_of_length_le past, List.take_of_length_le (Nat.le_succ_of_le past),
          List.drop_of_length_le (Nat.le_succ_of_le past)]
        rfl

/-- From its start on, a primed stack holds as much of the initial frame as fits. -/
theorem drop_prime (stack : Stack) (entry : Entry) (argument : Int32) :
    (stack.prime entry argument).1.toList.drop (stack.size - frameWords) =
      (initialFrame entry argument).take (min stack.size frameWords) := by
  have below : (stack.toList.take (stack.size - frameWords)).length = stack.size - frameWords := by
    rw [List.length_take, Array.length_toList]
    exact Nat.min_eq_left (Nat.sub_le _ _)
  have room : (stack.toList.drop (stack.size - frameWords)).length = min stack.size frameWords := by
    rw [List.length_drop, Array.length_toList]
    omega
  rw [prime, toList_store, List.drop_left' below, overlay_eq, room, length_initialFrame,
    List.drop_eq_nil_of_le (room ▸ Nat.min_le_right _ _), List.append_nil]

end Stack

namespace TaskImage

theorem stack_laid (image : TaskImage) :
    image.laid.stack = image.stack.store (image.stack.size - frameWords)
      (initialFrame image.entry image.argument) := by
  rw [laid, Stack.prime]

@[simp] theorem size_laid (image : TaskImage) : image.laid.stack.size = image.stack.size := by
  rw [stack_laid, Stack.size_store]

/-- What the words of a fresh frame are, if there is room for one. -/
theorem getElem?_laid (image : TaskImage) (room : frameWords ≤ image.stack.size) {slot : Nat}
    (inside : slot < frameWords) :
    image.laid.stack[image.stack.size - frameWords + slot]? =
      (initialFrame image.entry image.argument)[slot]? := by
  have last : image.stack.size - frameWords + slot < image.stack.size := by omega
  rw [stack_laid, Stack.getElem?_store, length_initialFrame, Nat.add_sub_cancel_left, if_pos]
  exact ⟨Nat.le_add_right _ _, Nat.add_lt_add_left inside _, last⟩

end TaskImage

/-! ### What becomes of a primed task -/

/-- The task has been activated and has not run yet. -/
def Context.isPrimed {C : Type} : Context C → Bool
  | primed _ => true
  | dormant | onCpu | saved _ => false

theorem Context.isPrimed_iff {C : Type} {context : Context C} :
    context.isPrimed ↔ ∃ handle, context = .primed handle := by
  cases context <;> simp [isPrimed]

namespace Task

variable {C : Type} {first second third : Task C}

/-- Neither where the registers of the task are nor its stack has changed. -/
structure SameFrame (before after : Task C) : Prop where
  context : after.context = before.context
  image : after.image = before.image

theorem SameFrame.refl (task : Task C) : task.SameFrame task := ⟨rfl, rfl⟩

theorem SameFrame.trans (early : first.SameFrame second) (late : second.SameFrame third) :
    first.SameFrame third :=
  ⟨late.context.trans early.context, late.image.trans early.image⟩

theorem SameLife.sameFrame (life : first.SameLife second) : first.SameFrame second :=
  ⟨life.context, life.image⟩

variable [Machine C]

theorem FreshFrom.congr {origin : TaskImage} (fresh : first.FreshFrom origin)
    (same : first.SameFrame second) : second.FreshFrom origin :=
  ⟨same.image.trans fresh.image, same.context.trans fresh.context⟩

/-- The task has been activated: its registers and its stack are those of a fresh start from the
image that it had. -/
def Activated (before after : Task C) : Prop :=
  ∃ origin, before.image = some origin ∧ after.FreshFrom origin

theorem Activated.congr (activated : first.Activated second) (same : second.SameFrame third) :
    first.Activated third := by
  obtain ⟨origin, imaged, fresh⟩ := activated
  exact ⟨origin, imaged, fresh.congr same⟩

/-- A task that is interrupted keeps its frame.  One that has none may be activated meanwhile. -/
def Spared (before after : Task C) : Prop :=
  before.SameFrame after ∨ before.context = .dormant ∧ before.Activated after

theorem Spared.followed (early : first.Spared second) (late : second.Spared third) :
    first.Spared third := by
  rcases late with same | ⟨dormant, activated⟩
  · rcases early with before | ⟨dormant, activated⟩
    · exact .inl (before.trans same)
    · exact .inr ⟨dormant, activated.congr same⟩
  · rcases early with before | ⟨-, other, -, primed⟩
    · rw [Activated, before.image] at activated
      exact .inr ⟨before.context.symm.trans dormant, activated⟩
    · rw [primed.context] at dormant
      cases dormant

end Task

namespace Move

variable {C : Type} [Machine C] {core : Core C} {move : Move}

/-- A move leaves the frame of a task alone, or takes it away, or lays a fresh one. -/
theorem Allowed.frame_apply (allowed : move.Allowed core) (sound : core.Sound) (id : TaskId) :
    (core.sched.slot id).SameFrame ((move.apply core).sched.slot id) ∨
      (move.isInterrupt = false ∧ ((move.apply core).sched.slot id).context = .dormant) ∨
      (((core.sched.slot id).context = .dormant ∨ id = core.sched.current ∧ move = .chain id) ∧
        (core.sched.slot id).Activated ((move.apply core).sched.slot id)) := by
  have decision : ((move.edit core).sched.slot id).SameFrame ((move.apply core).sched.slot id) := by
    obtain ⟨state, applied, -⟩ := allowed.slot_apply sound id
    rw [applied]
    exact ⟨rfl, rfl⟩
  have dormant (suspended : (core.sched.slot id).state = .suspended) :
      (core.sched.slot id).context = .dormant :=
    (sound.fits id).dormant_iff.mpr (by rw [suspended]; rfl)
  cases allowed.change sound id with
  | kept same => exact .inl (same.sameFrame.trans decision)
  | declared spec place _ filled =>
      subst place
      exact .inr (.inl ⟨rfl, decision.context.trans (by rw [filled]; rfl)⟩)
  | started target _ _ _ _ laid =>
      refine .inr (.inr ⟨?_, Task.Activated.congr laid decision⟩)
      cases move with
      | start other =>
          cases target
          exact .inl (dormant allowed.permitted)
      | chain other =>
          cases target
          obtain ⟨-, self | suspended⟩ := allowed.permitted
          · exact .inr ⟨self, rfl⟩
          · exact .inl (dormant suspended)
      | _ => cases target
  | blocked _ _ _ context image => exact .inl (.trans ⟨context, image⟩ decision)
  | ended _ ends _ _ dropped =>
      refine .inr (.inl ⟨?_, decision.context.trans dropped⟩)
      cases move <;> cases ends <;> rfl

theorem Allowed.spared_apply (allowed : move.Allowed core) (sound : core.Sound)
    (interrupt : move.isInterrupt) (id : TaskId) :
    (core.sched.slot id).Spared ((move.apply core).sched.slot id) := by
  rcases allowed.frame_apply sound id with same | ⟨caller, -⟩ | ⟨dormant | ⟨-, chains⟩, activated⟩
  · exact .inl same
  · rw [caller] at interrupt
    cases interrupt
  · exact .inr ⟨dormant, activated⟩
  · subst chains
    cases interrupt

end Move

/-- A switch primes no task, and touches no stack. -/
theorem Core.sameFrame_switched {C : Type} {core : Core C} {outgoing handle : C} {id : TaskId}
    (inTable : core.sched.selected < maxTasks)
    (primed : ((core.switched outgoing).sched.slot id).context = .primed handle) :
    (core.sched.slot id).SameFrame ((core.switched outgoing).sched.slot id) := by
  refine ⟨?_, by rw [Core.switched_eq_with_context inTable]⟩
  change ((core.sched.switched outgoing).slot id).context = .primed handle at primed
  change ((core.sched.switched outgoing).slot id).context = _
  rw [Scheduler.slot_switched inTable] at primed ⊢
  split at primed
  · cases primed
  · rename_i waiting
    rw [if_neg waiting]
    split at primed
    · by_cases live : (core.sched.slot id).context = .onCpu
      · rw [Task.save_of_onCpu live] at primed
        cases primed
      · rw [Task.save_of_ne live, ite_self]
    · rename_i staying
      rw [if_neg staying]

namespace Step

variable {C : Type} [Machine C] {step : Step C}

/-- A task that is primed after a step either has been so before, or has been activated.  The
latter happens to a task that was not active, or to the caller by its own request. -/
theorem Ready.primed_after (ready : step.Ready) {id : TaskId} {handle : C}
    (primed : (step.after.core.sched.slot id).context = .primed handle) :
    (step.before.core.sched.slot id).SameFrame (step.after.core.sched.slot id) ∨
      (((step.before.core.sched.slot id).context = .dormant ∨
          id = step.before.current ∧ step.operation.request? = some (.chainTask id)) ∧
        (step.before.core.sched.slot id).Activated (step.after.core.sched.slot id)) := by
  have sound := ready.sound
  rcases ready.cases with ⟨outgoing, switches⟩ | ⟨moves, makes⟩
  · rw [switches.core] at primed ⊢
    exact .inl (Core.sameFrame_switched sound.selected_lt primed)
  · rcases makes.maker with each | ⟨request, move, asked, rfl, serves⟩
    · have interrupted : ∀ (core : Core C) (move : Move), core.Sound → move.Allowed core →
          move.isInterrupt → (step.before.core.sched.slot id).Spared (core.sched.slot id) →
          (step.before.core.sched.slot id).Spared ((move.apply core).sched.slot id) :=
        fun core move sound allowed interrupt early =>
          early.followed (allowed.spared_apply sound interrupt id)
      have spared := makes.effect.moved.preserves interrupted each sound (.inl (.refl _))
      exact spared.imp_right fun activated => ⟨.inl activated.1, activated.2⟩
    · obtain ⟨allowed, last⟩ := makes.of_singleton
      rw [last] at primed ⊢
      rcases allowed.frame_apply sound id with same | ⟨-, dormant⟩ | ⟨origin, activated⟩
      · exact .inl same
      · rw [dormant] at primed
        cases primed
      · refine .inr ⟨origin.imp_right fun ⟨caller, chains⟩ => ⟨caller, ?_⟩, activated⟩
        subst chains
        cases serves
        exact asked

end Step

/-- The tasks that are primed when a kernel has booted are fresh. -/
theorem Kernel.boot_fresh {C : Type} [Machine C] {config : Configuration} {console : Console}
    {kernel : Kernel C} {seen : Trace} (built : config.Built)
    (booted : boot config console = .ok (kernel, seen)) {id : TaskId} {handle : C}
    (primed : (kernel.core.sched.slot id).context = .primed handle) :
    ∃ origin, (kernel.core.sched.slot id).FreshFrom origin := by
  obtain ⟨core, decided, consistent, slot⟩ := boot_consistent built booted
  obtain ⟨state, same, -⟩ := consistent.slot_decided id
  have fresh : (bootTask config id : Task C).context = .primed handle →
      ∃ origin, (bootTask config id : Task C).FreshFrom origin := by
    unfold bootTask
    cases config.tasks[id]? with
    | none => nofun
    | some spec =>
        dsimp only
        split
        · exact fun _ => ⟨spec.image, rfl, rfl⟩
        · nofun
  rw [decided, same, slot] at primed ⊢
  obtain ⟨origin, imaged, context⟩ := fresh primed
  exact ⟨origin, imaged, context⟩

/-! ### Tasks write to their stacks -/

/-- Words are written into the stack. -/
def TaskImage.write (position : Nat) (words : List Word) (image : TaskImage) : TaskImage :=
  { image with stack := image.stack.store position words }

@[simp] theorem TaskImage.size_write (position : Nat) (words : List Word) (image : TaskImage) :
    (image.write position words).stack.size = image.stack.size := Stack.size_store _ _ _

/-- Words are written into the stack of the task. -/
def Task.write {C : Type} (position : Nat) (words : List Word) (task : Task C) : Task C :=
  { task with image := task.image.map (TaskImage.write position words) }

/-- Words are written into the stack of one task. -/
def Kernel.write {C : Type} (id : TaskId) (position : Nat) (words : List Word)
    (kernel : Kernel C) : Kernel C :=
  { kernel with core := kernel.core.modifyTask id (Task.write position words) }

section Write

variable {C : Type} {kernel : Kernel C} {id : TaskId} {position : Nat} {words : List Word}

theorem Kernel.slot_write (other : TaskId) :
    (kernel.write id position words).core.sched.slot other =
      if id = other ∧ id < maxTasks then (kernel.core.sched.slot other).write position words
      else kernel.core.sched.slot other :=
  Core.slot_modifyTask _ _ _ _

theorem Kernel.slot_write_of_ne {other : TaskId} (apart : other ≠ id) :
    (kernel.write id position words).core.sched.slot other = kernel.core.sched.slot other := by
  rw [slot_write, if_neg fun here => apart here.1.symm]

theorem Kernel.slot_write_self (inTable : id < maxTasks) :
    (kernel.write id position words).core.sched.slot id =
      (kernel.core.sched.slot id).write position words := by
  rw [slot_write, if_pos ⟨rfl, inTable⟩]

theorem Kernel.context_write (other : TaskId) :
    ((kernel.write id position words).core.sched.slot other).context =
      (kernel.core.sched.slot other).context := by
  rw [slot_write]
  split <;> rfl

/-- The kernel does not look at what is on the stacks. -/
theorem Core.Sound.write {core : Core C} (sound : core.Sound) (id : TaskId) (position : Nat)
    (words : List Word) : (core.modifyTask id (Task.write position words)).Sound := by
  have fits : ((core.sched.slot id).write position words).Fits id (core.HoldsAt id)
      (core.QueuesAt id) :=
    { sound.fits id with
      image_isSome := by simpa [Task.write] using (sound.fits id).image_isSome }
  refine sound.of_consistent (sound.toConsistent.modifyTask fits ?idle
    (Task.keepsMarks_of_same rfl rfl)) rfl fun other _ => ?same
  case idle =>
    rintro rfl
    exact sound.steady.idle
  case same =>
    rw [Core.slot_modifyTask]
    split <;> exact ⟨rfl, rfl⟩

theorem Situation.Sound.write [Machine C] (sound : kernel.situation.Sound) :
    (kernel.write id position words).situation.Sound where
  core := sound.core.write id position words
  settled := by
    intro idle
    obtain ⟨chosen, live⟩ := sound.settled idle
    refine ⟨chosen, ?_⟩
    exact (Kernel.context_write kernel.core.sched.current).trans live

end Write

/-! ### Frames that tell what to run -/

namespace TaskImage

variable {image : TaskImage} {start : Nat} {word : Word}

/-- The word in R0 of a task that starts with its argument. -/
def argumentWord (image : TaskImage) : Word := image.argument.toUInt32.toUInt64

/-- The frame at this index of the stack starts the entry with this word in R0. -/
structure FrameAt (image : TaskImage) (start : Nat) (word : Word) : Prop where
  r0 : image.stack[start + frameR0]? = some word
  pc : image.stack[start + framePc]? = some (image.entry &&& ~~~1)
  xpsr : image.stack[start + frameXpsr]? = some initialXpsr

theorem FrameAt.room (frame : image.FrameAt start word) :
    start + frameWords ≤ image.stack.size :=
  (Array.getElem?_eq_some_iff.mp frame.xpsr).1

theorem argumentWord_eq_zero_iff : image.argumentWord = 0 ↔ image.argument = 0 := by
  constructor
  · intro zero
    calc image.argument
      _ = image.argumentWord.toUInt32.toInt32 := by simp [argumentWord]
      _ = 0 := by
        rw [zero]
        rfl
  · intro zero
    rw [argumentWord, zero]
    rfl

@[simp] theorem argumentWord_laid (image : TaskImage) :
    image.laid.argumentWord = image.argumentWord := by
  simp only [argumentWord, laid]

@[simp] theorem argumentWord_write (position : Nat) (words : List Word) (image : TaskImage) :
    (image.write position words).argumentWord = image.argumentWord := by
  simp only [argumentWord, write]

/-- What an activation lays on the stack, if there is room for it, starts the entry with the
argument. -/
theorem frameAt_laid (image : TaskImage) (room : frameWords ≤ image.stack.size) :
    image.laid.FrameAt (image.stack.size - frameWords) image.argumentWord := by
  constructor
  all_goals
    rw [image.getElem?_laid room (by decide)]
    simp [initialFrame, frameR0, framePc, frameXpsr, laid, argumentWord]

end TaskImage

namespace Task

variable {task other : Task StackPointer} {image origin : TaskImage} {word : Word}

/-- The task is primed, and the frame that it starts from tells its entry and its argument. -/
def Whole (task : Task StackPointer) : Prop :=
  ∃ image start, task.image = some image ∧ task.context = .primed (.frame start) ∧
    image.FrameAt start image.argumentWord

theorem not_whole_of_r0 {start : Nat} (context : task.context = .primed (.frame start))
    (lost : task.image.all fun image =>
      image.stack[start + frameR0]? ≠ some image.argumentWord) : ¬ task.Whole := by
  rintro ⟨image, found, imaged, primed, frame⟩
  cases context.symm.trans primed
  rw [imaged, Option.all_some, decide_eq_true_eq] at lost
  exact lost frame.r0

/-- The task is primed at the top of its stack, and starts with this word in R0 if there is room for
a frame. -/
structure StartsWith (word : Word) (image : TaskImage) (task : Task StackPointer) : Prop where
  imaged : task.image = some image
  context : task.context = .primed (.frame (image.stack.size - frameWords))
  frame : frameWords ≤ image.stack.size → image.FrameAt (image.stack.size - frameWords) word

theorem StartsWith.whole_iff (starts : task.StartsWith word image) :
    task.Whole ↔ frameWords ≤ image.stack.size ∧ word = image.argumentWord := by
  constructor
  · rintro ⟨found, start, imaged, primed, frame⟩
    cases starts.imaged.symm.trans imaged
    cases starts.context.symm.trans primed
    have room := Nat.le_trans (Nat.le_add_left _ _) frame.room
    exact ⟨room, Option.some.inj ((starts.frame room).r0.symm.trans frame.r0)⟩
  · rintro ⟨room, rfl⟩
    exact ⟨image, _, starts.imaged, starts.context, starts.frame room⟩

theorem StartsWith.congr (starts : task.StartsWith word image) (same : task.SameFrame other) :
    other.StartsWith word image :=
  ⟨same.image.trans starts.imaged, same.context.trans starts.context, starts.frame⟩

/-- A task that has been activated starts with its argument. -/
theorem FreshFrom.startsWith (fresh : task.FreshFrom origin) :
    task.StartsWith origin.argumentWord origin.laid where
  imaged := fresh.image
  context := by
    rw [fresh.context, TaskImage.size_laid]
    rfl
  frame := by
    rw [TaskImage.size_laid]
    exact origin.frameAt_laid

end Task

end Rtos
