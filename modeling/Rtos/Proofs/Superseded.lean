/-
Module: Rtos.Proofs.Superseded
Purpose: Interrupts that come before a switch is carried out may come in any order.  Each of them
  may take a decision, but the last decision is what all of them together ask for, and those that
  it supersedes leave no trace.
Main definitions: Kernel.inTurn, Kernel.change, Kernel.uncounted, Kernel.answered
Main statements: `Scheduler.Poised.decided_amend_decided`, `Kernel.uncounted_serve_inTurn`,
  `Execution.serve_inTurn_perm`
-/
import Rtos.Proofs.Amendment
import Rtos.Proofs.Execution
import Rtos.Proofs.Precedence

namespace Rtos

/-! ### A change after a decision -/

namespace Scheduler

variable {C : Type} [Machine C] {sched : Scheduler C} {call : InterruptCall}

/-- A decision that comes before a change leaves no trace after the next one. -/
theorem Poised.decided_amend_decided (poised : sched.Poised) (call : InterruptCall) :
    (sched.decided.amend call).decided = (sched.amend call).decided := by
  have early := poised.decided.amend call
  have late := poised.amend call
  have slots := demote_amend_congr poised.demote_decided call
  have current : (sched.decided.amend call).current = (sched.amend call).current :=
    current_decided
  have chosen := decide_congr current fun id => Task.sameChoice_of_demote (slots id)
  refine eq_of_soleMark ?_ ?_ ?_ early.soleMark_decided late.soleMark_decided
  · rw [current_decided, current_decided, current]
  · rw [← Option.some_inj, early.selected_decided, late.selected_decided, chosen]
  · intro id
    rw [early.demote_decided, late.demote_decided, slots]

/-- A change that readies nobody does not make the last decision wrong. -/
theorem Poised.decided_amend (poised : sched.Poised)
    (quiet : call.readies (sched.slot call.target) = false) :
    sched.decided.amend call = (sched.amend call).decided := by
  have late := poised.amend call
  have chosen : (sched.amend call).decide = sched.decide :=
    decide_congr rfl fun id => (goesOn_amend quiet id).sameChoice
  refine eq_of_soleMark ?_ ?_ ?_ ?_ late.soleMark_decided
  · rw [current_decided, current_amend, current_amend, current_decided]
  · change sched.decided.selected = _
    rw [← Option.some_inj, poised.selected_decided, late.selected_decided, chosen]
  · intro id
    rw [late.demote_decided, demote_amend_congr poised.demote_decided]
  · intro id
    exact (sched.decided.amended_amend call id).running_iff.trans (poised.soleMark_decided id)

/-- Whether a switch is needed does not depend on a change that readies nobody. -/
theorem needsSwitch_amend (quiet : call.readies (sched.slot call.target) = false) :
    (sched.amend call).needsSwitch = sched.needsSwitch := by
  rw [needsSwitch, (goesOn_amend quiet _).context]
  rfl

/-- If a decision needs a switch, the one after a change does too: a task that is made ready cannot
bring the one on the CPU back to the front. -/
theorem Poised.needsSwitch_of_amend (poised : sched.Poised) (live : sched.LiveRuns)
    (needs : sched.decided.needsSwitch) : (sched.amend call).decided.needsSwitch := by
  by_contra needless
  have late := poised.amend call
  obtain ⟨chosen, onCpu⟩ := needsSwitch_eq_false_iff.mp (Bool.eq_false_iff.mpr needless)
  rw [chosen, late.context_decided, current_decided, current_amend] at onCpu
  -- The task on the CPU could go on before the change, so that it is the same after it.
  have before := (sched.amended_amend call _).onCpu onCpu
  have runnable := live before
  have keeps : ∀ id, (sched.slot id).isRunnable →
      ((sched.amend call).slot id).SameChoice (sched.slot id) := fun id runs =>
    ((sched.amended_amend call id).goesOn_of_isRunnable runs).sameChoice
  have first : (sched.amend call).decide = some (sched.amend call).current := by
    rw [← late.selected_decided, chosen, current_decided]
  rw [late.decide_eq_current_iff ((keeps _ runnable).runnable.trans runnable)] at first
  have stays : sched.decide = some sched.current := by
    refine (poised.decide_eq_current_iff runnable).mpr fun id differ runs => ?_
    have ahead := first id differ ((keeps id runs).runnable.trans runs)
    rwa [(keeps id runs).priority, current_amend, (keeps _ runnable).priority] at ahead
  have selected : sched.decided.selected = sched.decided.current := by
    rw [← Option.some_inj, poised.selected_decided, stays, current_decided]
  have settled : sched.decided.needsSwitch = false := by
    refine needsSwitch_eq_false_iff.mpr ⟨selected, ?_⟩
    rw [selected, current_decided, poised.context_decided, before]
  rw [settled] at needs
  cases needs

/-- Of the switches that two decisions in a row ask for, the later one is enough. -/
theorem Poised.pending_or_needsSwitch_amend {pending : Bool} (poised : sched.Poised)
    (live : pending = false → sched.LiveRuns) (call : InterruptCall) :
    (pending || sched.decided.needsSwitch || (sched.amend call).decided.needsSwitch) =
      (pending || (sched.amend call).decided.needsSwitch) := by
  cases pending with
  | true => rfl
  | false =>
      cases needs : sched.decided.needsSwitch with
      | false => rfl
      | true => rw [poised.needsSwitch_of_amend (live rfl) needs, Bool.or_true, Bool.or_true]

end Scheduler

/-! ### Interrupts in turn -/

namespace Kernel

variable {C : Type}

/-- Answer interrupts one after the other.  A refusal does not keep the next one from being
answered. -/
def inTurn (answer : InterruptCall → Action (Kernel C) Unit) :
    List InterruptCall → Action (Kernel C) Unit
  | [] => pure ()
  | call :: rest => do
      let _ ← (answer call).attempt
      inTurn answer rest

/-- Change the task that an interrupt is about, and take no decision. -/
def change [Machine C] : InterruptCall → Action (Kernel C) Unit
  | .activateTask target => ready target
  | .setEvent target mask => do
      let _ ← onScheduler (Scheduler.setEvent target mask)

/-- The kernel but for the number of requests for a switch. -/
def uncounted (kernel : Kernel C) : Kernel C :=
  { kernel with line := { kernel.line with requests := 0 } }

variable [Machine C] {kernel other : Kernel C} {call : InterruptCall} {calls : List InterruptCall}

omit [Machine C] in
theorem state_inTurn_concat (answer : InterruptCall → Action (Kernel C) Unit)
    (calls : List InterruptCall) (call : InterruptCall) (kernel : Kernel C) :
    ((inTurn answer (calls ++ [call])).run kernel).state =
      ((answer call).run ((inTurn answer calls).run kernel).state).state := by
  induction calls generalizing kernel with
  | nil => rfl
  | cons first rest ih =>
      rw [List.cons_append, inTurn, inTurn, Action.run_attempt_bind, Action.run_attempt_bind]
      exact ih _

omit [Machine C] in
theorem state_inTurn_bind (answer : InterruptCall → Action (Kernel C) Unit)
    (calls : List InterruptCall) (next : Unit → Action (Kernel C) Unit) (kernel : Kernel C) :
    ((inTurn answer calls >>= next).run kernel).state =
      ((next ()).run ((inTurn answer calls).run kernel).state).state := by
  have done : ((inTurn answer calls).run kernel).result = .ok () := by
    induction calls generalizing kernel with
    | nil => rfl
    | cons call rest ih =>
        rw [inTurn, Action.run_attempt_bind]
        exact ih _
  rw [Action.run_bind, done]

/-- The kernel with its tasks changed. -/
def amended (kernel : Kernel C) (sched : Scheduler C) : Kernel C :=
  { kernel with core := { kernel.core with sched } }

/-- The kernel after some changes, and after a decision if they ready somebody. -/
def answered (kernel : Kernel C) (calls : List InterruptCall) : Kernel C :=
  if kernel.core.sched.anyReadied calls then
    (kernel.amended (kernel.core.sched.amendAll calls)).redecided
  else kernel.amended (kernel.core.sched.amendAll calls)

theorem answered_of_readied (readied : kernel.core.sched.anyReadied calls) :
    kernel.answered calls = (kernel.amended (kernel.core.sched.amendAll calls)).redecided :=
  if_pos readied

theorem answered_of_quiet (quiet : kernel.core.sched.anyReadied calls = false) :
    kernel.answered calls = kernel.amended (kernel.core.sched.amendAll calls) :=
  if_neg (Bool.eq_false_iff.mp quiet)

theorem poised_answered (poised : kernel.core.sched.Poised) (calls : List InterruptCall) :
    (kernel.answered calls).core.sched.Poised := by
  unfold answered
  split
  · exact (poised.amendAll calls).decided
  · exact poised.amendAll calls

/-- An interrupt that is refused changes nothing, and readies nobody. -/
theorem amended_of_edit (same : call.edit (kernel.core.sched.slot call.target) =
    kernel.core.sched.slot call.target) :
    kernel.amended (kernel.core.sched.amend call) = kernel ∧
      call.readies (kernel.core.sched.slot call.target) = false := by
  refine ⟨?_, InterruptCall.not_readies_of_isRunnable_eq (by rw [same])⟩
  have unchanged : kernel.core.sched.amend call = kernel.core.sched := by
    refine Scheduler.ext_slot rfl rfl fun id => ?_
    rw [Scheduler.slot_amend]
    split
    · rename_i here
      subst here
      exact same
    · rfl
  rw [unchanged]
  rfl

/-- How a task is made ready, whatever its state. -/
theorem ready_cases (kernel : Kernel C) (id : TaskId) :
    let call := InterruptCall.activateTask id
    (ready id).run kernel = ⟨.ok (), kernel.amended (kernel.core.sched.amend call), []⟩ ∧
        call.readies (kernel.core.sched.slot id) ∨
      Refuses kernel ((ready id).run kernel) ∧
        call.edit (kernel.core.sched.slot id) = kernel.core.sched.slot id := by
  dsimp only
  cases activated : (kernel.core.sched.slot id).activate Machine.prime with
  | ok fresh =>
      have declared : (kernel.core.sched.slot id).state ≠ .free := by
        rw [Task.suspended_of_activate activated]
        decide
      have started : InterruptCall.edit (.activateTask id) (kernel.core.sched.slot id) = fresh := by
        rw [InterruptCall.edit, Task.started, activated]
      refine .inl ⟨?_, InterruptCall.readies_of_readied ?_⟩
      · rw [ready, run_updateTask declared activated, ← started]
        rfl
      · rw [started]
        exact Task.readied_of_activate activated
  | error reason =>
      refine .inr ⟨run_updateTask_of_error ?_, ?_⟩
      · intro fresh same
        rw [activated] at same
        cases same
      · rw [InterruptCall.edit, Task.started, activated]

/-- How events are delivered to a task, whatever its state. -/
theorem setEvent_cases (kernel : Kernel C) (id : TaskId) (mask : EventMask) :
    let call := InterruptCall.setEvent id mask
    (onScheduler (Scheduler.setEvent id mask)).run kernel =
        ⟨.ok (call.readies (kernel.core.sched.slot id)),
          kernel.amended (kernel.core.sched.amend call), []⟩ ∨
      Refuses kernel ((onScheduler (Scheduler.setEvent id mask)).run kernel) ∧
        call.edit (kernel.core.sched.slot id) = kernel.core.sched.slot id := by
  intro call
  by_cases active : (kernel.core.sched.slot id).state.isActive
  · have done := Scheduler.run_setEvent active mask
    have notified : call.edit (kernel.core.sched.slot id) =
        if ((kernel.core.sched.slot id).deliver mask).hasAwaited then
          ((kernel.core.sched.slot id).deliver mask).wake
        else (kernel.core.sched.slot id).deliver mask := if_pos active
    refine .inl ?_
    split at done <;> rename_i hit
    · rw [if_pos hit] at notified
      have edited : kernel.core.sched.amend call =
          kernel.core.sched.modify id fun task => (task.deliver mask).wake :=
        Scheduler.amend_eq_modify notified
      have readies : call.readies (kernel.core.sched.slot id) := by
        refine InterruptCall.readies_of_readied ?_
        rw [notified]
        exact Task.readied_of_hasAwaited hit
      rw [run_onScheduler done, readies, edited]
      rfl
    · rw [if_neg hit] at notified
      have edited : kernel.core.sched.amend call =
          kernel.core.sched.modify id (Task.deliver mask) := Scheduler.amend_eq_modify notified
      have readies : call.readies (kernel.core.sched.slot id) = false := by
        refine InterruptCall.not_readies_of_isRunnable_eq ?_
        rw [notified]
        rfl
      rw [run_onScheduler done, readies, edited]
      rfl
  · refine .inr ⟨?_, if_neg active⟩
    obtain ⟨reason, unknown⟩ := Scheduler.eventTarget_eq_error active
    have refused : (Scheduler.setEvent id mask).run kernel.core.sched =
        ⟨.error reason, kernel.core.sched, []⟩ := by
      rw [Scheduler.setEvent, Action.run_get_bind, unknown, Action.run_error_bind]
    exact refuses_onScheduler refused

/-- An interrupt that takes no decision leaves its change behind. -/
theorem state_change (kernel : Kernel C) (call : InterruptCall) :
    ((change call).run kernel).state = kernel.amended (kernel.core.sched.amend call) := by
  cases call with
  | activateTask id =>
      rcases kernel.ready_cases id with ⟨done, -⟩ | ⟨⟨reason, refused⟩, same⟩
      · rw [change, done]
      · rw [change, refused, (amended_of_edit same).1]
  | setEvent id mask =>
      rcases kernel.setEvent_cases id mask with done | ⟨⟨reason, refused⟩, same⟩
      · rw [change, Action.run_bind_of_ok done]
        rfl
      · rw [change, Action.run_bind_of_error refused, (amended_of_edit same).1]

/-- An interrupt is answered by its change, and by a decision if it readies somebody. -/
theorem state_serve (poised : kernel.core.sched.Poised) (call : InterruptCall) :
    ((serve call).run kernel).state = kernel.answered [call] := by
  have decision : reschedule.run (kernel.amended (kernel.core.sched.amend call)) =
      ⟨.ok (), (kernel.amended (kernel.core.sched.amend call)).redecided,
        (kernel.core.sched.amend call).decisionTrace⟩ :=
    run_reschedule_of_idle (poised.amend call).idle
  have single := kernel.core.sched.anyReadied_singleton call
  cases call with
  | activateTask id =>
      rcases kernel.ready_cases id with ⟨done, readies⟩ | ⟨⟨reason, refused⟩, same⟩
      · rw [serve, activateTask, Action.run_bind_of_ok done, Action.run_log_bind, decision,
          answered_of_readied (single.trans readies)]
        rfl
      · obtain ⟨unchanged, quiet⟩ := amended_of_edit same
        rw [serve, activateTask, Action.run_bind_of_error refused,
          answered_of_quiet (single.trans quiet)]
        exact unchanged.symm
  | setEvent id mask =>
      rcases kernel.setEvent_cases id mask with done | ⟨⟨reason, refused⟩, same⟩
      · rw [serve, setEvent, Action.run_bind_of_ok done]
        cases readies : InterruptCall.readies (.setEvent id mask) (kernel.core.sched.slot id) with
        | true =>
            rw [if_pos rfl, decision, answered_of_readied (single.trans readies)]
            rfl
        | false =>
            rw [answered_of_quiet (single.trans readies)]
            rfl
      · obtain ⟨unchanged, quiet⟩ := amended_of_edit same
        rw [serve, setEvent, Action.run_bind_of_error refused,
          answered_of_quiet (single.trans quiet)]
        exact unchanged.symm

omit [Machine C] in
theorem core_eq_of_uncounted (same : kernel.uncounted = other.uncounted) :
    kernel.core = other.core := by
  have core : kernel.uncounted.core = other.uncounted.core := by rw [same]
  exact core

/-- The kernel with its tasks changed and with a switch pending or not. -/
def outcome (kernel : Kernel C) (sched : Scheduler C) (pending : Bool) : Kernel C :=
  { kernel.amended sched with line := { pending, requests := 0 } }

omit [Machine C] in
theorem pending_redecided (kernel : Kernel C) :
    kernel.redecided.line.pending =
      (kernel.line.pending || kernel.core.sched.decided.needsSwitch) := by
  change (if kernel.core.sched.decided.needsSwitch then kernel.line.request
    else kernel.line).pending = _
  cases kernel.core.sched.decided.needsSwitch with
  | true => exact (Bool.or_true _).symm
  | false => exact (Bool.or_false _).symm

omit [Machine C] in
theorem uncounted_redecided (kernel : Kernel C) :
    kernel.redecided.uncounted =
      kernel.outcome kernel.core.sched.decided
        (kernel.line.pending || kernel.core.sched.decided.needsSwitch) := by
  rw [← pending_redecided]
  rfl

omit [Machine C] in
theorem uncounted_amended_redecided (kernel : Kernel C) (first second : Scheduler C) :
    ((kernel.amended first).redecided.amended second).uncounted =
      kernel.outcome second (kernel.line.pending || first.decided.needsSwitch) := by
  have pending := pending_redecided (kernel.amended first)
  change kernel.outcome second (kernel.amended first).redecided.line.pending = _
  rw [pending]
  rfl

omit [Machine C] in
theorem uncounted_redecided_redecided (kernel : Kernel C) (first second : Scheduler C) :
    ((kernel.amended first).redecided.amended second).redecided.uncounted =
      kernel.outcome second.decided
        (kernel.line.pending || first.decided.needsSwitch || second.decided.needsSwitch) := by
  have pending := pending_redecided (kernel.amended first)
  rw [uncounted_redecided]
  change kernel.outcome second.decided
    ((kernel.amended first).redecided.line.pending || second.decided.needsSwitch) = _
  rw [pending]
  rfl

/-- An answer does not depend on the number of requests. -/
theorem uncounted_answered_congr (same : kernel.uncounted = other.uncounted)
    (calls : List InterruptCall) :
    (kernel.answered calls).uncounted = (other.answered calls).uncounted := by
  have forgets : ∀ kernel : Kernel C,
      (kernel.answered calls).uncounted = (kernel.uncounted.answered calls).uncounted := by
    intro kernel
    cases readied : kernel.core.sched.anyReadied calls with
    | false =>
        have same : kernel.uncounted.core.sched.anyReadied calls = false := readied
        rw [answered_of_quiet readied, answered_of_quiet same]
        rfl
    | true =>
        have same : kernel.uncounted.core.sched.anyReadied calls = true := readied
        rw [answered_of_readied readied, answered_of_readied same, uncounted_redecided,
          uncounted_redecided]
        rfl
  rw [forgets kernel, same, ← forgets]

/-- One more interrupt, about another task, adds its change and leaves one decision. -/
theorem uncounted_answered_concat (poised : kernel.core.sched.Poised)
    (live : kernel.line.pending = false → kernel.core.sched.LiveRuns)
    (elsewhere : call.target ∉ calls.map InterruptCall.target) :
    ((kernel.answered calls).answered [call]).uncounted =
      (kernel.answered (calls ++ [call])).uncounted := by
  let sched := kernel.core.sched.amendAll calls
  have poised : sched.Poised := poised.amendAll calls
  have target : sched.slot call.target = kernel.core.sched.slot call.target :=
    Scheduler.slot_amendAll_of_notMem elsewhere
  have whole : kernel.core.sched.amendAll (calls ++ [call]) = sched.amend call :=
    Scheduler.amendAll_concat ..
  have both := kernel.core.sched.anyReadied_concat calls call
  cases readied : kernel.core.sched.anyReadied calls with
  | false =>
      have single : sched.anyReadied [call] = kernel.core.sched.anyReadied (calls ++ [call]) := by
        rw [both, readied, Scheduler.anyReadied_singleton, target, Bool.false_or]
      rw [answered_of_quiet readied, answered, answered, whole, ← single]
      rfl
  | true =>
      -- The decision taken before is wiped out by the next one, or stays right if there is none.
      have single : (kernel.amended sched).redecided.core.sched.anyReadied [call] =
          call.readies (sched.decided.slot call.target) := Scheduler.anyReadied_singleton ..
      have alone : (kernel.amended sched).redecided.core.sched.amendAll [call] =
          sched.decided.amend call := rfl
      rw [readied, Bool.true_or] at both
      rw [answered_of_readied readied, answered_of_readied both, whole, uncounted_redecided]
      cases readies : call.readies (sched.decided.slot call.target) with
      | false =>
          have quiet : call.readies (sched.slot call.target) = false := by
            rw [← readies]
            exact InterruptCall.readies_congr (poised.demote_decided _).symm
          rw [answered_of_quiet (single.trans readies), alone, uncounted_amended_redecided,
            ← Scheduler.needsSwitch_amend readies, poised.decided_amend quiet]
          rfl
      | true =>
          have liveBefore : kernel.line.pending = false → sched.LiveRuns :=
            fun idle => (live idle).amendAll calls
          rw [answered_of_readied (single.trans readies), alone, uncounted_redecided_redecided,
            poised.decided_amend_decided, poised.pending_or_needsSwitch_amend liveBefore]
          rfl

/-- However many decisions are taken on the way, what interrupts of different tasks leave behind is
their changes and one decision. -/
theorem uncounted_serve_inTurn (poised : kernel.core.sched.Poised)
    (live : kernel.line.pending = false → kernel.core.sched.LiveRuns)
    (apart : (calls.map InterruptCall.target).Nodup) :
    ((inTurn serve calls).run kernel).state.uncounted = (kernel.answered calls).uncounted := by
  induction calls using List.reverseRecOn with
  | nil => rfl
  | append_singleton calls call ih =>
      obtain ⟨apart, elsewhere⟩ := InterruptCall.nodup_of_concat apart
      have before := ih apart
      have ready : ((inTurn serve calls).run kernel).state.core.sched.Poised := by
        rw [core_eq_of_uncounted before]
        exact poised_answered poised calls
      rw [state_inTurn_concat, state_serve ready, uncounted_answered_congr before,
        uncounted_answered_concat poised live elsewhere]

theorem state_change_inTurn (calls : List InterruptCall) (kernel : Kernel C) :
    ((inTurn change calls).run kernel).state =
      kernel.amended (kernel.core.sched.amendAll calls) := by
  induction calls generalizing kernel with
  | nil => rfl
  | cons call rest ih =>
      rw [inTurn, Action.run_attempt_bind]
      dsimp only
      rw [ih, state_change]
      rfl

end Kernel

namespace Execution

variable {C : Type} [Machine C] {admits : Step C → Prop} {config : Configuration}
  {steps : List (Step C)} {kernel : Kernel C} {calls other : List InterruptCall}

theorem poised (execution : Execution admits config steps kernel) : kernel.core.sched.Poised where
  ids := execution.core_sound.id_eq
  idle := execution.core_sound.steady.idle
  marked := execution.core_sound.steady.marked

/-- Before the launch nobody has registers on the CPU, and from then on only the chosen task is left
there without a switch pending. -/
theorem liveRuns (execution : Execution admits config steps kernel)
    (idle : kernel.line.pending = false) : kernel.core.sched.LiveRuns := by
  intro onCpu
  cases steps with
  | nil =>
      cases execution with
      | boot built booted heap =>
          rcases Kernel.boot_context built booted _ with dormant | ⟨spec, -, -, primed⟩
          · cases dormant.symm.trans onCpu
          · cases primed.symm.trans onCpu
  | cons step earlier =>
      obtain ⟨sound, launched⟩ := execution.invariant
      exact sound.current_runnable ((launched (List.cons_ne_nil _ _)).settled idle).1

/-- Interrupts that are about different tasks may come in any order before a switch is carried out;
and if they ready somebody, it is as if all of them had made their changes and one decision had been
taken on the outcome. -/
theorem serve_inTurn_perm (execution : Execution admits config steps kernel)
    (perm : calls.Perm other) (apart : (calls.map InterruptCall.target).Nodup) :
    ((Kernel.inTurn Kernel.serve calls).run kernel).state.uncounted =
        ((Kernel.inTurn Kernel.serve other).run kernel).state.uncounted ∧
      ((∃ task, (kernel.sched.slot task).isRunnable = false ∧
          (((Kernel.inTurn Kernel.serve calls).run kernel).state.sched.slot task).isRunnable) →
        ((Kernel.inTurn Kernel.serve calls).run kernel).state.uncounted =
          ((Kernel.inTurn Kernel.change calls >>= fun _ =>
            Kernel.reschedule).run kernel).state.uncounted) := by
  have answered := Kernel.uncounted_serve_inTurn execution.poised execution.liveRuns apart
  have together : kernel.answered calls = kernel.answered other := by
    have readied : kernel.core.sched.anyReadied calls = kernel.core.sched.anyReadied other :=
      perm.any_eq
    rw [Kernel.answered, Kernel.answered, Scheduler.amendAll_perm perm apart, readied]
  refine ⟨?_, ?_⟩
  · rw [answered, together]
    refine (Kernel.uncounted_serve_inTurn execution.poised execution.liveRuns ?_).symm
    exact (perm.map _).nodup_iff.mp apart
  · rintro ⟨task, blocked, runnable⟩
    have readied : kernel.core.sched.anyReadied calls := by
      by_contra quiet
      have quiet := Bool.eq_false_iff.mpr quiet
      rw [Kernel.sched, Kernel.core_eq_of_uncounted answered, Kernel.answered_of_quiet quiet]
        at runnable
      change ((kernel.core.sched.amendAll calls).slot task).isRunnable at runnable
      rw [Scheduler.isRunnable_amendAll apart quiet] at runnable
      rw [Kernel.sched, runnable] at blocked
      cases blocked
    have decision := Kernel.run_reschedule_of_idle
      (show ((kernel.amended (kernel.core.sched.amendAll calls)).core.sched.slot
        idleTask).state.isRunnable from (execution.poised.amendAll calls).idle)
    rw [answered, Kernel.answered_of_readied readied, Kernel.state_inTurn_bind,
      Kernel.state_change_inTurn, decision]

set_option maxRecDepth 8000 in
/-- The decision for a task that is woken is superseded by that for one that is activated. -/
theorem serve_inTurn_of_woken_and_activated :
    let calls := [InterruptCall.setEvent 1 1, .activateTask 2]
    ∃ (steps : List (Step FrameIndex)) (kernel : Kernel FrameIndex),
      Execution (fun _ => True) (Configuration.pair 2) steps kernel ∧
        ((Kernel.serve (.setEvent 1 1)).run kernel).state.sched.selected = 1 ∧
        ((Kernel.inTurn Kernel.serve calls).run kernel).state.sched.selected = 2 ∧
        ((Kernel.inTurn Kernel.serve calls).run kernel).state.uncounted =
          ((Kernel.inTurn Kernel.serve calls.reverse).run kernel).state.uncounted ∧
        ((Kernel.inTurn Kernel.serve calls).run kernel).state.uncounted =
          ((Kernel.inTurn Kernel.change calls >>= fun _ =>
            Kernel.reschedule).run kernel).state.uncounted := by
  intro calls
  let operations : List (Operation FrameIndex) :=
    [.launch ⟨0⟩, .request (.waitEvent 1), .dispatch ⟨1⟩]
  have execution : Execution (fun _ => True) (Configuration.pair 2) (pairSteps 2 operations)
      (pairReached 2 operations) :=
    of_pair (by decide) (by decide) (by decide)
  have perm : calls.Perm calls.reverse := (List.reverse_perm calls).symm
  obtain ⟨ordered, once⟩ := execution.serve_inTurn_perm perm (by decide)
  exact ⟨_, _, execution, by decide, by decide, ordered, once ⟨2, by decide, by decide⟩⟩

end Execution

end Rtos
