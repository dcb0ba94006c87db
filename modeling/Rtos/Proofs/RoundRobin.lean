/-
Module: Rtos.Proofs.RoundRobin
Purpose: Turns among equals.  Deciding and switching over and over, with nothing else happening,
  puts the most urgent tasks on the CPU one after the other, round and round the table, and no
  other task.
Main definitions: Scheduler.round, Scheduler.rounds, Scheduler.Resumable, Scheduler.rounded
Main statements: `Scheduler.leaders_of_round`, `Scheduler.Resumable.run_round`,
  `Scheduler.Resumable.run_rounds`, `Scheduler.served_in_turn`
-/
import Mathlib.Data.List.Rotate
import Rtos.Proofs.Precedence
import Rtos.Proofs.Switch

namespace Rtos

namespace Scheduler

variable {C : Type} {sched after : Scheduler C} {next : TaskId} {rest : List TaskId}
  {outgoing : C} {handles : List C}

/-! ### Rounds -/

/-- Decide and commit the decision.  The answer is the task that is on the CPU then. -/
def round (outgoing : C) : Action (Scheduler C) TaskId := do
  let _ ← reschedule
  let _ ← switchContext outgoing
  let sched ← Action.get
  pure sched.current

/-- One round for each handle.  The answer shows who was on the CPU after each. -/
def rounds : List C → Action (Scheduler C) (List TaskId)
  | [] => pure []
  | outgoing :: rest => do
      let now ← round outgoing
      let later ← rounds rest
      pure (now :: later)

/-- Whoever can be chosen has registers to go on with, and they are live for nobody but the task on
the CPU.  Nothing is asked of the running marks, since decisions do not look at them. -/
structure Resumable (sched : Scheduler C) : Prop where
  ids : ∀ id, (sched.slot id).id = id
  active : ∀ id, (sched.slot id).isRunnable → (sched.slot id).context ≠ .dormant
  onCpu : ∀ id, (sched.slot id).isRunnable → (sched.slot id).context = .onCpu →
    id = sched.current

/-! ### The order after a round -/

/-- Both ways of going on round the table end at the same slot. -/
private theorem step_on_mod (start step index size : Nat) :
    ((start + step + 1) % size + index + 1) % size =
      (start + (index + (step + 1)) % size + 1) % size := by
  rw [Nat.add_assoc _ index, Nat.mod_add_mod, Nat.add_right_comm start (_ % size),
    Nat.add_mod_mod]
  congr 1
  omega

/-- Seen from another slot, the way round the table begins behind that slot. -/
theorem scanOrder_eq_rotate {step : Nat}
    (current : after.current = (sched.current + step + 1) % maxTasks) :
    after.scanOrder = sched.scanOrder.rotate (step + 1) := by
  refine List.ext_getElem (by simp [scanOrder]) fun index _ _ => ?_
  simp only [scanOrder, List.getElem_rotate, List.getElem_map, List.getElem_range,
    List.length_map, List.length_range, current, step_on_mod]

theorem leads_congr (same : ∀ id, (after.slot id).SameChoice (sched.slot id)) (id : TaskId) :
    after.Leads id ↔ sched.Leads id := by
  constructor
  · rintro ⟨runnable, mostUrgent⟩
    refine ⟨(same id).runnable ▸ runnable, fun other runs => ?_⟩
    rw [← (same id).priority, ← (same other).priority]
    exact mostUrgent other ((same other).runnable.trans runs)
  · rintro ⟨runnable, mostUrgent⟩
    refine ⟨(same id).runnable.trans runnable, fun other runs => ?_⟩
    rw [(same id).priority, (same other).priority]
    exact mostUrgent other ((same other).runnable ▸ runs)

/-- The leader that has had its turn goes to the end. -/
theorem leaders_of_round (same : ∀ id, (after.slot id).SameChoice (sched.slot id))
    (leaders : sched.leaders = next :: rest) (current : after.current = next) :
    after.leaders = rest ++ [next] := by
  obtain ⟨passed, others, order, behindIt, leads, others_eq⟩ := List.filter_eq_cons_iff.mp leaders
  have place : sched.scanOrder[passed.length]? = some next := by rw [order]; simp
  obtain ⟨inside, found⟩ := List.getElem?_eq_some_iff.mp place
  have position : after.current = (sched.current + passed.length + 1) % maxTasks := by
    rw [current, ← found]
    simp [scanOrder]
  -- the way round now begins behind the task that was chosen
  have turned : after.scanOrder = others ++ (passed ++ [next]) := by
    rw [scanOrder_eq_rotate position, order]
    have cut : passed ++ next :: others = (passed ++ [next]) ++ others := by simp
    have length : passed.length + 1 = (passed ++ [next]).length := by simp
    rw [cut, length, List.rotate_append_length_eq]
  have filters : after.leaders = after.scanOrder.filter fun id => sched.Leads id := by
    rw [Scheduler.leaders]
    simp only [leads_congr same]
  rw [filters, turned, List.filter_append, others_eq, List.filter_append,
    List.filter_eq_nil_iff.mpr behindIt, List.nil_append]
  rw [List.filter_singleton, leads, cond_true]

/-! ### One round -/

/-- A switch leaves everything as it was that a decision looks at, except who is on the CPU. -/
theorem sameChoice_switched (inTable : sched.selected < maxTasks) (id : TaskId) :
    ((sched.switched outgoing).slot id).SameChoice (sched.slot id) := by
  rw [slot_switched inTable]
  split
  · exact ⟨rfl, rfl, rfl⟩
  · split
    · rw [Task.save_eq_with_context]
      exact ⟨rfl, rfl, rfl⟩
    · exact ⟨rfl, rfl, rfl⟩

/-- The scheduler after a round. -/
def rounded (sched : Scheduler C) (outgoing : C) : Scheduler C := sched.decided.switched outgoing

namespace Resumable

theorem decide_eq (resumable : sched.Resumable) (leaders : sched.leaders = next :: rest) :
    sched.decide = some next := by
  rw [decide_eq_head? resumable.ids, leaders, List.head?_cons]

theorem selected_decided (resumable : sched.Resumable) (leaders : sched.leaders = next :: rest) :
    sched.decided.selected = next := by
  rw [decided_eq (resumable.decide_eq leaders), selected_settle]

theorem selected_lt (resumable : sched.Resumable) (leaders : sched.leaders = next :: rest) :
    sched.decided.selected < maxTasks := by
  rw [resumable.selected_decided leaders]
  exact lt_of_isRunnable (leads_of_leaders_eq_cons leaders).runnable

/-- A round puts the first of the leaders on the CPU. -/
theorem run_round (resumable : sched.Resumable) (leaders : sched.leaders = next :: rest)
    (outgoing : C) :
    (round outgoing).run sched = ⟨.ok next, sched.rounded outgoing, sched.decisionTrace⟩ := by
  have selected := resumable.selected_decided leaders
  have runs := (leads_of_leaders_eq_cons leaders).runnable
  have context : (sched.decided.slot sched.decided.selected).context =
      (sched.slot next).context := by
    rw [context_decided resumable.ids, selected]
  have switch : (switchContext outgoing).run sched.decided =
      ⟨.ok (sched.decided.restored outgoing), sched.rounded outgoing, []⟩ := by
    refine run_switchContext_of_onCpu ?_ ?_
    · rw [context]
      exact resumable.active next runs
    · rw [context, selected, current_decided]
      exact resumable.onCpu next runs
  have arrived : (sched.rounded outgoing).current = next := selected
  simp only [round, Action.run_bind, run_reschedule, switch, Action.run_get, Action.run_pure,
    List.append_nil, arrived]

theorem sameChoice_rounded (resumable : sched.Resumable) (leaders : sched.leaders = next :: rest)
    (outgoing : C) (id : TaskId) :
    ((sched.rounded outgoing).slot id).SameChoice (sched.slot id) :=
  (sameChoice_switched (resumable.selected_lt leaders) id).trans
    (sameChoice_decided resumable.ids id)

/-- Where the registers are after a round. -/
theorem context_rounded (resumable : sched.Resumable) (leaders : sched.leaders = next :: rest)
    (outgoing : C) (id : TaskId) :
    ((sched.rounded outgoing).slot id).context =
      if id = next then .onCpu
      else if id = sched.current then ((sched.slot id).save outgoing).context
      else (sched.slot id).context := by
  rw [Scheduler.rounded, slot_switched (resumable.selected_lt leaders),
    resumable.selected_decided leaders, current_decided]
  split
  · rfl
  · split
    · exact Task.context_save_congr (context_decided resumable.ids id) outgoing
    · exact context_decided resumable.ids id

/-- After a round the next one can begin. -/
theorem rounded (resumable : sched.Resumable) (leaders : sched.leaders = next :: rest)
    (outgoing : C) : (sched.rounded outgoing).Resumable := by
  have same := resumable.sameChoice_rounded leaders outgoing
  have context := resumable.context_rounded leaders outgoing
  have current : (sched.rounded outgoing).current = next := resumable.selected_decided leaders
  refine { ids := ?ids, active := ?active, onCpu := ?onCpu }
  case ids =>
    intro id
    rw [(same id).id, resumable.ids]
  case active =>
    intro id runs
    rw [(same id).runnable] at runs
    rw [context]
    split
    · nofun
    · split
      · exact Task.context_save_ne_dormant (resumable.active id runs) outgoing
      · exact resumable.active id runs
  case onCpu =>
    intro id runs live
    rw [(same id).runnable] at runs
    rw [context] at live
    rw [current]
    by_contra apart
    rw [if_neg apart] at live
    split at live
    · exact Task.context_save_ne_onCpu _ _ live
    · rename_i away
      exact away (resumable.onCpu id runs live)

/-- After each round the leaders have moved on by one. -/
theorem leaders_rounded (resumable : sched.Resumable) (leaders : sched.leaders = next :: rest)
    (outgoing : C) : (sched.rounded outgoing).leaders = rest ++ [next] :=
  leaders_of_round (resumable.sameChoice_rounded leaders outgoing) leaders
    (resumable.selected_decided leaders)

/-- Round after round the leaders are on the CPU in their order, over and over. -/
theorem run_rounds (resumable : sched.Resumable) (somebody : sched.leaders ≠ [])
    (handles : List C) :
    ∃ served after seen, (rounds handles).run sched = ⟨.ok served, after, seen⟩ ∧
      served.length = handles.length ∧
      ∀ turn < handles.length,
        served[turn]? = sched.leaders[turn % sched.leaders.length]? := by
  -- the leaders go round with the rounds, so that the first of them is always next
  induction handles generalizing sched with
  | nil => exact ⟨[], sched, [], rfl, rfl, by simp⟩
  | cons outgoing handles ih =>
      obtain ⟨next, rest, leaders⟩ := List.exists_cons_of_ne_nil somebody
      have turned := resumable.leaders_rounded leaders outgoing
      obtain ⟨served, after, seen, run, length, later⟩ :=
        ih (resumable.rounded leaders outgoing) (by simp [turned])
      refine ⟨next :: served, after, sched.decisionTrace ++ seen, ?_, by simp [length], ?_⟩
      · simp only [rounds, Action.run_bind, resumable.run_round leaders outgoing, run,
          Action.run_pure, List.append_nil]
      · intro turn inside
        cases turn with
        | zero => simp [leaders]
        | succ turn =>
            have rotated : rest ++ [next] = sched.leaders.rotate 1 := by
              rw [leaders, List.rotate_cons_succ, List.rotate_zero]
            rw [List.getElem?_cons_succ, later turn (by simpa using inside), turned, rotated,
              List.length_rotate, List.getElem?_rotate (Nat.mod_lt _ (by simp [leaders])),
              Nat.mod_add_mod]

end Resumable

/-! ### Turns -/

/-- As many rounds as there are leaders give each of them one turn. -/
theorem count_rotate_leaders {id : TaskId} (leads : sched.Leads id) (done : Nat) :
    (sched.leaders.rotate done).count id = 1 := by
  rw [(List.rotate_perm _ _).count_eq]
  exact List.count_eq_one_of_mem sched.nodup_leaders (mem_leaders.mpr leads)

/-- Turns among equals.  The leaders are the most urgent of the runnable tasks, in their order round
the table from behind the task on the CPU.  Whatever the number of rounds, only leaders get on the
CPU, and in any stretch of as many rounds as there are leaders each does once: in that order from
the first round on, and in the order turned round for a stretch that begins later. -/
theorem served_in_turn (sched : Scheduler C) (resumable : sched.Resumable)
    (somebody : ∃ id, (sched.slot id).isRunnable) (handles : List C) :
    (∀ id, id ∈ sched.leaders ↔ sched.Leads id) ∧
      (sched.leaders.Pairwise fun near far => sched.distance near < sched.distance far) ∧
      ∃ served after seen, (rounds handles).run sched = ⟨.ok served, after, seen⟩ ∧
        served.length = handles.length ∧
        (∀ id ∈ served, sched.Leads id) ∧
        ∀ done, done + sched.leaders.length ≤ handles.length →
          (served.drop done).take sched.leaders.length = sched.leaders.rotate done ∧
            ∀ id, sched.Leads id →
              ((served.drop done).take sched.leaders.length).count id = 1 := by
  obtain ⟨id, runs⟩ := somebody
  obtain ⟨next, chosen⟩ := exists_decide runs
  rw [decide_eq_head? resumable.ids] at chosen
  have nonempty : sched.leaders ≠ [] := by
    intro nobody
    rw [nobody] at chosen
    cases chosen
  have positive : 0 < sched.leaders.length := List.length_pos_of_ne_nil nonempty
  obtain ⟨served, after, seen, run, length, turns⟩ := resumable.run_rounds nonempty handles
  refine ⟨fun _ => mem_leaders, sched.pairwise_leaders, served, after, seen, run, length,
    ?leaders, ?stretch⟩
  case leaders =>
    intro id member
    obtain ⟨turn, inside, here⟩ := List.mem_iff_getElem.mp member
    have turned := turns turn (length ▸ inside)
    rw [List.getElem?_eq_getElem inside, here] at turned
    exact mem_leaders.mp (List.mem_of_getElem? turned.symm)
  case stretch =>
    intro done enough
    have stretch : (served.drop done).take sched.leaders.length = sched.leaders.rotate done := by
      refine List.ext_getElem? fun turn => ?_
      by_cases inside : turn < sched.leaders.length
      · rw [List.getElem?_take_of_lt inside, List.getElem?_drop, turns _ (by omega),
          List.getElem?_rotate inside, Nat.add_comm]
      · rw [List.getElem?_take_eq_none (by omega), List.getElem?_eq_none (by simp; omega)]
    exact ⟨stretch, fun id leads => stretch ▸ count_rotate_leaders leads done⟩

/-- The three equals get their turns, and the others do not. -/
theorem served_in_turn_threeEqual :
    threeEqual.Resumable ∧ (∃ id, (threeEqual.slot id).isRunnable) ∧
      threeEqual.leaders = [7, 1, 4] ∧
      ∃ served after seen, (rounds [10, 11, 12, 13, 14, 15, 16]).run threeEqual =
          ⟨.ok served, after, seen⟩ ∧
        (served.drop 2).take 3 = [4, 7, 1] := by
  have inTable : ∀ id, (threeEqual.slot id).isRunnable → id < maxTasks :=
    fun _ => lt_of_isRunnable
  have resumable : threeEqual.Resumable := {
    ids := ids_of_inTable (by decide)
    active := fun id runs => (by decide : ∀ id < maxTasks, (threeEqual.slot id).isRunnable →
      (threeEqual.slot id).context ≠ .dormant) id (inTable id runs) runs
    onCpu := fun id runs => (by decide : ∀ id < maxTasks, (threeEqual.slot id).isRunnable →
      (threeEqual.slot id).context = .onCpu → id = threeEqual.current) id (inTable id runs) runs }
  have leaders : threeEqual.leaders = [7, 1, 4] := by decide
  have somebody : ∃ id, (threeEqual.slot id).isRunnable := ⟨7, by decide⟩
  obtain ⟨-, -, served, after, seen, run, -, -, stretch⟩ :=
    served_in_turn threeEqual resumable somebody [10, 11, 12, 13, 14, 15, 16]
  have third := (stretch 2 (by rw [leaders]; decide)).1
  rw [leaders] at third
  exact ⟨resumable, somebody, leaders, served, after, seen, run, third⟩

end Scheduler

end Rtos
