/-
Module: Rtos.Proofs.Precedence
Purpose: Which task a decision chooses.  It is the first of the runnable tasks in order of priority
  and, among equals, of the way from the task on the CPU round the table.
Main definitions: Scheduler.distance, Scheduler.precedence, Scheduler.Foremost, Scheduler.Leads,
  Scheduler.leaders
Main statements: `Scheduler.decide_eq_head?`, `Scheduler.head?_leaders_iff`,
  `Scheduler.decide_eq_some_iff`, `Scheduler.Poised.decide_eq_current_iff`,
  `Scheduler.run_reschedule_decided`, `Scheduler.decides_foremost`
-/
import Mathlib.Data.Prod.Lex
import Rtos.Proofs.Redecision

namespace Rtos

namespace Scheduler

variable {C : Type} {sched : Scheduler C} {id other next : TaskId}

/-! ### The order of tasks -/

/-- The slots between the task on the CPU and another one on the way round the table.  The task on
the CPU itself is the farthest. -/
def distance (sched : Scheduler C) (id : TaskId) : Int :=
  ((id : Int) - sched.current - 1) % (maxTasks : Int)

/-- What decides between two runnable tasks, the smaller being preferred: first their priorities,
and then how far they are. -/
def precedence (sched : Scheduler C) (id : TaskId) : Priority ×ₗ Int :=
  toLex ((sched.slot id).priority, sched.distance id)

/-- The task is runnable and takes precedence over all others that are. -/
structure Foremost (sched : Scheduler C) (next : TaskId) : Prop where
  runnable : (sched.slot next).isRunnable
  first : ∀ other, (sched.slot other).isRunnable → other ≠ next →
    sched.precedence next < sched.precedence other

/-- The task is runnable, and no other one that is has a more urgent priority. -/
structure Leads (sched : Scheduler C) (id : TaskId) : Prop where
  runnable : (sched.slot id).isRunnable
  mostUrgent : ∀ other, (sched.slot other).isRunnable →
    (sched.slot id).priority ≤ (sched.slot other).priority

/-- Only tasks of the table can be more urgent. -/
instance : DecidablePred sched.Leads := fun id =>
  decidable_of_iff
    ((sched.slot id).isRunnable ∧ ∀ other < maxTasks, (sched.slot other).isRunnable →
      (sched.slot id).priority ≤ (sched.slot other).priority)
    ⟨fun ⟨runnable, mostUrgent⟩ =>
      ⟨runnable, fun other runs => mostUrgent other (lt_of_isRunnable runs) runs⟩,
      fun ⟨runnable, mostUrgent⟩ => ⟨runnable, fun other _ => mostUrgent other⟩⟩

/-- The most urgent of the runnable tasks, in the order in which a decision comes across them. -/
def leaders (sched : Scheduler C) : List TaskId := sched.scanOrder.filter fun id => sched.Leads id

theorem mem_leaders : id ∈ sched.leaders ↔ sched.Leads id := by
  simp only [leaders, List.mem_filter, mem_scanOrder, decide_eq_true_eq, and_iff_right_iff_imp]
  exact fun leads => lt_of_isRunnable leads.runnable

theorem leads_of_leaders_eq_cons {rest : List TaskId} (leaders : sched.leaders = id :: rest) :
    sched.Leads id :=
  mem_leaders.mp (leaders ▸ List.mem_cons_self)

/-- Tasks as urgent as a leader lead as well. -/
theorem Leads.of_le (leads : sched.Leads id) (runnable : (sched.slot other).isRunnable)
    (urgent : (sched.slot other).priority ≤ (sched.slot id).priority) : sched.Leads other where
  runnable := runnable
  mostUrgent := fun rival runs => urgent.trans (leads.mostUrgent rival runs)

/-! ### The way round the table -/

/-- A decision gets to a slot after as many steps as the slot is far. -/
theorem distance_scan {step : Nat} (inTable : step < maxTasks) :
    sched.distance ((sched.current + step + 1) % maxTasks) = step := by
  unfold distance maxTasks at *
  omega

/-- No task is farther than the one on the CPU. -/
theorem distance_le_current (sched : Scheduler C) (id : TaskId) :
    sched.distance id ≤ sched.distance sched.current := by
  unfold distance maxTasks
  omega

/-- A decision goes away from the task on the CPU. -/
theorem pairwise_scanOrder (sched : Scheduler C) :
    sched.scanOrder.Pairwise fun near far => sched.distance near < sched.distance far := by
  rw [scanOrder, List.pairwise_map]
  refine List.pairwise_lt_range.imp_of_mem ?_
  intro early late memberEarly memberLate before
  rw [distance_scan (List.mem_range.mp memberEarly), distance_scan (List.mem_range.mp memberLate)]
  exact Int.ofNat_lt.mpr before

theorem pairwise_leaders (sched : Scheduler C) :
    sched.leaders.Pairwise fun near far => sched.distance near < sched.distance far :=
  sched.pairwise_scanOrder.filter _

theorem nodup_leaders (sched : Scheduler C) : sched.leaders.Nodup :=
  sched.pairwise_leaders.imp fun before same => absurd (same ▸ before) (lt_irrefl _)

/-! ### The first of the most urgent -/

/-- Whoever stands before the chosen task is less urgent, and whoever stands behind is not more
urgent. -/
theorem exists_mostUrgent_split {tasks : List (Task C)} {best : Task C}
    (chosen : mostUrgent tasks = some best) :
    ∃ before behind, tasks = before ++ best :: behind ∧
      (∀ task ∈ before, best.priority < task.priority) ∧
      ∀ task ∈ behind, best.priority ≤ task.priority := by
  induction tasks with
  | nil => cases chosen
  | cons task rest ih =>
      have least := mostUrgent_le chosen
      rw [mostUrgent] at chosen
      split at chosen
      · rename_i found
        split at chosen
        · rename_i nearer
          cases chosen
          obtain ⟨before, behind, rfl, later, behindIt⟩ := ih found
          exact ⟨task :: before, behind, rfl, List.forall_mem_cons.mpr ⟨nearer, later⟩, behindIt⟩
        · cases chosen
          exact ⟨[], rest, rfl, List.forall_mem_nil _, (List.forall_mem_cons.mp least).2⟩
      · cases chosen
        exact ⟨[], rest, rfl, List.forall_mem_nil _, (List.forall_mem_cons.mp least).2⟩

/-- What a decision looks at are the slots that it comes across and that hold runnable tasks. -/
theorem candidates_eq (sched : Scheduler C) :
    (sched.scanOrder.map sched.slot).filter Task.isRunnable =
      (sched.scanOrder.filter fun id => (sched.slot id).isRunnable).map sched.slot :=
  List.filter_map

/-- The leaders are the most urgent among the runnable tasks that a decision comes across. -/
theorem leaders_eq_filter (sched : Scheduler C) :
    sched.leaders =
      (sched.scanOrder.filter fun id => (sched.slot id).isRunnable).filter
        fun id => sched.Leads id := by
  rw [leaders, List.filter_filter]
  congr 1
  funext id
  by_cases leads : sched.Leads id
  · simp [leads, leads.runnable]
  · simp [leads]

/-- The choice falls on the first of the leaders. -/
theorem decide_eq_head? (ids : ∀ id, (sched.slot id).id = id) :
    sched.decide = sched.leaders.head? := by
  rw [decide, candidates_eq, leaders_eq_filter]
  have runnable : ∀ id ∈ sched.scanOrder.filter fun id => (sched.slot id).isRunnable,
      (sched.slot id).isRunnable := fun id member => (List.mem_filter.mp member).2
  have all : ∀ id, (sched.slot id).isRunnable →
      id ∈ sched.scanOrder.filter fun id => (sched.slot id).isRunnable := fun id runs =>
    List.mem_filter.mpr ⟨mem_scanOrder.mpr (lt_of_isRunnable runs), runs⟩
  generalize (sched.scanOrder.filter fun id => (sched.slot id).isRunnable) = runners at *
  cases found : mostUrgent (runners.map sched.slot) with
  | none =>
      have nobody : runners = [] := by
        by_contra somebody
        obtain ⟨best, other⟩ := exists_mostUrgent (mt List.map_eq_nil_iff.mp somebody)
        rw [found] at other
        cases other
      rw [nobody]
      rfl
  | some best =>
      obtain ⟨before, behind, split, farther, nearer⟩ := exists_mostUrgent_split found
      obtain ⟨passed, others, rfl, rfl, same⟩ := List.map_eq_append_iff.mp split
      obtain ⟨first, later, rfl, rfl, rfl⟩ := List.map_eq_cons_iff.mp same
      -- whoever is come across earlier is less urgent, and does not lead
      have skipped : passed.filter (fun id => sched.Leads id) = [] := by
        refine List.filter_eq_nil_iff.mpr fun id member leads => ?_
        have ahead := farther _ (List.mem_map_of_mem member)
        have level := (of_decide_eq_true leads).mostUrgent first (runnable first (by simp))
        exact absurd level (Nat.not_le_of_lt ahead)
      have leads : sched.Leads first := by
        refine ⟨runnable first (by simp), fun other runs => ?_⟩
        rcases List.mem_append.mp (all other runs) with early | late
        · exact (farther _ (List.mem_map_of_mem early)).le
        · rcases List.mem_cons.mp late with rfl | late
          · exact le_rfl
          · exact nearer _ (List.mem_map_of_mem late)
      rw [List.filter_append, skipped, List.nil_append,
        List.filter_cons_of_pos (by exact decide_eq_true leads), List.head?_cons, Option.map_some,
        ids]

/-! ### The foremost task -/

theorem precedence_lt_iff :
    sched.precedence id < sched.precedence other ↔
      (sched.slot id).priority < (sched.slot other).priority ∨
        (sched.slot id).priority = (sched.slot other).priority ∧
          sched.distance id < sched.distance other :=
  Prod.Lex.toLex_lt_toLex

theorem Foremost.leads (foremost : sched.Foremost next) : sched.Leads next where
  runnable := foremost.runnable
  mostUrgent := by
    intro other runs
    by_cases same : other = next
    · rw [same]
    · rcases precedence_lt_iff.mp (foremost.first other runs same) with before | ⟨level, -⟩
      · exact before.le
      · exact level.le

/-- Two tasks cannot both take precedence. -/
theorem Foremost.eq (one : sched.Foremost id) (another : sched.Foremost other) : id = other := by
  by_contra apart
  have before := one.first other another.runnable (Ne.symm apart)
  exact lt_asymm before (another.first id one.runnable apart)

/-- The foremost task is the first of the leaders. -/
theorem head?_leaders_iff : sched.leaders.head? = some next ↔ sched.Foremost next := by
  have first : ∀ id, sched.leaders.head? = some id → sched.Foremost id := by
    intro id head
    obtain ⟨rest, leaders⟩ := List.head?_eq_some_iff.mp head
    have leads := leads_of_leaders_eq_cons leaders
    refine ⟨leads.runnable, fun other runs apart => precedence_lt_iff.mpr ?_⟩
    rcases (leads.mostUrgent other runs).lt_or_eq with before | level
    · exact .inl before
    · -- an equal leads too, and is come across later
      have behind : other ∈ id :: rest := leaders ▸ mem_leaders.mpr (leads.of_le runs level.ge)
      have sorted := sched.pairwise_leaders
      rw [leaders, List.pairwise_cons] at sorted
      exact .inr ⟨level, sorted.1 other ((List.mem_cons.mp behind).resolve_left apart)⟩
  refine ⟨first next, fun foremost => ?_⟩
  cases head : sched.leaders.head? with
  | none =>
      have member := mem_leaders.mpr foremost.leads
      rw [List.head?_eq_none_iff.mp head] at member
      cases member
  | some id => rw [(first id head).eq foremost]

/-- A decision chooses the foremost task, and no other. -/
theorem decide_eq_some_iff (ids : ∀ id, (sched.slot id).id = id) :
    sched.decide = some next ↔ sched.Foremost next := by
  rw [decide_eq_head? ids, head?_leaders_iff]

/-- Among equals the task on the CPU comes last. -/
theorem Foremost.priority_lt (foremost : sched.Foremost sched.current)
    (runs : (sched.slot other).isRunnable) (apart : other ≠ sched.current) :
    (sched.slot sched.current).priority < (sched.slot other).priority := by
  rcases precedence_lt_iff.mp (foremost.first other runs apart) with before | ⟨-, nearer⟩
  · exact before
  · exact absurd (sched.distance_le_current other) (not_le_of_gt nearer)

/-- The task on the CPU stays chosen only as long as it is more urgent than all others that are
runnable. -/
theorem Poised.decide_eq_current_iff (poised : sched.Poised)
    (runnable : (sched.slot sched.current).isRunnable) :
    sched.decide = some sched.current ↔
      ∀ id, id ≠ sched.current → (sched.slot id).isRunnable →
        (sched.slot sched.current).priority < (sched.slot id).priority := by
  rw [decide_eq_some_iff poised.ids]
  constructor
  · exact fun foremost id apart runs => foremost.priority_lt runs apart
  · intro ahead
    refine ⟨runnable, fun id runs apart => precedence_lt_iff.mpr (.inl ?_)⟩
    exact ahead id apart runs

/-- There is nothing to choose exactly when no task is runnable. -/
theorem decide_eq_none_iff : sched.decide = none ↔ ∀ id, ¬ (sched.slot id).isRunnable := by
  constructor
  · intro nobody id runs
    obtain ⟨next, chosen⟩ := exists_decide runs
    rw [nobody] at chosen
    cases chosen
  · intro blocked
    by_contra somebody
    obtain ⟨next, chosen⟩ := Option.ne_none_iff_exists'.mp somebody
    obtain ⟨best, found, -⟩ := Option.map_eq_some_iff.mp chosen
    obtain ⟨id, -, runs⟩ := mem_candidates.mp (mostUrgent_mem found)
    exact blocked id runs

/-- A second decision is the first one over again. -/
theorem run_reschedule_decided (ids : ∀ id, (sched.slot id).id = id) :
    reschedule.run sched.decided = reschedule.run sched := by
  have trace : sched.decided.decisionTrace = sched.decisionTrace := by
    rw [decisionTrace, decisionTrace, decide_decided ids, decided_decided ids, current_decided]
  rw [run_reschedule, run_reschedule, decide_decided ids, decided_decided ids, trace]

/-- A decision chooses the runnable task that is least in the order of priority and, among equals,
of the way round the table; no other comes in question, and there is none only if nobody is
runnable.  The task on the CPU loses every tie.  To decide twice is to decide once.  Every slot is
known by its place. -/
theorem decides_foremost (sched : Scheduler C) (ids : ∀ id, (sched.slot id).id = id) :
    (sched.decide = none ↔ ∀ id, ¬ (sched.slot id).isRunnable) ∧
      (∀ next, sched.decide = some next ↔ sched.Foremost next) ∧
      ((∃ id, (sched.slot id).isRunnable) → ∃! next, sched.Foremost next) ∧
      (∀ other, (sched.slot other).isRunnable → other ≠ sched.current →
        (sched.slot other).priority ≤ (sched.slot sched.current).priority →
        sched.decide ≠ some sched.current) ∧
      reschedule.run (reschedule.run sched).state = reschedule.run sched := by
  refine ⟨decide_eq_none_iff, fun next => decide_eq_some_iff ids, ?unique, ?tie, ?twice⟩
  case unique =>
    rintro ⟨id, runs⟩
    obtain ⟨next, chosen⟩ := exists_decide runs
    have foremost := (decide_eq_some_iff ids).mp chosen
    exact ⟨next, foremost, fun other another => another.eq foremost⟩
  case tie =>
    intro other runs apart level chosen
    have foremost := (decide_eq_some_iff ids).mp chosen
    exact absurd level (Nat.not_le_of_lt (foremost.priority_lt runs apart))
  case twice =>
    have once : (reschedule.run sched).state = sched.decided := by rw [run_reschedule]
    rw [once, run_reschedule_decided ids]

/-- Slots beyond the table are known by their places anyway. -/
theorem ids_of_inTable (inTable : ∀ id < maxTasks, (sched.slot id).id = id) (id : TaskId) :
    (sched.slot id).id = id := by
  by_cases inside : id < maxTasks
  · exact inTable id inside
  · rw [slot_of_le (Nat.le_of_not_lt inside)]
    rfl

/-- Three tasks of one priority, with a less urgent one, one that waits and the idle task among
them. -/
def threeEqual : Scheduler Nat where
  tasks := Vector.ofFn fun slot =>
    let (state, priority, context) : TaskState × Priority × Context Nat :=
      match slot.val with
      | 0 => (.ready, 255, .saved 0)
      | 1 => (.ready, 5, .primed 1)
      | 3 => (.ready, 9, .saved 3)
      | 4 => (.running, 5, .onCpu)
      | 5 => (.waiting, 1, .saved 5)
      | 7 => (.ready, 5, .saved 7)
      | _ => (.free, 255, .dormant)
    { (Task.vacant slot.val : Task Nat) with state, priority, context }
  current := 4
  selected := 4

/-- The equal next to the task on the CPU comes first. -/
theorem decides_foremost_threeEqual :
    (∀ id, (threeEqual.slot id).id = id) ∧ (threeEqual.slot 7).isRunnable ∧
      threeEqual.decide = some 7 ∧ threeEqual.Foremost 7 ∧
      threeEqual.decide ≠ some threeEqual.current ∧
      reschedule.run (reschedule.run threeEqual).state = reschedule.run threeEqual := by
  have ids : ∀ id, (threeEqual.slot id).id = id := ids_of_inTable (by decide)
  obtain ⟨-, foremost, -, tie, twice⟩ := decides_foremost threeEqual ids
  have chosen : threeEqual.decide = some 7 := by decide
  exact ⟨ids, by decide, chosen, (foremost 7).mp chosen,
    tie 1 (by decide) (by decide) (by decide), twice⟩

end Scheduler

end Rtos
