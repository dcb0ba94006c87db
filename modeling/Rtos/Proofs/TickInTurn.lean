/-
Module: Rtos.Proofs.TickInTurn
Purpose: The timer interrupt as it is specified: the alarms in the order of the table, each tested
  when its turn comes and acted on before the next one is looked at.  Letting all alarms expire
  first comes to the same, since acting on an alarm has nothing to do with the alarms; and for the
  same reason the alarms of two kernels go the same way whatever else becomes of the two.
Main definitions: Kernel.expireNow, Kernel.tickInTurn, AlarmCall, Operation.alarmCall?
Main statements: `Kernel.state_expireInTurn`, `Execution.alarms_reached`, `Kernel.tick_in_turn`
-/
import Mathlib.Data.List.Basic
import Rtos.Proofs.Lifetime

namespace Rtos

/-! ### One alarm after the other -/

namespace Kernel

variable {C : Type} [Machine C]

/-- The turn of one alarm: if it is due as things are now, it expires, and what it asks for is done
at once. -/
def expireNow (id : AlarmId) : Action (Kernel C) Unit := do
  match (← Action.get).alarms.lookup id with
  | .ok (alarm, counter) =>
      if alarm.isDue counter then
        Action.log (.expired id counter.value)
        onAlarms (Action.modify (·.modify id (Alarm.expire counter)))
        runAlarm alarm.action
      else pure ()
  | .error _ => pure ()

/-- The turns of some alarms, one after the other. -/
def expireInTurn : List AlarmId → Action (Kernel C) Unit
  | [] => pure ()
  | id :: rest => do
      expireNow id
      expireInTurn rest

/-- The timer interrupt as it is specified: each alarm in its turn, and then the counters. -/
def tickInTurn : Action (Kernel C) Unit := do
  expireInTurn (List.range (← Action.get).alarms.alarms.size)
  onAlarms (Action.modify AlarmTable.advance)

end Kernel

namespace AlarmTable

variable {table : AlarmTable} {id other : AlarmId}

/-- The table after the turn of one alarm. -/
def expireAt (table : AlarmTable) (id : AlarmId) : AlarmTable := table.modify id table.expireOne

/-- What an alarm asks for when its turn comes, if it is due. -/
def dueAction? (table : AlarmTable) (id : AlarmId) : Option AlarmAction :=
  (table.alarms[id]?.filter table.isDue).map (·.action)

/-- Two tables with the same counters, clock and alarms are equal. -/
theorem ext_alarms {left right : AlarmTable} (clock : left.freeTick = right.freeTick)
    (counters : left.counters = right.counters)
    (alarms : ∀ id : AlarmId, left.alarms[id]? = right.alarms[id]?) : left = right := by
  obtain ⟨_, _, leftAlarms⟩ := left
  obtain ⟨_, _, rightAlarms⟩ := right
  cases clock
  cases counters
  have same : leftAlarms = rightAlarms := Array.ext_getElem? alarms
  rw [same]

theorem dueAction?_of_lookup {alarm : Alarm} {counter : Counter}
    (found : table.lookup id = .ok (alarm, counter)) :
    table.dueAction? id = if alarm.isDue counter then some alarm.action else none := by
  obtain ⟨here, driven⟩ := lookup_eq_ok.mp found
  simp only [dueAction?, here, isDue, driven, Option.filter_some]
  split <;> rfl

/-- An alarm that does not exist, or whose counter does not, is not due. -/
theorem dueAction?_of_unknown {reason : Refusal} (unknown : table.lookup id = .error reason) :
    table.dueAction? id = none := by
  cases found : table.alarms[id]? with
  | none => simp [dueAction?, found]
  | some alarm =>
      cases driven : table.counters[alarm.counter]? with
      | none => simp [dueAction?, found, isDue, driven]
      | some counter =>
          rw [lookup_eq_ok.mpr ⟨found, driven⟩] at unknown
          cases unknown

/-- An alarm that is not due is left alone in its turn. -/
theorem expireAt_of_none (idle : table.dueAction? id = none) : table.expireAt id = table := by
  refine ext_alarms (by rfl) (by rfl) fun other => ?_
  rw [expireAt, getElem?_modify]
  split
  · rename_i here
    subst here
    cases found : table.alarms[id]? with
    | none => rfl
    | some alarm =>
        cases driven : table.counters[alarm.counter]? with
        | none => simp [expireOne, driven]
        | some counter =>
            rw [dueAction?_of_lookup (lookup_eq_ok.mpr ⟨found, driven⟩)] at idle
            simp_all [expireOne]
  · rfl

/-- In its turn, an alarm that is due expires. -/
theorem expireAt_of_isDue {alarm : Alarm} {counter : Counter}
    (found : table.lookup id = .ok (alarm, counter)) (due : alarm.isDue counter) :
    table.expireAt id = table.modify id (Alarm.expire counter) := by
  refine ext_alarms (by rfl) (by rfl) fun other => ?_
  rw [expireAt, getElem?_modify, getElem?_modify]
  split
  · rename_i here
    subst here
    obtain ⟨here, driven⟩ := lookup_eq_ok.mp found
    simp [here, expireOne, driven, due]
  · rfl

/-- The turn of an alarm does not change what becomes of the others. -/
theorem dueAction?_expireAt (apart : id ≠ other) :
    (table.expireAt id).dueAction? other = table.dueAction? other := by
  have same : (table.expireAt id).alarms[other]? = table.alarms[other]? := by
    rw [expireAt, getElem?_modify, if_neg apart]
  rw [dueAction?, same]
  rfl

/-- After the turns of some alarms, each of these has expired if it was due. -/
theorem getElem?_foldl_expireAt {ids : List AlarmId} (nodup : ids.Nodup) (other : AlarmId) :
    (ids.foldl expireAt table).alarms[other]? =
      if other ∈ ids then table.alarms[other]?.map table.expireOne else table.alarms[other]? := by
  induction ids generalizing table with
  | nil => rfl
  | cons id rest ih =>
      obtain ⟨apart, nodup⟩ := List.nodup_cons.mp nodup
      -- what expires is told by the counters, which stay as they are
      have counters : (table.expireAt id).expireOne = table.expireOne := rfl
      rw [List.foldl_cons, ih nodup, counters, expireAt, getElem?_modify]
      by_cases here : id = other
      · subst here
        simp [apart]
      · have elsewhere : ¬ other = id := fun same => here same.symm
        simp [here, elsewhere]

theorem counters_foldl_expireAt (table : AlarmTable) (ids : List AlarmId) :
    (ids.foldl expireAt table).counters = table.counters ∧
      (ids.foldl expireAt table).freeTick = table.freeTick := by
  induction ids generalizing table with
  | nil => exact ⟨rfl, rfl⟩
  | cons id rest ih => exact ih (table.expireAt id)

/-- After the turns of all alarms, all that were due have expired. -/
theorem foldl_expireAt_range (table : AlarmTable) :
    (List.range table.alarms.size).foldl expireAt table =
      { table with alarms := table.alarms.map table.expireOne } := by
  obtain ⟨counters, clock⟩ := table.counters_foldl_expireAt (List.range table.alarms.size)
  refine ext_alarms clock counters fun id => ?_
  rw [getElem?_foldl_expireAt List.nodup_range, Array.getElem?_map]
  split
  · rfl
  · rename_i beyond
    rw [List.mem_range] at beyond
    rw [Array.getElem?_eq_none (Nat.le_of_not_lt beyond)]
    rfl

/-- What all the alarms of the table ask for, each by its own turn, is what those ask for that are
due. -/
theorem filterMap_dueAction? (table : AlarmTable) :
    (List.range table.alarms.size).filterMap table.dueAction? =
      table.dueIds.filterMap fun id => table.alarms[id]?.map (·.action) := by
  rw [dueIds, List.filterMap_filter]
  refine List.filterMap_congr fun id _ => ?_
  rw [dueAction?]
  cases table.alarms[id]? with
  | none => rfl
  | some alarm => cases due : table.isDue alarm <;> simp [due]

end AlarmTable

/-- What is never refused is followed by the rest. -/
theorem Action.NeverRefused.state_bind {σ α β : Type} {first : Action σ α}
    (never : first.NeverRefused) (next : Action σ β) (state : σ) :
    ((first >>= fun _ => next).run state).state = (next.run (first.run state).state).state := by
  obtain ⟨_, done⟩ := never state
  rw [run_bind, done]

namespace Kernel

variable {C : Type} [Machine C]

theorem neverRefused_expireNow (id : AlarmId) :
    (expireNow id : Action (Kernel C) Unit).NeverRefused := by
  intro kernel
  unfold expireNow
  rw [Action.run_get_bind]
  split
  · split
    · exact ((Action.neverRefused_emit _).bind fun _ =>
        ((Action.neverRefused_modify _).within _ _).bind fun _ => neverRefused_runAlarm _) kernel
    · exact ⟨(), rfl⟩
  · exact ⟨(), rfl⟩

theorem neverRefused_expireInTurn (ids : List AlarmId) :
    (expireInTurn ids : Action (Kernel C) Unit).NeverRefused := by
  induction ids with
  | nil => exact Action.neverRefused_pure ()
  | cons id rest ih => exact (neverRefused_expireNow id).bind fun _ => ih

theorem neverRefused_tickInTurn : (tickInTurn : Action (Kernel C) Unit).NeverRefused := by
  intro kernel
  rw [tickInTurn, Action.run_get_bind]
  exact ((neverRefused_expireInTurn _).bind fun _ => (Action.neverRefused_modify _).within _ _)
    kernel

/-- What the turn of an alarm does. -/
theorem state_expireNow (id : AlarmId) (kernel : Kernel C) :
    ((expireNow id).run kernel).state =
      match kernel.alarms.dueAction? id with
      | some action => ((runAlarm action).run (kernel.withAlarms (kernel.alarms.expireAt id))).state
      | none => kernel := by
  unfold expireNow
  rw [Action.run_get_bind]
  cases found : kernel.alarms.lookup id with
  | error reason =>
      rw [AlarmTable.dueAction?_of_unknown found]
      rfl
  | ok pair =>
      obtain ⟨alarm, counter⟩ := pair
      rw [AlarmTable.dueAction?_of_lookup found]
      dsimp only
      split
      · rename_i due
        rw [Action.run_log_bind, AlarmTable.expireAt_of_isDue found due]
        rfl
      · rfl

/-- The turns of some alarms, one after the other, come to the same as letting all of these expire
that are due and then doing what they ask for: what is done for one alarm has nothing to do with
whether another one is due. -/
theorem state_expireInTurn {ids : List AlarmId} (nodup : ids.Nodup) (kernel : Kernel C) :
    ((expireInTurn ids).run kernel).state =
      withAlarms (ids.foldl AlarmTable.expireAt kernel.alarms)
        ((runAlarms (ids.filterMap kernel.alarms.dueAction?)).run kernel).state := by
  induction ids generalizing kernel with
  | nil => rfl
  | cons id rest ih =>
      obtain ⟨apart, nodup⟩ := List.nodup_cons.mp nodup
      rw [expireInTurn, (neverRefused_expireNow id).state_bind, ih nodup, state_expireNow,
        List.foldl_cons, List.filterMap_cons]
      cases due : kernel.alarms.dueAction? id with
      | none => rw [AlarmTable.expireAt_of_none due]
      | some action =>
          let expired := kernel.alarms.expireAt id
          let acted := ((runAlarm action).run kernel).state
          have moved : ((runAlarm action).run (kernel.withAlarms expired)).state =
              acted.withAlarms expired :=
            congrArg Outcome.state (ignores_runAlarm action expired kernel)
          have others : rest.filterMap expired.dueAction? =
              rest.filterMap kernel.alarms.dueAction? :=
            List.filterMap_congr fun other member => AlarmTable.dueAction?_expireAt
              fun same => apart (same ▸ member)
          have rested : ((runAlarms (rest.filterMap expired.dueAction?)).run
              (acted.withAlarms expired)).state =
              withAlarms expired ((runAlarms (rest.filterMap kernel.alarms.dueAction?)).run
                acted).state := by
            rw [others]
            exact congrArg Outcome.state (ignores_runAlarms _ expired acted)
          dsimp only
          rw [moved, runAlarms, (neverRefused_runAlarm action).state_bind]
          have last := congrArg (withAlarms (rest.foldl AlarmTable.expireAt expired)) rested
          exact last

/-- Expiring all alarms that are due, then acting on them, then advancing the counters is the same
as going through the alarms one by one. -/
theorem state_tick (kernel : Kernel C) :
    (tick.run kernel).state = (tickInTurn.run kernel).state := by
  have range : (List.range kernel.alarms.alarms.size).Nodup := List.nodup_range
  rw [run_tick, tickInTurn, Action.run_get_bind, (neverRefused_expireInTurn _).state_bind,
    state_expireInTurn range, AlarmTable.foldl_expireAt_range, AlarmTable.filterMap_dueAction?]
  let expired := { kernel.alarms with alarms := kernel.alarms.alarms.map kernel.alarms.expireOne }
  let due := kernel.alarms.dueIds.filterMap fun id => kernel.alarms.alarms[id]?.map (·.action)
  have acted : ((runAlarms due).run (kernel.withAlarms expired)).state =
      withAlarms expired ((runAlarms due).run kernel).state :=
    congrArg Outcome.state (ignores_runAlarms due expired kernel)
  have last := congrArg (fun after : Kernel C => after.withAlarms after.alarms.advance) acted
  exact last

end Kernel

/-! ### Alarms on their own -/

/-- What happens to the alarms of a kernel. -/
inductive AlarmCall where
  | tick
  | setRelative (id : AlarmId) (increment cycle : Tick)
  | setAbsolute (id : AlarmId) (start cycle : Tick)
  | cancel (id : AlarmId)
deriving DecidableEq, Repr

/-- What becomes of the alarms. -/
def AlarmCall.apply (table : AlarmTable) : AlarmCall → AlarmTable
  | tick => table.tick
  | setRelative id increment cycle => (table.setRelative id increment cycle).toOption.getD table
  | setAbsolute id start cycle => (table.setAbsolute id start cycle).toOption.getD table
  | cancel id => (table.cancel id).toOption.getD table

/-- What a request is to the alarms, if it concerns them. -/
def Request.alarmCall? : Request → Option AlarmCall
  | setRelAlarm id increment cycle => some (.setRelative id increment cycle)
  | setAbsAlarm id start cycle => some (.setAbsolute id start cycle)
  | cancelAlarm id => some (.cancel id)
  | debug .. | declare .. | activateTask .. | terminateTask | chainTask .. | getTaskId
  | getTaskState .. | getResource .. | releaseResource .. | setEvent .. | clearEvent ..
  | getEvent .. | waitEvent .. | getAlarmBase .. | getAlarm .. => none

namespace Operation

variable {C : Type}

/-- What an operation is to the alarms, if it concerns them. -/
def alarmCall? (operation : Operation C) : Option AlarmCall :=
  if operation.isTick then some .tick else operation.request?.bind Request.alarmCall?

theorem onAlarms_eq_alarmCall? (operation : Operation C) (table : AlarmTable) :
    operation.onAlarms table = operation.alarmCall?.elim table (AlarmCall.apply table) := by
  unfold alarmCall?
  split
  · rename_i ticks
    exact onAlarms_of_isTick ticks table
  · rename_i other
    cases request : operation.request? with
    | none => exact onAlarms_of_none (Bool.eq_false_iff.mpr other) request table
    | some asked =>
        rw [onAlarms_of_request? request]
        cases asked <;> rfl

end Operation

/-- Whatever operations a kernel goes through, its alarms go through the calls among these that
concern them. -/
theorem Execution.alarms_reached {C : Type} [Machine C] (kernel : Kernel C)
    (operations : List (Operation C)) :
    (reached kernel operations).alarms =
      (operations.filterMap Operation.alarmCall?).foldl AlarmCall.apply kernel.alarms := by
  induction operations generalizing kernel with
  | nil => rfl
  | cons operation rest ih =>
      rw [reached, ih, Step.alarms_after, Operation.onAlarms_eq_alarmCall?, List.filterMap_cons]
      cases operation.alarmCall? <;> rfl

namespace Kernel

/-- A timer interrupt, in which all alarms expire before any is acted on, leaves the kernel as the
specified one does, in which each alarm is tested after the action of the one before it; neither
ever fails.  And the alarms of a kernel depend on nothing but themselves: two kernels with the same
alarms, whatever their tasks, resources and machines, have the same alarms again after any
operations among which the ticks and the alarm calls are the same. -/
theorem tick_in_turn {C D : Type} [Machine C] [Machine D] (one : Kernel C) (other : Kernel D) :
    ((tick.run one).result = .ok () ∧ (tickInTurn.run one).result = .ok () ∧
      (tick.run one).state = (tickInTurn.run one).state) ∧
    (one.alarms = other.alarms →
      ∀ (first : List (Operation C)) (second : List (Operation D)),
        first.filterMap Operation.alarmCall? = second.filterMap Operation.alarmCall? →
          (Execution.reached one first).alarms = (Execution.reached other second).alarms) := by
  obtain ⟨_, ticks⟩ := neverRefused_tick one
  obtain ⟨_, turns⟩ := neverRefused_tickInTurn one
  refine ⟨⟨ticks, turns, state_tick one⟩, ?_⟩
  intro same first second calls
  rw [Execution.alarms_reached, Execution.alarms_reached, same, calls]

/-- Two alarms on one counter: one activates a task, and the other one runs code that notifies the
task and activates it once more. -/
def chimes (tasks : List TaskSpec) : Configuration :=
  { tasks
    counters := [{ maxAllowedValue := 3, ticksPerBase := 1, minCycle := 1 }]
    alarms :=
      [{ counter := 0, action := .service (.activateTask 1) },
       { counter := 0, action :=
          .callback { tag := 1, body := .ofList [.setEvent 1 4, .activateTask 1] } }] }

/-- The two alarms are set for the same count, which two ticks lead to. -/
def windUp : List (Operation FrameIndex) :=
  [.request (.setRelAlarm 0 1 0), .request (.setRelAlarm 1 1 1), .tick, .tick]

/-- The same, as to the alarms, with other calls in between. -/
def windUpMeanwhile : List (Operation FrameIndex) :=
  [.launch ⟨0⟩, .request (.setRelAlarm 0 1 0), .interrupt (.activateTask 1),
    .request (.setRelAlarm 1 1 1), .tick, .request (.setEvent 0 1), .tick]

set_option maxRecDepth 8000 in
/-- Two alarms that expire in one tick, in kernels with different tasks. -/
theorem tick_in_turn_chimes :
    let idle := Configuration.plainTask leastUrgent false
    let one : Kernel FrameIndex :=
      Execution.booted (chimes [idle, Configuration.plainTask 2 false]) Hosted.console
    let other : Kernel FrameIndex := Execution.booted (chimes [idle]) Hosted.console
    let ready := Execution.reached one windUp
    ready.alarms.dueIds = [0, 1] ∧
      (tick.run ready).state = (tickInTurn.run ready).state ∧
      ((tickInTurn.run ready).state.sched.slot 1).eventFlags = 4 ∧
      (other.sched.slot 1).state ≠ (one.sched.slot 1).state ∧
      (Execution.reached one windUpMeanwhile).alarms = (Execution.reached other windUp).alarms := by
  intro idle one other ready
  obtain ⟨⟨-, -, same⟩, -⟩ := tick_in_turn ready ready
  obtain ⟨-, alone⟩ := tick_in_turn one other
  exact ⟨by decide +kernel, same, by decide +kernel, by decide,
    alone rfl windUpMeanwhile windUp (by decide)⟩

end Kernel

end Rtos
