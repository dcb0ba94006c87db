/-
Module: Rtos.Action
Purpose: Operations on a state that may be refused.  A refusal keeps the state and the trace that
  led up to it, so that whether a refused operation left its mark can be stated and is not assumed.
Main definitions: Outcome, Action, Action.attempt, Action.within
Main statements: Action is a lawful monad.
-/
import Rtos.Observation

namespace Rtos

/-- What an operation leaves behind: its answer, the state after it, and what was seen meanwhile. -/
structure Outcome (σ α : Type) where
  result : Except Refusal α
  state : σ
  trace : Trace

/-- An operation on a state of type `σ` that answers with an `α` or is refused. -/
def Action (σ α : Type) : Type := σ → Outcome σ α

namespace Action

variable {σ τ α β : Type}

/-- Perform the operation from a given state. -/
def run (action : Action σ α) (state : σ) : Outcome σ α := action state

/-- Answer at once, and change nothing. -/
protected def pure (a : α) : Action σ α := fun state => ⟨.ok a, state, []⟩

/-- Perform one operation and, unless it is refused, the next from where it ended. -/
protected def bind (first : Action σ α) (next : α → Action σ β) : Action σ β := fun state =>
  let done := first state
  match done.result with
  | .ok a =>
      let last := next a done.state
      ⟨last.result, last.state, done.trace ++ last.trace⟩
  | .error reason => ⟨.error reason, done.state, done.trace⟩

instance : Monad (Action σ) where
  pure := Action.pure
  bind := Action.bind

/-- Refuse. -/
def refuse (reason : Refusal) : Action σ α := fun state => ⟨.error reason, state, []⟩

/-- The present state. -/
def get : Action σ σ := fun state => ⟨.ok state, state, []⟩

/-- Replace the state by a function of it. -/
def modify (f : σ → σ) : Action σ Unit := fun state => ⟨.ok (), f state, []⟩

/-- Show something to the observer. -/
def emit (seen : Observation) : Action σ Unit := fun state => ⟨.ok (), state, [seen]⟩

/-- Write a log record. -/
def log (record : Record) : Action σ Unit := emit (.logged record)

/-- Answer with a value that may be a refusal. -/
def ofExcept (value : Except Refusal α) : Action σ α := fun state => ⟨value, state, []⟩

/-- Answer with a value, or refuse for `reason` when there is none. -/
def require (reason : Refusal) : Option α → Action σ α
  | some a => Action.pure a
  | none => refuse reason

/-- Perform an operation and report how it ended, even by a refusal. -/
def attempt (action : Action σ α) : Action σ (Except Refusal α) := fun state =>
  let done := action state
  ⟨.ok done.result, done.state, done.trace⟩

/-- Perform an operation on a part of the state. -/
def within (part : σ → τ) (put : τ → σ → σ) (action : Action τ α) : Action σ α := fun state =>
  let done := action (part state)
  ⟨done.result, put done.state state, done.trace⟩

/-! ### What each operation does to the state -/

@[simp] theorem run_pure (a : α) (state : σ) :
    (pure a : Action σ α).run state = ⟨.ok a, state, []⟩ := rfl

theorem run_bind (first : Action σ α) (next : α → Action σ β) (state : σ) :
    (first >>= next).run state =
      match (first.run state).result with
      | .ok a =>
          let last := (next a).run (first.run state).state
          ⟨last.result, last.state, (first.run state).trace ++ last.trace⟩
      | .error reason => ⟨.error reason, (first.run state).state, (first.run state).trace⟩ := rfl

@[simp] theorem run_get (state : σ) : (get : Action σ σ).run state = ⟨.ok state, state, []⟩ := rfl

@[simp] theorem run_modify (f : σ → σ) (state : σ) :
    (modify f).run state = ⟨.ok (), f state, []⟩ := rfl

@[simp] theorem run_emit (seen : Observation) (state : σ) :
    (emit seen : Action σ Unit).run state = ⟨.ok (), state, [seen]⟩ := rfl

@[simp] theorem run_log (record : Record) (state : σ) :
    (log record : Action σ Unit).run state = ⟨.ok (), state, [.logged record]⟩ := rfl

@[simp] theorem run_refuse (reason : Refusal) (state : σ) :
    (refuse reason : Action σ α).run state = ⟨.error reason, state, []⟩ := rfl

@[simp] theorem run_require_some (reason : Refusal) (a : α) (state : σ) :
    (require reason (some a)).run state = ⟨.ok a, state, []⟩ := rfl

@[simp] theorem run_require_none (reason : Refusal) (state : σ) :
    (require reason (none : Option α)).run state = ⟨.error reason, state, []⟩ := rfl

@[simp] theorem run_attempt (action : Action σ α) (state : σ) :
    action.attempt.run state =
      ⟨.ok (action.run state).result, (action.run state).state, (action.run state).trace⟩ := rfl

@[simp] theorem run_within (part : σ → τ) (put : τ → σ → σ) (action : Action τ α) (state : σ) :
    (within part put action).run state =
      ⟨(action.run (part state)).result, put (action.run (part state)).state state,
        (action.run (part state)).trace⟩ := rfl

instance : LawfulMonad (Action σ) := by
  refine LawfulMonad.mk' (Action σ) ?_ ?_ ?_
  · intro α action
    funext state
    change Action.bind action (fun a => Action.pure a) state = action state
    unfold Action.bind Action.pure
    rcases action state with ⟨_ | _, _, _⟩ <;> simp
  · intro α β a next
    funext state
    change Action.bind (Action.pure a) next state = next a state
    simp [Action.bind, Action.pure]
  · intro α β γ action f g
    funext state
    change Action.bind (Action.bind action f) g state =
      Action.bind action (fun a => Action.bind (f a) g) state
    unfold Action.bind
    rcases action state with ⟨_ | a, middle, seen⟩
    · rfl
    · simp only
      rcases f a middle with ⟨_ | b, last, rest⟩ <;> simp

@[simp] theorem run_map (f : α → β) (action : Action σ α) (state : σ) :
    (f <$> action).run state =
      ⟨(action.run state).result.map f, (action.run state).state, (action.run state).trace⟩ := by
  rw [map_eq_pure_bind, run_bind]
  rcases action.run state with ⟨_ | _, _, _⟩ <;> simp [Except.map]

/-! ### What follows on each operation -/

@[simp] theorem run_get_bind (next : σ → Action σ β) (state : σ) :
    ((get : Action σ σ) >>= next).run state = (next state).run state := by
  rw [run_bind]
  rfl

@[simp] theorem run_modify_bind (f : σ → σ) (next : Unit → Action σ β) (state : σ) :
    (modify f >>= next).run state = (next ()).run (f state) := by
  rw [run_bind]
  rfl

@[simp] theorem run_emit_bind (seen : Observation) (next : Unit → Action σ β) (state : σ) :
    (emit seen >>= next).run state =
      ⟨((next ()).run state).result, ((next ()).run state).state,
        seen :: ((next ()).run state).trace⟩ := by
  rw [run_bind]
  rfl

@[simp] theorem run_log_bind (record : Record) (next : Unit → Action σ β) (state : σ) :
    (log record >>= next).run state =
      ⟨((next ()).run state).result, ((next ()).run state).state,
        .logged record :: ((next ()).run state).trace⟩ := by
  rw [run_bind]
  rfl

@[simp] theorem run_ok_bind (a : α) (next : α → Action σ β) (state : σ) :
    (ofExcept (.ok a) >>= next).run state = (next a).run state := by
  rw [run_bind]
  rfl

@[simp] theorem run_error_bind (reason : Refusal) (next : α → Action σ β) (state : σ) :
    (ofExcept (.error reason) >>= next).run state = ⟨.error reason, state, []⟩ := by
  rw [run_bind]
  rfl

@[simp] theorem run_some_bind (reason : Refusal) (a : α) (next : α → Action σ β) (state : σ) :
    (require reason (some a) >>= next).run state = (next a).run state := by
  rw [run_bind]
  rfl

@[simp] theorem run_none_bind (reason : Refusal) (next : α → Action σ β) (state : σ) :
    (require reason none >>= next).run state = ⟨.error reason, state, []⟩ := by
  rw [run_bind]
  rfl

/-- A refusal that is reported does not keep the rest from happening. -/
theorem run_attempt_bind (action : Action σ α) (next : Except Refusal α → Action σ β) (state : σ) :
    (action.attempt >>= next).run state =
      let done := action.run state
      let last := (next done.result).run done.state
      ⟨last.result, last.state, done.trace ++ last.trace⟩ := by
  rw [run_bind]
  rfl

/-- An operation whose outcome is known is followed by the next one. -/
theorem run_bind_of_ok {first : Action σ α} {state middle : σ} {a : α} {seen : Trace}
    (done : first.run state = ⟨.ok a, middle, seen⟩) (next : α → Action σ β) :
    (first >>= next).run state =
      ⟨((next a).run middle).result, ((next a).run middle).state,
        seen ++ ((next a).run middle).trace⟩ := by
  rw [run_bind, done]

/-- A refusal ends the whole. -/
theorem run_bind_of_error {first : Action σ α} {state middle : σ} {reason : Refusal} {seen : Trace}
    (done : first.run state = ⟨.error reason, middle, seen⟩) (next : α → Action σ β) :
    (first >>= next).run state = ⟨.error reason, middle, seen⟩ := by
  rw [run_bind, done]

end Action

end Rtos
