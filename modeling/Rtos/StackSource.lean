/-
Module: Rtos.StackSource
Purpose: Where the stacks of tasks declared at run time come from.
Main definitions: StackSource, StackSource.alloc, StackSource.budget, StackSource.pool,
  StackSource.fixed
-/
import Rtos.Stack

namespace Rtos

/-- A source of stacks.  What it grants depends on the request and on the requests made before it,
latest first; nothing is assumed about the size of what it grants. -/
structure StackSource where
  grant : (earlier : List Nat) → (words : Nat) → Option Stack
  requests : List Nat := []

namespace StackSource

/-- Ask for a stack.  Granted or not, the request is remembered. -/
def alloc (source : StackSource) (words : Nat) : Option Stack × StackSource :=
  (source.grant source.requests words, { source with requests := words :: source.requests })

/-- What is left of a budget of words after some requests, latest first.  A request that was
refused cost nothing. -/
def budgetLeft (words : Nat) : List Nat → Nat
  | [] => words
  | request :: earlier =>
      let left := budgetLeft words earlier
      if request ≤ left then left - request else left

/-- A source that grants exactly the words asked for while its budget lasts. -/
def budget (words : Nat) : StackSource where
  grant earlier request :=
    if request ≤ budgetLeft words earlier then some (Stack.zeros request) else none

/-- A source with one stack, which goes to the first request that it is large enough for. -/
def pool (words : Nat) : StackSource where
  grant earlier request :=
    if request ≤ words ∧ ∀ other ∈ earlier, words < other then some (Stack.zeros words) else none

/-- A source that grants stacks of one size, whatever is asked for. -/
def fixed (words : Nat) : StackSource where
  grant _ _ := some (Stack.zeros words)

end StackSource

end Rtos
