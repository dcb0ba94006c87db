/-
Module: Rtos.Stack
Purpose: Task stacks as arrays of machine words, and the exception frame that a fresh task is
  started from.
Main definitions: Word, Stack, Stack.store, initialFrame, Stack.prime
Main statements: `Stack.size_store` and `length_initialFrame`, the sizes of what is written.
-/

namespace Rtos

/-- One machine word: a stack slot, a register, an address. -/
abbrev Word := UInt64

/-- Address of a task's code. -/
abbrev Entry := Word

/-- The words of a task's stack, lowest address first.  A stack starts on an 8-byte boundary, and
so does each of its words. -/
abbrev Stack := Array Word

/-- Words in a full saved frame: R4 to R11 as the switch saves them, then R0 to R3, R12, LR, PC
and xPSR as the hardware stacks them. -/
def frameWords : Nat := 16

/-- Slot of R0 in a full frame. -/
def frameR0 : Nat := 8

/-- Slot of the link register in a full frame. -/
def frameLr : Nat := 13

/-- Slot of the program counter in a full frame. -/
def framePc : Nat := 14

/-- Slot of the program status register in a full frame. -/
def frameXpsr : Nat := 15

/-- A status register with only the Thumb bit set. -/
def initialXpsr : Word := 0x01000000

/-- The smallest stack that a task may be given: one frame and as much room again to run. -/
def minStackWords : Nat := 2 * frameWords

/-- Where a task ends up that returns from its entry: an endless loop in low memory. -/
def landingPad : Word := 0x80

/-- The frame from which a fresh task starts at `entry` with `argument` in R0.  Every other general
register is zero, and a return leads to the landing pad. -/
def initialFrame (entry : Entry) (argument : Int32) : List Word :=
  List.replicate frameR0 0 ++
    [argument.toUInt32.toUInt64, 0, 0, 0, 0, landingPad, entry &&& ~~~1, initialXpsr]

@[simp] theorem length_initialFrame (entry : Entry) (argument : Int32) :
    (initialFrame entry argument).length = frameWords := by
  simp [initialFrame, frameR0, frameWords]

namespace Stack

/-- Write words upwards from index `start`; what would lie past the end is dropped. -/
def store (stack : Stack) (start : Nat) : List Word → Stack
  | [] => stack
  | word :: rest => store (stack.setIfInBounds start word) (start + 1) rest

@[simp] theorem size_store (stack : Stack) (start : Nat) (words : List Word) :
    (stack.store start words).size = stack.size := by
  induction words generalizing stack start with
  | nil => rfl
  | cons word rest ih => simp [store, ih]

/-- Lay an initial frame at the top of the stack, and give the index of its first word.  A stack
shorter than a frame keeps as much of it as fits, from index 0. -/
def prime (stack : Stack) (entry : Entry) (argument : Int32) : Stack × Nat :=
  let start := stack.size - frameWords
  (stack.store start (initialFrame entry argument), start)

/-- A stack of zeros. -/
def zeros (words : Nat) : Stack := Array.replicate words 0

end Stack

end Rtos
