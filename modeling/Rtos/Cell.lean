/-
Module: Rtos.Cell
Purpose: A place for one value that handlers share.  Whoever works on the value has it alone: an
  attempt to reach it from inside such work finds nothing.
Main definitions: Cell, Cell.borrow?, Cell.use, Cell.install?
-/

namespace Rtos

/-- A cell, and whether its contents are being worked on. -/
structure Cell (α : Type) where
  contents : Option α := none
  borrowed : Bool := false
deriving Repr, Inhabited

namespace Cell

variable {α β : Type}

/-- Take up work on the contents.  There are none to work on if the cell is empty, or if someone is
at work already. -/
def borrow? (cell : Cell α) : Option (α × Cell α) :=
  match cell.contents, cell.borrowed with
  | some value, false => some (value, { cell with borrowed := true })
  | _, _ => none

/-- End the work begun by a borrow, leaving this value behind. -/
def restore (cell : Cell α) (value : α) : Cell α :=
  { cell with contents := some value, borrowed := false }

/-- Work on the contents.  There is no answer, and no change, if they cannot be had. -/
def use (cell : Cell α) (work : α → β × α) : Option β × Cell α :=
  match cell.borrow? with
  | some (value, held) =>
      let (answer, value) := work value
      (some answer, held.restore value)
  | none => (none, cell)

/-- Put a value into the cell in place of any other.  This is refused while someone is at work on
the contents. -/
def install? (cell : Cell α) (value : α) : Option (Cell α) :=
  if cell.borrowed then none else some { contents := some value }

/-- Reach for the contents from inside work on them.  The outer answer tells whether there was work
to be inside of, the inner one what the inner attempt came to. -/
def useNested (cell : Cell α) (outer : α → β) (inner : α → β × α) : Option (β × Option β) :=
  match cell.borrow? with
  | some (value, held) => some (outer value, (held.use inner).1)
  | none => none

/-- Install a value from inside work on the contents.  There is no answer if there are no contents
to work on; otherwise it tells whether the value was accepted. -/
def installInside (cell : Cell α) (value : α) : Option Bool :=
  match cell.borrow? with
  | some (_, held) => some (held.install? value).isSome
  | none => none

end Cell

end Rtos
