/-
Module: Rtos.Console
Purpose: The console that debug messages go to, which may be of bounded size, and the line on which
  the kernel asks its machine for a context switch.
Main definitions: Console, Console.write, SwitchLine, SwitchLine.request, SwitchLine.take
-/

namespace Rtos

/-- The text printed so far, of at most `capacity` bytes of UTF-8 where a capacity is given. -/
structure Console where
  capacity : Option Nat
  text : String := ""
deriving DecidableEq, Repr, Inhabited

namespace Console

/-- Bytes of text held. -/
def bytes (console : Console) : Nat := console.text.utf8ByteSize

/-- There is room for one more character. -/
def hasRoom (console : Console) (c : Char) : Bool :=
  match console.capacity with
  | some capacity => console.bytes + c.utf8Size ≤ capacity
  | none => true

/-- Print characters up to the first that does not fit. -/
def writeChars (console : Console) : List Char → Console
  | [] => console
  | c :: rest =>
      if console.hasRoom c then
        writeChars { console with text := console.text.push c } rest
      else console

/-- Print a message up to the first character that does not fit.  A later message that is short
enough may still fit. -/
def write (console : Console) (message : String) : Console :=
  console.writeChars message.toList

end Console

/-- Requests for a context switch, which the machine carries out once the kernel is left. -/
structure SwitchLine where
  /-- A switch was requested and has not been taken up. -/
  pending : Bool := false
  /-- Requests made so far. -/
  requests : Nat := 0
deriving DecidableEq, Repr, Inhabited

namespace SwitchLine

/-- Ask for a switch.  Asking again before it is taken up makes no difference but to the count. -/
def request (line : SwitchLine) : SwitchLine :=
  { pending := true, requests := line.requests + 1 }

/-- Take up the request. -/
def take (line : SwitchLine) : SwitchLine := { line with pending := false }

end SwitchLine

end Rtos
