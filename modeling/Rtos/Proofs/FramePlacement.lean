/-
Module: Rtos.Proofs.FramePlacement
Purpose: Where priming lays a frame, on a stack of any size.  The place is found by addresses: from
  the end of the stack down to a boundary of 8 bytes, and from there down by the length of a frame.
Main definitions: endAddress?, frameStart, initialFrame?, Stack.LiesAt, Stack.primeAt?
Main statements: `alignDown_of_dvd`, `exists_endAddress`, `toNat_frameStart`,
  `Stack.LiesAt.primeAt?_eq`, `Stack.primes_in_place`
-/
import Rtos.Proofs.Bounds
import Rtos.Proofs.Frame

namespace Rtos

/-! ### Addresses -/

/-- Bytes in a word. -/
def wordBytes : Word := 8

/-- A length as a word, unless it is too large for one. -/
def wordOf? (length : Nat) : Option Word :=
  if length < UInt64.size then some (.ofNat length) else none

/-- The product of two words, unless it is too large for one. -/
def mulWide? (a b : UInt64) : Option UInt64 :=
  if a.toNat * b.toNat < UInt64.size then some (a * b) else none

/-- The difference of two words, or zero where it would be negative. -/
def saturatingSub (a b : Word) : Word := if b ≤ a then a - b else 0

/-- The last boundary of 8 bytes that is not past the address. -/
def alignDown (address : Word) : Word := address &&& ~~~7

/-- Where so many words end that begin at an address, unless the end is too large for a word. -/
def endAddress? (base : Word) (words : Nat) : Option Word := do
  let length ← wordOf? words
  let bytes ← mulWide? length wordBytes
  addWide? base bytes

/-- Index of the first word of a frame on a stack between two addresses.  The frame ends at the last
boundary, and begins at the bottom if there is less room than it needs. -/
def frameStart (base top : Word) : Word :=
  saturatingSub (saturatingSub (alignDown top) base / wordBytes) (.ofNat frameWords)

theorem toNat_saturatingSub (a b : Word) : (saturatingSub a b).toNat = a.toNat - b.toNat := by
  unfold saturatingSub
  split
  · rename_i enough
    exact UInt64.toNat_sub_of_le a b enough
  · rename_i short
    have := mt UInt64.le_iff_toNat_le.mpr short
    rw [UInt64.toNat_zero]
    omega

/-- An address that lies on a boundary stays where it is. -/
theorem alignDown_of_dvd {address : Word} (aligned : 8 ∣ address.toNat) :
    alignDown address = address := by
  have low : address &&& 7 = 0 := by
    apply UInt64.toNat_inj.mp
    rw [UInt64.toNat_and]
    exact (Nat.and_two_pow_sub_one_eq_mod _ 3).trans (Nat.mod_eq_zero_of_dvd aligned)
  calc alignDown address
      = (address &&& 7) ||| (address &&& ~~~7) := by rw [low, UInt64.zero_or, alignDown]
    _ = address &&& (7 ||| ~~~7) := (UInt64.toBitVec_inj.mp BitVec.and_or_distrib_left).symm
    _ = address := by rw [UInt64.or_not_self, UInt64.and_neg_one]

/-- Nothing wraps on the way to the end of what lies in the range of addresses. -/
theorem exists_endAddress {base : Word} {words : Nat}
    (fits : base.toNat + words * 8 < UInt64.size) :
    ∃ top, endAddress? base words = some top ∧ top.toNat = base.toNat + words * 8 := by
  have small : words < UInt64.size := by omega
  have product : (UInt64.ofNat words).toNat * wordBytes.toNat = words * 8 := by
    rw [UInt64.toNat_ofNat_of_lt' small]
    rfl
  have room : (UInt64.ofNat words).toNat * wordBytes.toNat < UInt64.size := by omega
  have bytes : (UInt64.ofNat words * wordBytes).toNat = words * 8 := by
    rw [UInt64.toNat_mul, Nat.mod_eq_of_lt room, product]
  have total : base.toNat + (UInt64.ofNat words * wordBytes).toNat < UInt64.size := by
    rwa [bytes]
  refine ⟨base + UInt64.ofNat words * wordBytes, ?_, ?_⟩
  · simp only [endAddress?, wordOf?, mulWide?, addWide?, if_pos small, if_pos room, if_pos total,
      Option.bind_eq_bind, Option.bind_some]
  · rw [UInt64.toNat_add, Nat.mod_eq_of_lt total, bytes]

/-- A stack that ends on a boundary has a frame right at its end, if there is room. -/
theorem toNat_frameStart {base top : Word} (aligned : 8 ∣ top.toNat) :
    (frameStart base top).toNat = (top.toNat - base.toNat) / 8 - frameWords := by
  rw [frameStart, alignDown_of_dvd aligned, toNat_saturatingSub, UInt64.toNat_div,
    toNat_saturatingSub]
  rfl

/-! ### The frame -/

/-- Put a word into a slot, unless there is no such slot. -/
def fillSlot? (slots : List Word) (slot : Nat) (word : Word) : Option (List Word) :=
  if slot < slots.length then some (slots.set slot word) else none

/-- `initialFrame`, filled in slot by slot, unless one of them lies outside of it. -/
def initialFrame? (entry : Entry) (argument : Int32) : Option (List Word) := do
  let frame := List.replicate frameWords 0
  let frame ← fillSlot? frame frameR0 argument.toUInt32.toUInt64
  let frame ← fillSlot? frame frameLr landingPad
  let frame ← fillSlot? frame framePc (entry &&& ~~~1)
  fillSlot? frame frameXpsr initialXpsr

theorem initialFrame?_eq (entry : Entry) (argument : Int32) :
    initialFrame? entry argument = some (initialFrame entry argument) := rfl

/-! ### The frame on the stack -/

namespace Stack

variable {base : Word} {stack : Stack}

/-- The stack begins at this address, on a boundary of 8 bytes, and the address of its end is in
range. -/
structure LiesAt (base : Word) (stack : Stack) : Prop where
  aligned : 8 ∣ base.toNat
  fits : base.toNat + stack.size * 8 < UInt64.size

/-- `prime` by way of addresses, for a stack that begins at `base`, unless an address is too large
for a word or an index out of range. -/
def primeAt? (base : Word) (stack : Stack) (entry : Entry) (argument : Int32) :
    Option (Stack × Nat) := do
  let top ← endAddress? base stack.size
  let start := (frameStart base top).toNat
  let frame ← initialFrame? entry argument
  if start ≤ stack.size then
    let (below, slots) := stack.toList.splitAt start
    some ((below ++ overlay slots frame).toArray, start)
  else none

/-- The addresses of a stack are in range, and lead where the sizes do. -/
theorem LiesAt.primeAt?_eq (lies : stack.LiesAt base) (entry : Entry) (argument : Int32) :
    stack.primeAt? base entry argument = some (stack.prime entry argument) := by
  obtain ⟨top, ends, toNat⟩ := exists_endAddress lies.fits
  have aligned : 8 ∣ top.toNat := by
    rw [toNat]
    exact Nat.dvd_add lies.aligned (Nat.dvd_mul_left 8 stack.size)
  have start : (frameStart base top).toNat = stack.size - frameWords := by
    rw [toNat_frameStart aligned, toNat, Nat.add_sub_cancel_left, Nat.mul_div_cancel _ (by decide)]
  have inside : stack.size - frameWords ≤ stack.size := Nat.sub_le _ _
  simp only [primeAt?, ends, initialFrame?_eq, start, if_pos inside, List.splitAt_eq,
    Option.bind_eq_bind, Option.bind_some]
  rw [← toList_store, Array.toArray_toList]
  rfl

/-- Priming is safe and local on every stack.  The frame begins its own length below the end, or at
the bottom of a stack that is shorter.  No word below it changes, from there on the stack holds as
much of the initial frame as fits, and the stack keeps its size.  Wherever the stack lies, the way
by addresses leads to the same result, and no index on it is out of range. -/
theorem primes_in_place (stack : Stack) (entry : Entry) (argument : Int32) :
    (stack.prime entry argument).2 =
        (if frameWords ≤ stack.size then stack.size - frameWords else 0) ∧
      (∀ index < (stack.prime entry argument).2,
        (stack.prime entry argument).1[index]? = stack[index]?) ∧
      (stack.prime entry argument).1.toList.drop (stack.prime entry argument).2 =
        (initialFrame entry argument).take (min stack.size frameWords) ∧
      (stack.prime entry argument).1.size = stack.size ∧
      ∀ base, stack.LiesAt base →
        stack.primeAt? base entry argument = some (stack.prime entry argument) := by
  refine ⟨?start, fun index below => ?below, stack.drop_prime entry argument, ?size,
    fun base lies => lies.primeAt?_eq entry argument⟩
  case start =>
    change stack.size - frameWords = _
    split <;> omega
  case below =>
    change index < stack.size - frameWords at below
    rw [prime, getElem?_store, if_neg fun above => Nat.not_le.mpr below above.1]
  case size => rw [prime, size_store]

/-- On a stack with one word more than a frame, as far up as a stack can lie, that word is all that
stays. -/
theorem primes_in_place_uppermost :
    LiesAt 0xFFFFFFFFFFFFFF70 (Array.replicate 17 7) ∧
      primeAt? 0xFFFFFFFFFFFFFF70 (Array.replicate 17 7) 0x1001 (-1) =
        some (#[7, 0, 0, 0, 0, 0, 0, 0, 0, 0xFFFFFFFF, 0, 0, 0, 0, landingPad, 0x1000,
          initialXpsr], 1) := by
  have lies : LiesAt 0xFFFFFFFFFFFFFF70 (Array.replicate 17 7) := ⟨by decide, by decide⟩
  obtain ⟨-, -, -, -, placed⟩ := primes_in_place (Array.replicate 17 7) 0x1001 (-1)
  exact ⟨lies, (placed _ lies).trans (by decide)⟩

end Stack

end Rtos
