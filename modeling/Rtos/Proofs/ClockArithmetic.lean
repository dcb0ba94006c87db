/-
Module: Rtos.Proofs.ClockArithmetic
Purpose: Going on and looking back on a clock that wraps.  The one undoes the other whatever the
  period, and neither passes the range of its words on the way.
Main definitions: narrow?, elapsedExact?, wrapAddExact?
Main statements: `toNat_elapsed_eq`, `elapsed_wrapAdd`, `wrapAdd_elapsed`, `elapsedExact?_eq`,
  `wrapAddExact?_eq`, `elapsed_inverts_wrapAdd`
-/
import Rtos.Proofs.AlarmReading
import Rtos.Proofs.Bounds

namespace Rtos

variable {now last step max : Tick}

/-! ### The time between two readings -/

/-- The value of a clock is its value modulo the period. -/
theorem toNat_mod_period (reached : now ≤ max) : now.toNat % (max.toNat + 1) = now.toNat :=
  Nat.mod_eq_of_lt (Nat.lt_add_one_of_le (UInt32.le_iff_toNat_le.mp reached))

/-- Looking back from a value is looking back from the same value one period later, when the clock
has certainly passed the last one. -/
theorem toNat_elapsed_eq (recorded : last ≤ max) (reached : now ≤ max) :
    (elapsed now last max).toNat =
      (now.toNat + (max.toNat + 1) - last.toNat) % (max.toNat + 1) := by
  have before := UInt32.le_iff_toNat_le.mp recorded
  refine toNat_elapsed (by omega) ?_ (toNat_mod_period recorded).symm
  rw [Nat.add_mod_right, toNat_mod_period reached]

/-- So many steps on, so many have passed. -/
theorem elapsed_wrapAdd (recorded : last ≤ max) (steps : step ≤ max) :
    elapsed (wrapAdd last step max) last max = step := by
  apply UInt32.toNat_inj.mp
  rw [toNat_elapsed (Nat.le_add_right _ step.toNat) (toNat_wrapAdd last step max)
    (toNat_mod_period recorded).symm, Nat.add_sub_cancel_left, toNat_mod_period steps]

/-- As many steps on as have passed, the clock shows what it shows. -/
theorem wrapAdd_elapsed (recorded : last ≤ max) (reached : now ≤ max) :
    wrapAdd last (elapsed now last max) max = now := by
  have before := UInt32.le_iff_toNat_le.mp recorded
  apply UInt32.toNat_inj.mp
  calc (wrapAdd last (elapsed now last max) max).toNat
      = (last.toNat + (now.toNat + (max.toNat + 1) - last.toNat)) % (max.toNat + 1) := by
        rw [toNat_wrapAdd, toNat_elapsed_eq recorded reached, Nat.add_mod_mod]
    _ = (now.toNat + (max.toNat + 1)) % (max.toNat + 1) := by
        rw [Nat.add_sub_cancel' (by omega)]
    _ = now.toNat := by
        rw [Nat.add_mod_right, toNat_mod_period reached]

/-! ### Every step on the way -/

/-- A long word as a count, unless it is too large for one. -/
def narrow? (wide : UInt64) : Option Tick :=
  if wide.toNat < UInt32.size then some wide.toUInt32 else none

/-- `elapsed`, unless one of its differences is negative or one of its sums too large for a word. -/
def elapsedExact? (now last max : Tick) : Option Tick := do
  if last ≤ now then
    subTick? now last
  else
    let rest ← subTick? max last
    let sum ← addTick? now rest
    addTick? sum 1

/-- `wrapAdd`, unless one of its sums is too large, it divides by zero or the remainder is too large
for a count. -/
def wrapAddExact? (value step max : Tick) : Option Tick := do
  let sum ← addWide? value.toUInt64 step.toUInt64
  let period ← addWide? max.toUInt64 1
  if period = 0 then none else narrow? (sum % period)

/-- Nothing wraps on the way from one reading to another: with the differences, the sums are in range
as well. -/
theorem elapsedExact?_eq (recorded : last ≤ max) (now : Tick) :
    elapsedExact? now last max = some (elapsed now last max) := by
  rw [← elapsed?_eq recorded now]
  unfold elapsedExact? elapsed?
  split
  · rfl
  · rename_i behind
    have before := UInt32.le_iff_toNat_le.mp recorded
    have overtaken := mt UInt32.le_iff_toNat_le.mpr behind
    have bounded := max.toNat_lt
    have rest := UInt32.toNat_sub_of_le _ _ recorded
    -- the clock is behind where it was, so that what it went to its end leaves room
    have room : now.toNat + (max - last).toNat < UInt32.size := by
      rw [rest, UInt32.size]
      omega
    have sum : (now + (max - last)).toNat = now.toNat + (max - last).toNat := by
      rw [UInt32.toNat_add, Nat.mod_eq_of_lt room]
    have roomForOne : (now + (max - last)).toNat + (1 : Tick).toNat < UInt32.size := by
      rw [sum, rest, UInt32.size, UInt32.toNat_one]
      omega
    simp only [subTick?, addTick?, if_pos recorded, if_pos room, if_pos roomForOne,
      Option.bind_eq_bind, Option.bind_some, Option.map_some]

/-- The remainder of a division by the period is a count again. -/
theorem narrow?_mod_period (wide : UInt64) (max : Tick) :
    narrow? (wide % (max.toUInt64 + 1)) = some (wide % (max.toUInt64 + 1)).toUInt32 := by
  have := Nat.mod_lt wide.toNat (Nat.add_one_pos max.toNat)
  have := max.toNat_lt
  rw [narrow?, if_pos]
  rw [UInt64.toNat_mod, toNat_period, UInt32.size]
  omega

/-- No steps are too many for a clock that wraps: the remainder that is left is a count. -/
theorem wrapAddExact?_eq (value step max : Tick) :
    wrapAddExact? value step max = some (wrapAdd value step max) := by
  have period : addWide? max.toUInt64 1 = some (max.toUInt64 + 1) := addWide?_eq max 1
  rw [← wrapAdd?_eq]
  unfold wrapAddExact? wrapAdd?
  rw [period]
  simp only [Option.bind_eq_bind, Option.bind_some, narrow?_mod_period]

/-! ### Both ways -/

/-- Looking back undoes going on, and going on undoes looking back, on a clock of any period.  The
time between two readings is their difference modulo the period.  No word is too small on the way. -/
theorem elapsed_inverts_wrapAdd (max last : Tick) (recorded : last ≤ max) :
    (∀ step ≤ max, elapsed (wrapAdd last step max) last max = step) ∧
      (∀ now ≤ max,
        ((elapsed now last max).toNat : Int) =
            ((now.toNat : Int) - last.toNat) % ((max.toNat : Int) + 1) ∧
          wrapAdd last (elapsed now last max) max = now) ∧
      (∀ now, elapsedExact? now last max = some (elapsed now last max)) ∧
      ∀ step, wrapAddExact? last step max = some (wrapAdd last step max) := by
  refine ⟨fun step => elapsed_wrapAdd recorded, fun now reached => ⟨?_, ?_⟩,
    elapsedExact?_eq recorded, fun step => wrapAddExact?_eq last step max⟩
  · have before := UInt32.le_iff_toNat_le.mp recorded
    have later : last.toNat ≤ now.toNat + (max.toNat + 1) := by omega
    calc ((elapsed now last max).toNat : Int)
        = ((now.toNat : Int) + ((max.toNat : Int) + 1) - last.toNat) % ((max.toNat : Int) + 1) := by
          rw [toNat_elapsed_eq recorded reached]
          push_cast [Nat.cast_sub later]
          rfl
      _ = ((now.toNat : Int) - last.toNat) % ((max.toNat : Int) + 1) := by
          rw [add_sub_right_comm, Int.add_emod_right]
  · exact wrapAdd_elapsed recorded reached

/-- On the clock that takes all values there are, one that has just wrapped is one step on from the
largest. -/
theorem elapsed_inverts_wrapAdd_maxTick :
    maxTick ≤ maxTick ∧ elapsed (wrapAdd maxTick 1 maxTick) maxTick maxTick = 1 ∧
      wrapAdd maxTick (elapsed 0 maxTick maxTick) maxTick = 0 ∧
      elapsedExact? 0 maxTick maxTick = some 1 := by
  obtain ⟨back, forth, exact, -⟩ := elapsed_inverts_wrapAdd maxTick maxTick (by decide)
  exact ⟨by decide, back 1 (by decide), (forth 0 (by decide)).2, exact 0⟩

end Rtos
