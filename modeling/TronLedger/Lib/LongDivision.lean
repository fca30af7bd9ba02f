import Mathlib.Data.Nat.Size
import Mathlib.Algebra.Ring.Divisibility.Basic
import Mathlib.Tactic.Ring

/-!
# Long division by shifting

The quotient is built from the top bit down: the divisor, shifted as far as it goes, is subtracted
wherever it fits. `loop_eq` is the invariant of the loop, `start_eq` that its usual start meets it.
-/

namespace TronLedger.LongDivision

/-- The loop: `copyd` is the shifted divisor, `adder` the bit of the quotient it stands for. -/
def loop (r : Nat) : Nat → Nat → Nat → Nat → Nat → Nat × Nat
  | 0, _, _, resDiv, resMod => (resDiv, resMod)
  | fuel + 1, copyd, adder, resDiv, resMod =>
    if r ≤ resMod then
      if copyd ≤ resMod then loop r fuel (copyd / 2) (adder / 2) (resDiv ||| adder) (resMod - copyd)
      else loop r fuel (copyd / 2) (adder / 2) resDiv resMod
    else (resDiv, resMod)

/-- The loop stops at once. -/
theorem loop_done {r resMod : Nat} (small : resMod < r) (fuel copyd adder resDiv : Nat) :
    loop r fuel copyd adder resDiv resMod = (resDiv, resMod) := by
  cases fuel with
  | zero => rfl
  | succ fuel =>
    rw [loop, if_neg (by omega)]

/-- A bit below those of a number is added to it. -/
theorem or_bit {n k : Nat} (above : 2 ^ (k + 1) ∣ n) : n ||| 2 ^ k = n + 2 ^ k := by
  obtain ⟨m, rfl⟩ := above
  exact (Nat.two_pow_add_eq_or_of_lt (Nat.pow_lt_pow_right (by decide) (Nat.lt_succ_self k)) m).symm

theorem half_pow (k : Nat) : 2 ^ (k + 1) / 2 = 2 ^ k := by
  rw [pow_succ, Nat.mul_div_cancel _ (by decide)]

theorem half_shifted (r k : Nat) : r * 2 ^ (k + 1) / 2 = r * 2 ^ k := by
  rw [pow_succ, ← Nat.mul_assoc, Nat.mul_div_cancel _ (by decide)]

/-- **With the divisor shifted by `k`, and a remainder below twice as much, the loop divides.** -/
theorem loop_eq {r : Nat} (k : Nat) {fuel resDiv resMod : Nat} (enough : k + 1 ≤ fuel)
    (small : resMod < r * 2 ^ (k + 1)) (above : 2 ^ (k + 1) ∣ resDiv) :
    loop r fuel (r * 2 ^ k) (2 ^ k) resDiv resMod = (resDiv + resMod / r, resMod % r) := by
  induction k generalizing fuel resDiv resMod with
  | zero =>
    obtain ⟨fuel, rfl⟩ : ∃ more, fuel = more + 1 := ⟨fuel - 1, by omega⟩
    rw [Nat.zero_add, pow_one] at small
    by_cases fits : r ≤ resMod
    · have bit := or_bit above
      rw [loop, if_pos fits, pow_zero, Nat.mul_one, if_pos fits, loop_done (by omega)]
      have one : resMod / r = 1 := by
        rw [Nat.div_eq_of_lt_le] <;> omega
      have rest : resMod % r = resMod - r := by
        rw [Nat.mod_eq_sub_mod fits, Nat.mod_eq_of_lt (by omega)]
      rw [one, rest, ← pow_zero 2, bit]
    · rw [loop_done (by omega), Nat.div_eq_of_lt (by omega), Nat.mod_eq_of_lt (by omega), Nat.add_zero]
  | succ k ih =>
    obtain ⟨fuel, rfl⟩ : ∃ more, fuel = more + 1 := ⟨fuel - 1, by omega⟩
    have double : r * 2 ^ (k + 1 + 1) = 2 * (r * 2 ^ (k + 1)) := by
      rw [pow_succ, ← Nat.mul_assoc, Nat.mul_comm]
    have lower : 2 ^ (k + 1) ∣ resDiv := (Nat.pow_dvd_pow 2 (Nat.le_succ _)).trans above
    by_cases fits : r ≤ resMod
    · rw [loop, if_pos fits, half_pow, half_shifted]
      split
      · rename_i subtract
        have positive : 0 < r := by
          by_contra none
          rw [Nat.eq_zero_of_not_pos none, Nat.zero_mul] at small
          omega
        rw [or_bit above, ih (by omega) (by omega) (dvd_add lower (dvd_refl _))]
        -- the shifted divisor is a multiple of the divisor
        obtain ⟨rest, rfl⟩ : ∃ rest, resMod = rest + r * 2 ^ (k + 1) := ⟨_, (Nat.sub_add_cancel subtract).symm⟩
        rw [Nat.add_sub_cancel, Nat.add_mul_div_left _ _ positive, Nat.add_mul_mod_self_left]
        congr 1
        omega
      · rename_i larger
        exact ih (by omega) (by omega) lower
    · rw [loop_done (by omega), Nat.div_eq_of_lt (by omega), Nat.mod_eq_of_lt (by omega), Nat.add_zero]

/-- The divisor, shifted to as many bits as the dividend has, is more than half of it. -/
theorem start_small {l r : Nat} (positive : 0 < r) (le : r ≤ l) : l < r * 2 ^ (l.size - r.size + 1) := by
  have sizes : r.size ≤ l.size := Nat.size_le_size le
  have some := Nat.size_pos.mpr positive
  have lower : 2 ^ (r.size - 1) ≤ r := by
    by_contra below
    have fewer := Nat.size_le.mpr (Nat.lt_of_not_le below)
    omega
  calc l < 2 ^ l.size := Nat.lt_size_self l
    _ = 2 ^ (r.size - 1) * 2 ^ (l.size - r.size + 1) := by
      rw [← pow_add]
      congr 1
      omega
    _ ≤ r * 2 ^ (l.size - r.size + 1) := Nat.mul_le_mul_right _ lower

/-- **Started with the divisor shifted to the bits of the dividend, or one less where that is more
than the dividend, the loop divides.** -/
theorem start_eq {l r fuel : Nat} (positive : 0 < r) (le : r ≤ l) (enough : l.size + 1 ≤ fuel) :
    (if l < r * 2 ^ (l.size - r.size) then
      loop r fuel (r * 2 ^ (l.size - r.size) / 2) (2 ^ (l.size - r.size) / 2) 0 l
    else loop r fuel (r * 2 ^ (l.size - r.size)) (2 ^ (l.size - r.size)) 0 l) = (l / r, l % r) := by
  generalize shift : l.size - r.size = k
  have small := start_small positive le
  rw [shift] at small
  split
  · rename_i large
    obtain ⟨k, rfl⟩ : ∃ less, k = less + 1 := by
      refine ⟨k - 1, ?_⟩
      by_contra none
      have zero : k = 0 := by omega
      rw [zero, pow_zero] at large
      omega
    rw [half_pow, half_shifted, loop_eq k (by omega) large (dvd_zero _), Nat.zero_add]
  · rw [loop_eq k (by omega) small (dvd_zero _), Nat.zero_add]

end TronLedger.LongDivision
