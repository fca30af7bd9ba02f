import TronLedger.UInt256
import TronLedger.AmountText
import TronLedger.Lib.Halves
import TronLedger.Lib.LongDivision

/-!
# The numbers that limbs stand for

Every operation of `uint256.c` that the app uses is one on natural numbers below 2^128 or 2^256.

* `UInt256.toNat_divmod` gives quotient and remainder, through the long division of its loop.
* `UInt256.tostring_numeral` and `UInt256.tostring_full` give the text in any base, and what is left
  where it does not fit.
* `convertUint256BE_toNat` gives the number of a byte string.
-/

namespace TronLedger

open Halves (join)

section Limbs

/-- One bit more is counted for each shift until nothing is left. -/
theorem size_half {n : Nat} (positive : 0 < n) : n.size = (n / 2).size + 1 := by
  have odd := Nat.bit_bodd_div2 n
  have nonzero : Nat.bit n.bodd n.div2 ≠ 0 := by
    rw [odd]
    omega
  have step := Nat.size_bit nonzero
  rw [odd, Nat.div2_val] at step
  exact step

theorem limbBits_eq (fuel : Nat) (limb : UInt64) (small : limb.toNat < 2 ^ fuel) :
    UInt128.limbBits fuel limb = limb.toNat.size := by
  induction fuel generalizing limb with
  | zero =>
    have zero : limb.toNat = 0 := by omega
    rw [zero]
    rfl
  | succ fuel ih =>
    have half : (limb >>> 1).toNat = limb.toNat / 2 := by
      rw [UInt64.toNat_shiftRight, Nat.shiftRight_eq_div_pow]
      rfl
    rw [UInt128.limbBits]
    split
    · rename_i none
      rw [none]
      rfl
    · rename_i some
      have positive : 0 < limb.toNat := Nat.pos_of_ne_zero fun zero => some (UInt64.toNat_inj.mp zero)
      rw [ih _ (by rw [half, pow_succ] at *; omega), half, ← size_half positive]

end Limbs

namespace UInt128

def toNat (n : UInt128) : Nat := join 64 n.upper.toNat n.lower.toNat

theorem toNat_lt (n : UInt128) : n.toNat < 2 ^ 128 := Halves.join_bound n.upper.toNat_lt n.lower.toNat_lt

theorem toNat_inj {a b : UInt128} : a.toNat = b.toNat ↔ a = b := by
  unfold toNat
  rw [Halves.join_inj a.lower.toNat_lt b.lower.toNat_lt, UInt64.toNat_inj, UInt64.toNat_inj]
  cases a
  cases b
  simp

@[simp] theorem toNat_zero : zero.toNat = 0 := rfl

@[simp] theorem toNat_one : one.toNat = 1 := rfl

theorem isZero_iff (n : UInt128) : n.isZero = true ↔ n.toNat = 0 := by
  unfold toNat
  rw [Halves.join_eq_zero]
  have upper : n.upper = 0 ↔ n.upper.toNat = 0 := UInt64.toNat_inj.symm
  have lower : n.lower = 0 ↔ n.lower.toNat = 0 := UInt64.toNat_inj.symm
  simp only [isZero, Bool.and_eq_true, decide_eq_true_eq, upper, lower]
  exact and_comm

theorem toNat_shiftl (n : UInt128) (value : Nat) : (n.shiftl value).toNat = n.toNat * 2 ^ value % 2 ^ 128 := by
  unfold shiftl
  split
  · rename_i all
    obtain ⟨more, rfl⟩ : ∃ more, value = 128 + more := ⟨value - 128, by omega⟩
    rw [pow_add, Nat.mul_left_comm, Nat.mul_mod_right]
    rfl
  rename_i some
  split
  · rename_i half
    unfold toNat
    rw [half, Halves.join_shiftl_across (Nat.le_refl 64), Nat.sub_self, pow_zero, Nat.mul_one,
      Nat.mod_eq_of_lt n.lower.toNat_lt]
    rfl
  split
  · rename_i none
    rw [none, pow_zero, Nat.mul_one, Nat.mod_eq_of_lt n.toNat_lt]
  split
  · rename_i few
    have left : (UInt64.ofNat value).toNat % 64 = value := by
      rw [UInt64.toNat_ofNat']
      omega
    have right : (UInt64.ofNat (64 - value)).toNat % 64 = 64 - value := by
      rw [UInt64.toNat_ofNat']
      omega
    unfold toNat
    rw [Halves.join_shiftl _ _ (Nat.le_of_lt few)]
    dsimp only
    rw [UInt64.toNat_add, UInt64.toNat_shiftLeft, UInt64.toNat_shiftLeft, UInt64.toNat_shiftRight, left, right,
      Nat.shiftLeft_eq, Nat.shiftLeft_eq, Nat.shiftRight_eq_div_pow]
  · rename_i many
    have across : (UInt64.ofNat (value - 64)).toNat % 64 = value - 64 := by
      rw [UInt64.toNat_ofNat']
      omega
    unfold toNat
    rw [Halves.join_shiftl_across (by omega)]
    dsimp only
    rw [UInt64.toNat_shiftLeft, across, Nat.shiftLeft_eq]
    rfl

theorem toNat_shiftr (n : UInt128) (value : Nat) : (n.shiftr value).toNat = n.toNat / 2 ^ value := by
  unfold shiftr
  split
  · rename_i all
    have above : 2 ^ 128 ≤ 2 ^ value := Nat.pow_le_pow_right (by decide) all
    rw [Nat.div_eq_of_lt (Nat.lt_of_lt_of_le n.toNat_lt above)]
    rfl
  rename_i some
  split
  · rename_i half
    rw [half, toNat, toNat, Halves.join_div n.lower.toNat_lt, UInt64.toNat_zero, Halves.join_zero]
  split
  · rename_i none
    rw [none, pow_zero, Nat.div_one]
  split
  · rename_i few
    have right : (UInt64.ofNat value).toNat % 64 = value := by
      rw [UInt64.toNat_ofNat']
      omega
    have left : (UInt64.ofNat (64 - value)).toNat % 64 = 64 - value := by
      rw [UInt64.toNat_ofNat']
      omega
    unfold toNat
    rw [Halves.join_shiftr (Nat.le_of_lt few) n.lower.toNat_lt]
    dsimp only
    rw [UInt64.toNat_add, UInt64.toNat_shiftLeft, UInt64.toNat_shiftRight, UInt64.toNat_shiftRight, left, right,
      Nat.shiftLeft_eq, Nat.shiftRight_eq_div_pow, Nat.shiftRight_eq_div_pow]
  · rename_i many
    have across : (UInt64.ofNat (value - 64)).toNat % 64 = value - 64 := by
      rw [UInt64.toNat_ofNat']
      omega
    unfold toNat
    rw [Halves.join_shiftr_across (by omega) n.lower.toNat_lt]
    dsimp only
    rw [UInt64.toNat_shiftRight, across, Nat.shiftRight_eq_div_pow, UInt64.toNat_zero, Halves.join_zero]

theorem gt_iff (a b : UInt128) : a.gt b = true ↔ b.toNat < a.toNat := by
  unfold gt toNat
  rw [Halves.join_lt_join b.lower.toNat_lt a.lower.toNat_lt]
  split
  · rename_i same
    rw [same, decide_eq_true_eq, UInt64.lt_iff_toNat_lt]
    simp
  · rename_i other
    have apart : b.upper.toNat ≠ a.upper.toNat := fun same => other (UInt64.toNat_inj.mp same.symm)
    rw [decide_eq_true_eq, UInt64.lt_iff_toNat_lt]
    simp [apart]

theorem toNat_add (a b : UInt128) : (a.add b).toNat = (a.toNat + b.toNat) % 2 ^ 128 := by
  unfold add toNat
  rw [Halves.join_add a.lower.toNat_lt b.lower.toNat_lt]
  have bound := a.lower.toNat_lt
  have bound' := b.lower.toNat_lt
  have carries : a.lower + b.lower < a.lower ↔ 2 ^ 64 ≤ a.lower.toNat + b.lower.toNat := by
    rw [UInt64.lt_iff_toNat_lt, UInt64.toNat_add]
    omega
  dsimp only
  rw [UInt64.toNat_add, UInt64.toNat_add, UInt64.toNat_add]
  by_cases carry : 2 ^ 64 ≤ a.lower.toNat + b.lower.toNat
  · rw [if_pos carry, if_pos (carries.mpr carry), Nat.mod_add_mod]
    rfl
  · rw [if_neg carry, if_neg fun wraps => carry (carries.mp wraps), Nat.mod_add_mod]
    rfl

theorem toNat_minus (a b : UInt128) : (a.minus b).toNat = (2 ^ 128 - b.toNat + a.toNat) % 2 ^ 128 := by
  have above : join 64 (a.upper.toNat + 2 ^ 64) a.lower.toNat = 2 ^ 128 + a.toNat := by
    unfold toNat join
    omega
  have le : b.toNat ≤ join 64 (a.upper.toNat + 2 ^ 64) a.lower.toNat := by
    have := b.toNat_lt
    omega
  have bound := a.lower.toNat_lt
  have bound' := b.lower.toNat_lt
  have upper := a.upper.toNat_lt
  have upper' := b.upper.toNat_lt
  have borrows : a.lower < a.lower - b.lower ↔ a.lower.toNat < b.lower.toNat := by
    rw [UInt64.lt_iff_toNat_lt, UInt64.toNat_sub]
    omega
  have sub := Halves.join_sub bound bound' le
  have whole : 2 ^ 128 - b.toNat + a.toNat = join 64 (a.upper.toNat + 2 ^ 64) a.lower.toNat - b.toNat := by
    have := b.toNat_lt
    omega
  rw [whole]
  unfold toNat at sub ⊢
  rw [sub]
  unfold minus
  dsimp only
  by_cases borrow : a.lower.toNat < b.lower.toNat
  · rw [if_pos borrow, if_pos borrow, if_pos (borrows.mpr borrow), Halves.join_cut _ (by omega), UInt64.toNat_sub,
      UInt64.toNat_sub, UInt64.toNat_sub]
    congr 1
    · have one : (1 : UInt64).toNat = 1 := rfl
      rw [one]
      omega
    · omega
  · rw [if_neg borrow, if_neg borrow, if_neg fun wraps => borrow (borrows.mp wraps), Halves.join_cut _ (by omega),
      UInt64.toNat_sub, UInt64.toNat_sub, UInt64.toNat_sub]
    congr 1
    · have zero : (0 : UInt64).toNat = 0 := rfl
      rw [zero]
      omega
    · omega

theorem toNat_or (a b : UInt128) : (a.or b).toNat = a.toNat ||| b.toNat := by
  unfold or toNat
  rw [Halves.join_or a.lower.toNat_lt b.lower.toNat_lt, UInt64.toNat_or, UInt64.toNat_or]

theorem bits_eq (n : UInt128) : n.bits = n.toNat.size := by
  unfold bits toNat
  rw [Halves.join_size n.lower.toNat_lt]
  have upper : n.upper = 0 ↔ n.upper.toNat = 0 := UInt64.toNat_inj.symm
  split
  · rename_i some
    rw [if_neg fun zero => some (upper.mpr zero), limbBits_eq 64 _ n.upper.toNat_lt]
  · rename_i none
    rw [if_pos (upper.mp (not_not.mp none)), limbBits_eq 64 _ n.lower.toNat_lt]

end UInt128

namespace UInt256

def toNat (n : UInt256) : Nat := join 128 n.upper.toNat n.lower.toNat

theorem toNat_lt (n : UInt256) : n.toNat < 2 ^ 256 := Halves.join_bound n.upper.toNat_lt n.lower.toNat_lt

theorem toNat_inj {a b : UInt256} : a.toNat = b.toNat ↔ a = b := by
  unfold toNat
  rw [Halves.join_inj a.lower.toNat_lt b.lower.toNat_lt, UInt128.toNat_inj, UInt128.toNat_inj]
  cases a
  cases b
  simp

@[simp] theorem toNat_zero : zero.toNat = 0 := rfl

@[simp] theorem toNat_one : one.toNat = 1 := rfl

theorem isZero_iff (n : UInt256) : n.isZero = true ↔ n.toNat = 0 := by
  unfold toNat
  rw [Halves.join_eq_zero]
  simp only [isZero, Bool.and_eq_true, UInt128.isZero_iff]
  exact and_comm

theorem toNat_shiftl (n : UInt256) (value : Nat) : (n.shiftl value).toNat = n.toNat * 2 ^ value % 2 ^ 256 := by
  unfold shiftl
  split
  · rename_i all
    obtain ⟨more, rfl⟩ : ∃ more, value = 256 + more := ⟨value - 256, by omega⟩
    rw [pow_add, Nat.mul_left_comm, Nat.mul_mod_right, toNat_zero]
  rename_i some
  split
  · rename_i half
    unfold toNat
    rw [half, Halves.join_shiftl_across (Nat.le_refl 128), Nat.sub_self, pow_zero, Nat.mul_one,
      Nat.mod_eq_of_lt n.lower.toNat_lt, UInt128.toNat_zero]
  split
  · rename_i none
    rw [none, pow_zero, Nat.mul_one, Nat.mod_eq_of_lt n.toNat_lt]
  unfold toNat
  split
  · rename_i few
    rw [Halves.join_shiftl _ _ (Nat.le_of_lt few)]
    dsimp only
    rw [UInt128.toNat_add, UInt128.toNat_shiftl, UInt128.toNat_shiftl, UInt128.toNat_shiftr]
  · rename_i many
    rw [Halves.join_shiftl_across (by omega)]
    dsimp only
    rw [UInt128.toNat_shiftl, UInt128.toNat_zero]

theorem toNat_shiftr (n : UInt256) (value : Nat) : (n.shiftr value).toNat = n.toNat / 2 ^ value := by
  unfold shiftr
  split
  · rename_i all
    have above : 2 ^ 256 ≤ 2 ^ value := Nat.pow_le_pow_right (by decide) all
    rw [Nat.div_eq_of_lt (Nat.lt_of_lt_of_le n.toNat_lt above), toNat_zero]
  rename_i some
  split
  · rename_i half
    rw [half, toNat, toNat, Halves.join_div n.lower.toNat_lt, UInt128.toNat_zero, Halves.join_zero]
  split
  · rename_i none
    rw [none, pow_zero, Nat.div_one]
  unfold toNat
  split
  · rename_i few
    rw [Halves.join_shiftr (Nat.le_of_lt few) n.lower.toNat_lt]
    dsimp only
    rw [UInt128.toNat_add, UInt128.toNat_shiftl, UInt128.toNat_shiftr, UInt128.toNat_shiftr, Nat.add_comm]
  · rename_i many
    rw [Halves.join_shiftr_across (by omega) n.lower.toNat_lt]
    dsimp only
    rw [UInt128.toNat_shiftr, UInt128.toNat_zero, Halves.join_zero]

theorem gt_iff (a b : UInt256) : a.gt b = true ↔ b.toNat < a.toNat := by
  unfold gt toNat
  rw [Halves.join_lt_join b.lower.toNat_lt a.lower.toNat_lt]
  split
  · rename_i same
    rw [same, UInt128.gt_iff]
    simp
  · rename_i other
    have apart : b.upper.toNat ≠ a.upper.toNat := fun same => other (UInt128.toNat_inj.mp same.symm)
    rw [UInt128.gt_iff]
    simp [apart]

theorem gte_iff (a b : UInt256) : a.gte b = true ↔ b.toNat ≤ a.toNat := by
  unfold gte
  rw [Bool.or_eq_true, gt_iff, decide_eq_true_eq, ← toNat_inj]
  omega

theorem toNat_minus_mod (a b : UInt256) : (a.minus b).toNat = (2 ^ 256 - b.toNat + a.toNat) % 2 ^ 256 := by
  have above : join 128 (a.upper.toNat + 2 ^ 128) a.lower.toNat = 2 ^ 256 + a.toNat := by
    unfold toNat join
    omega
  have small := b.toNat_lt
  have le : b.toNat ≤ join 128 (a.upper.toNat + 2 ^ 128) a.lower.toNat := by
    omega
  have bound := a.lower.toNat_lt
  have bound' := b.lower.toNat_lt
  have upper := a.upper.toNat_lt
  have upper' := b.upper.toNat_lt
  have borrows : (a.lower.minus b.lower).gt a.lower = true ↔ a.lower.toNat < b.lower.toNat := by
    rw [UInt128.gt_iff, UInt128.toNat_minus]
    omega
  have sub := Halves.join_sub bound bound' le
  have whole : 2 ^ 256 - b.toNat + a.toNat = join 128 (a.upper.toNat + 2 ^ 128) a.lower.toNat - b.toNat := by
    omega
  rw [whole]
  unfold toNat at sub ⊢
  rw [sub]
  unfold minus
  dsimp only
  by_cases borrow : a.lower.toNat < b.lower.toNat
  · rw [if_pos borrow, if_pos borrow, if_pos (borrows.mpr borrow), Halves.join_cut _ (by omega), UInt128.toNat_minus,
      UInt128.toNat_minus, UInt128.toNat_minus, UInt128.toNat_one]
    congr 1
    · omega
    · omega
  · rw [if_neg borrow, if_neg borrow, if_neg fun wraps => borrow (borrows.mp wraps), Halves.join_cut _ (by omega),
      UInt128.toNat_minus, UInt128.toNat_minus]
    congr 1
    · omega
    · omega

/-- A smaller number is subtracted as it is. -/
theorem toNat_minus {a b : UInt256} (le : b.toNat ≤ a.toNat) : (a.minus b).toNat = a.toNat - b.toNat := by
  have bound := a.toNat_lt
  rw [toNat_minus_mod]
  omega

theorem toNat_or (a b : UInt256) : (a.or b).toNat = a.toNat ||| b.toNat := by
  unfold or toNat
  rw [Halves.join_or a.lower.toNat_lt b.lower.toNat_lt, UInt128.toNat_or, UInt128.toNat_or]

theorem halfBits_eq (fuel : Nat) (half : UInt128) (small : half.toNat < 2 ^ fuel) :
    halfBits fuel half = half.toNat.size := by
  induction fuel generalizing half with
  | zero =>
    have zero : half.toNat = 0 := by omega
    rw [zero]
    rfl
  | succ fuel ih =>
    have shifted : (half.shiftr 1).toNat = half.toNat / 2 := by
      rw [UInt128.toNat_shiftr, pow_one]
    rw [halfBits]
    split
    · rename_i none
      rw [(half.isZero_iff).mp none]
      rfl
    · rename_i some
      have positive : 0 < half.toNat := Nat.pos_of_ne_zero fun zero => some ((half.isZero_iff).mpr zero)
      rw [ih _ (by rw [shifted, pow_succ] at *; omega), shifted, ← size_half positive]

theorem bits_eq (n : UInt256) : n.bits = n.toNat.size := by
  unfold bits toNat
  rw [Halves.join_size n.lower.toNat_lt]
  by_cases none : n.upper.toNat = 0
  · rw [if_neg (by simp [(n.upper.isZero_iff).mpr none]), if_pos none, halfBits_eq 128 _ n.lower.toNat_lt]
  · have some : n.upper.isZero = false :=
      Bool.eq_false_iff.mpr fun zero => none ((n.upper.isZero_iff).mp zero)
    rw [if_pos (by simp [some]), if_neg none, halfBits_eq 128 _ n.upper.toNat_lt]

section Division

/-- The loop of `divmod256` is the one of long division. -/
theorem divmodLoop_eq (r : UInt256) (fuel : Nat) (copyd adder resDiv resMod : UInt256) :
    let turn := divmodLoop r fuel copyd adder resDiv resMod
    (turn.1.toNat, turn.2.toNat) =
      LongDivision.loop r.toNat fuel copyd.toNat adder.toNat resDiv.toNat resMod.toNat := by
  induction fuel generalizing copyd adder resDiv resMod with
  | zero => rfl
  | succ fuel ih =>
    dsimp only at ih ⊢
    have halfCopyd : (copyd.shiftr 1).toNat = copyd.toNat / 2 := by
      rw [toNat_shiftr, pow_one]
    have halfAdder : (adder.shiftr 1).toNat = adder.toNat / 2 := by
      rw [toNat_shiftr, pow_one]
    rw [divmodLoop, LongDivision.loop]
    by_cases more : r.toNat ≤ resMod.toNat
    · rw [if_pos ((gte_iff _ _).mpr more), if_pos more]
      by_cases fits : copyd.toNat ≤ resMod.toNat
      · rw [if_pos ((gte_iff _ _).mpr fits), if_pos fits, ih, halfCopyd, halfAdder, toNat_or, toNat_minus fits]
      · rw [if_neg fun large => fits ((gte_iff _ _).mp large), if_neg fits, ih, halfCopyd, halfAdder]
    · rw [if_neg fun large => more ((gte_iff _ _).mp large), if_neg more]

/-- **`divmod256` gives quotient and remainder.** -/
theorem toNat_divmod (l r : UInt256) (positive : 0 < r.toNat) :
    ((l.divmod r).1.toNat, (l.divmod r).2.toNat) = (l.toNat / r.toNat, l.toNat % r.toNat) := by
  unfold divmod
  dsimp only
  by_cases small : l.toNat < r.toNat
  · rw [if_pos ((gt_iff _ _).mpr small), Nat.div_eq_of_lt small, Nat.mod_eq_of_lt small, toNat_zero]
  rw [if_neg fun large => small ((gt_iff _ _).mp large), bits_eq, bits_eq]
  have sizes : r.toNat.size ≤ l.toNat.size := Nat.size_le_size (Nat.le_of_not_lt small)
  have most : l.toNat.size ≤ 256 := Nat.size_le.mpr l.toNat_lt
  have some : 0 < r.toNat.size := Nat.size_pos.mpr positive
  have enough : l.toNat.size + 1 ≤ 257 := by omega
  have start := LongDivision.start_eq positive (Nat.le_of_not_lt small) enough
  generalize shift : l.toNat.size - r.toNat.size = k at start ⊢
  have room : r.toNat * 2 ^ k < 2 ^ 256 := by
    calc r.toNat * 2 ^ k < 2 ^ r.toNat.size * 2 ^ k :=
          Nat.mul_lt_mul_of_pos_right (Nat.lt_size_self _) (Nat.two_pow_pos k)
      _ = 2 ^ l.toNat.size := by
        rw [← pow_add]
        congr 1
        omega
      _ ≤ 2 ^ 256 := Nat.pow_le_pow_right (by decide) most
  have copyd : (r.shiftl k).toNat = r.toNat * 2 ^ k := by
    rw [toNat_shiftl, Nat.mod_eq_of_lt room]
  have adder : (one.shiftl k).toNat = 2 ^ k := by
    rw [toNat_shiftl, toNat_one, Nat.one_mul, Nat.mod_eq_of_lt (Nat.pow_lt_pow_right (by decide) (by omega))]
  rw [← start]
  by_cases large : l.toNat < r.toNat * 2 ^ k
  · have above : (r.shiftl k).gt l = true := (gt_iff _ _).mpr (by rw [copyd]; exact large)
    rw [if_pos above, if_pos large, divmodLoop_eq, toNat_shiftr, toNat_shiftr, copyd, adder, pow_one, toNat_zero]
  · have under : ¬(r.shiftl k).gt l = true := fun above => large (by rw [← copyd]; exact (gt_iff _ _).mp above)
    rw [if_neg under, if_neg large, divmodLoop_eq, copyd, adder, toNat_zero]

end Division

section Text

theorem hexDigits_digit : ∀ d < 16, hexDigits.getD (d % 256) 0 = UInt8.ofNat (Nat.digitChar d).toNat := by
  decide

/-- The number that `tostring256` divides by. -/
theorem base_toNat {baseParam : Nat} (few : baseParam ≤ 16) :
    (⟨.zero, ⟨0, UInt64.ofNat baseParam⟩⟩ : UInt256).toNat = baseParam := by
  have limb : (UInt64.ofNat baseParam).toNat = baseParam := UInt64.toNat_ofNat_of_lt' (Nat.lt_of_le_of_lt few (by decide))
  simp [toNat, join, UInt128.toNat, UInt128.zero, limb]

theorem lower_toNat {n : UInt256} (small : n.toNat < 2 ^ 64) : n.lower.lower.toNat = n.toNat := by
  have low : n.toNat % 2 ^ 128 = n.lower.toNat := Halves.join_mod n.lower.toNat_lt
  have limb : n.lower.toNat % 2 ^ 64 = n.lower.lower.toNat := Halves.join_mod n.lower.lower.toNat_lt
  omega

section Base

variable {base : UInt256} (many : 2 ≤ base.toNat) (few : base.toNat ≤ 16)
include many few

/-- The character of a remainder. -/
theorem digit_of_rest {rest : UInt256} {n : Nat} (rest_eq : rest.toNat = n % base.toNat) :
    hexDigits.getD (rest.lower.lower.toNat % 256) 0 = UInt8.ofNat (Nat.digitChar (n % base.toNat)).toNat := by
  have digit := Nat.mod_lt n (Nat.lt_of_lt_of_le Nat.two_pos many)
  rw [lower_toNat (by omega), rest_eq, hexDigits_digit _ (by omega)]

/-- One turn of the loop of `tostring256`. -/
theorem tostringLoop_step (n : UInt256) {outLength fuel : Nat} {out : Bytes} (room : out.length < outLength) :
    tostringLoop base outLength (fuel + 1) n out =
      if n.toNat < base.toNat then (true, UInt8.ofNat (Nat.digitChar (n.toNat % base.toNat)).toNat :: out)
      else tostringLoop base outLength fuel (n.divmod base).1
        (UInt8.ofNat (Nat.digitChar (n.toNat % base.toNat)).toNat :: out) := by
  have divides := toNat_divmod n base (by omega)
  rw [Prod.mk.injEq] at divides
  obtain ⟨quotient, rest⟩ := divides
  rw [tostringLoop, if_neg (by omega)]
  generalize n.divmod base = parts at quotient rest ⊢
  obtain ⟨q, m⟩ := parts
  dsimp only at quotient rest ⊢
  have zero_iff : q.isZero = true ↔ n.toNat < base.toNat := by
    rw [isZero_iff, quotient, Nat.div_eq_zero_iff]
    omega
  rw [digit_of_rest many few rest]
  by_cases last : n.toNat < base.toNat
  · rw [if_pos (zero_iff.mpr last), if_pos last]
  · rw [if_neg (fun zero => last (zero_iff.mp zero)), if_neg last]

theorem tostringLoop_fits (n : UInt256) {outLength fuel : Nat} {out : Bytes}
    (enough : (numeral base.toNat n.toNat).length ≤ fuel)
    (room : (numeral base.toNat n.toNat).length + out.length ≤ outLength) :
    tostringLoop base outLength fuel n out = (true, numeral base.toNat n.toNat ++ out) := by
  induction fuel generalizing n out with
  | zero =>
    rw [numeral_split many] at enough
    simp at enough
  | succ fuel ih =>
    rw [numeral_split many] at enough room ⊢
    rw [List.length_append, List.length_singleton] at enough room
    rw [tostringLoop_step many few n (by omega)]
    split
    · rfl
    · rename_i more
      rw [if_neg more] at enough room
      have divides := toNat_divmod n base (by omega)
      rw [Prod.mk.injEq] at divides
      rw [ih _ (by rw [divides.1]; omega) (by rw [divides.1, List.length_cons]; omega), divides.1, List.append_assoc,
        List.singleton_append]

omit many few in
/-- Nothing more is written to a full text. -/
theorem tostringLoop_full (base n : UInt256) {outLength : Nat} (fuel : Nat) {out : Bytes} (positive : 0 < outLength)
    (full : out.length = outLength) : tostringLoop base outLength fuel n out = (false, out.reverse) := by
  cases fuel with
  | zero => rfl
  | succ fuel => rw [tostringLoop, if_pos (by omega)]

theorem tostringLoop_long (n : UInt256) {outLength fuel : Nat} {out : Bytes} (below : out.length ≤ outLength)
    (positive : 0 < outLength) (enough : (numeral base.toNat n.toNat).length ≤ fuel)
    (long : outLength < (numeral base.toNat n.toNat).length + out.length) :
    (tostringLoop base outLength fuel n out).1 = false ∧
      (tostringLoop base outLength fuel n out).2.length = outLength := by
  induction fuel generalizing n out with
  | zero =>
    rw [numeral_split many] at enough
    simp at enough
  | succ fuel ih =>
    rcases Nat.lt_or_eq_of_le below with room | full
    · rw [numeral_split many] at enough long
      rw [List.length_append, List.length_singleton] at enough long
      rw [tostringLoop_step many few n room]
      split
      · rename_i last
        rw [if_pos last, List.length_nil] at long
        omega
      · rename_i more
        rw [if_neg more] at enough long
        have divides := toNat_divmod n base (by omega)
        rw [Prod.mk.injEq] at divides
        refine ih _ (by rw [List.length_cons]; omega) (by rw [divides.1]; omega) ?_
        rw [divides.1, List.length_cons]
        omega
    · rw [tostringLoop_full _ _ _ positive full]
      exact ⟨rfl, by rw [List.length_reverse, full]⟩

omit few in
/-- No number has more digits than bits. -/
theorem numeral_length (n : UInt256) : (numeral base.toNat n.toNat).length ≤ 256 :=
  (numeral_length_le many (by decide)).mpr (Nat.lt_of_lt_of_le n.toNat_lt (Nat.pow_le_pow_left many 256))

end Base

section Verdict

variable {baseParam : Nat} (many : 2 ≤ baseParam) (few : baseParam ≤ 16)
include many few

/-- The loop divides by the base. -/
theorem tostring_eq (n : UInt256) (outLength : Nat) :
    ∃ base : UInt256, base.toNat = baseParam ∧ n.tostring baseParam outLength = tostringLoop base outLength 257 n [] :=
  ⟨_, base_toNat few, if_neg (not_or.mpr ⟨Nat.not_lt_of_le many, Nat.not_lt_of_le few⟩)⟩

theorem tostring_numeral (n : UInt256) {outLength : Nat} (fits : (numeral baseParam n.toNat).length ≤ outLength) :
    n.tostring baseParam outLength = (true, numeral baseParam n.toNat) := by
  obtain ⟨base, rfl, text⟩ := tostring_eq many few n outLength
  have enough : (numeral base.toNat n.toNat).length ≤ 257 := (numeral_length many n).trans (by decide)
  have room : (numeral base.toNat n.toNat).length + ([] : Bytes).length ≤ outLength := by simpa using fits
  rw [text, tostringLoop_fits many few n enough room, List.append_nil]

/-- The digits of a larger one fill the text. -/
theorem tostring_full (n : UInt256) {outLength : Nat} (positive : 0 < outLength)
    (long : outLength < (numeral baseParam n.toNat).length) :
    (n.tostring baseParam outLength).1 = false ∧ (n.tostring baseParam outLength).2.length = outLength := by
  obtain ⟨base, rfl, text⟩ := tostring_eq many few n outLength
  have enough : (numeral base.toNat n.toNat).length ≤ 257 := (numeral_length many n).trans (by decide)
  have more : outLength < (numeral base.toNat n.toNat).length + ([] : Bytes).length := by simpa using long
  rw [text]
  exact tostringLoop_long many few n (Nat.zero_le _) positive enough more

end Verdict

theorem decimal_length (n : UInt256) : (decimal n.toNat).length ≤ 78 := by
  have bound := n.toNat_lt
  have power : 2 ^ 256 < 10 ^ 78 := by decide
  exact (decimal_length_le (by decide)).mpr (Nat.lt_trans bound power)

/-- **A number whose digits fit is written in base ten.** -/
theorem tostring_fits (n : UInt256) {outLength : Nat} (fits : (decimal n.toNat).length ≤ outLength) :
    n.tostring 10 outLength = (true, decimal n.toNat) := by
  rw [decimal_numeral] at fits ⊢
  exact tostring_numeral (by decide) (by decide) n fits

theorem tostring_long (n : UInt256) {outLength : Nat} (positive : 0 < outLength)
    (long : outLength < (decimal n.toNat).length) :
    (n.tostring 10 outLength).1 = false ∧ (n.tostring 10 outLength).2.length = outLength := by
  rw [decimal_numeral] at long
  exact tostring_full (by decide) (by decide) n positive long

end Text

end UInt256

section Bytes

theorem readUint64BE_toNat {buffer : Bytes} (short : buffer.length ≤ 8) :
    (readUint64BE buffer).toNat = beNat buffer := by
  induction buffer using List.reverseRecOn with
  | nil => rfl
  | append_singleton bs b ih =>
    rw [List.length_append, List.length_singleton] at short
    have value := ih (by omega)
    have small : beNat bs < 256 ^ 7 := Nat.lt_of_lt_of_le (beNat_lt bs) (Nat.pow_le_pow_right (by decide) (by omega))
    have byte := b.toNat_lt
    have shifted : (readUint64BE bs <<< 8).toNat = 2 ^ 8 * beNat bs := by
      rw [UInt64.toNat_shiftLeft, value, Nat.shiftLeft_eq]
      have eight : 2 ^ ((8 : UInt64).toNat % 64) = 2 ^ 8 := rfl
      rw [eight, Nat.mod_eq_of_lt (by omega), Nat.mul_comm]
    rw [beNat_snoc, readUint64BE, List.foldl_append, List.foldl_cons, List.foldl_nil, UInt64.toNat_or]
    change ((readUint64BE bs <<< 8).toNat ||| b.toUInt64.toNat) = _
    rw [shifted, UInt8.toNat_toUInt64, ← Nat.two_pow_add_eq_or_of_lt byte]
    omega

theorem readu128BE_toNat {buffer : Bytes} (size : buffer.length = 16) :
    (readu128BE buffer).toNat = beNat buffer := by
  have upper : (buffer.take 8).length = 8 := by simp [size]
  have lower : ((buffer.drop 8).take 8).length = 8 := by simp [size]
  have parts : beNat buffer = beNat (buffer.take 8) * 256 ^ 8 + beNat ((buffer.drop 8).take 8) := by
    have rest : (buffer.drop 8).take 8 = buffer.drop 8 := List.take_of_length_le (by simp [size])
    have tail : (buffer.drop 8).length = 8 := by simp [size]
    conv_lhs => rw [← List.take_append_drop 8 buffer, beNat_append, tail]
    rw [rest]
  rw [parts, UInt128.toNat, readu128BE, readUint64BE_toNat (by omega), readUint64BE_toNat (by omega)]
  rfl

theorem readu256BE_toNat {buffer : Bytes} (size : buffer.length = 32) :
    (readu256BE buffer).toNat = beNat buffer := by
  have upper : (buffer.take 16).length = 16 := by simp [size]
  have lower : (buffer.drop 16).length = 16 := by simp [size]
  conv_rhs => rw [← List.take_append_drop 16 buffer, beNat_append, lower]
  rw [UInt256.toNat, readu256BE, readu128BE_toNat upper, readu128BE_toNat lower]
  rfl

/-- **At most 32 bytes are converted to their number.** -/
theorem convertUint256BE_toNat {data : Bytes} (short : data.length ≤ 32) :
    (convertUint256BE data).toNat = beNat data := by
  have padded : overwrite (List.replicate 32 0) (32 - data.length) data =
      List.replicate (32 - data.length) 0 ++ data := by
    rw [overwrite_eq _ _ _ (by rw [List.length_replicate]; omega), Nat.sub_add_cancel short, List.take_replicate,
      Nat.min_eq_left (by omega), List.drop_of_length_le (by rw [List.length_replicate]), List.append_nil]
  have zeros (n : Nat) : beNat (List.replicate n 0) = 0 := by
    induction n with
    | zero => rfl
    | succ n ih =>
      rw [List.replicate_succ', beNat_snoc, ih]
      rfl
  rw [convertUint256BE, padded, readu256BE_toNat (by simp [Nat.sub_add_cancel short]), beNat_append, zeros, Nat.zero_mul,
    Nat.zero_add]

end Bytes

end TronLedger
