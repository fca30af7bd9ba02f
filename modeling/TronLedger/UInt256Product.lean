import TronLedger.UInt256Value
import TronLedger.Lib.Columns

/-!
# Products of limbs

`mul128` and `mul256` multiply in columns: four words of half the limb's width, and four limbs. Both
operands are read before the target is written.

* `UInt128.toNat_mul`: the product is cut to 128 bits.
* `UInt256.toNat_mul`: what `mul256` leaves, the carry of its second column put a limb too high.
* `product_exact_iff` says when that is the product.
-/

namespace TronLedger

open Columns
open Halves (join)

namespace UInt128

def lowMask : UInt64 := 0xffffffff

/-- The arrays `top` and `bottom` of `mul128`. -/
def words (n : UInt128) : Nat → UInt64
  | 0 => n.upper >>> 32
  | 1 => n.upper &&& lowMask
  | 2 => n.lower >>> 32
  | _ => n.lower &&& lowMask

/-- `products[x][y]`, as the loops of `mul128` fill it. -/
def products (top bottom : Nat → UInt64) (x y : Nat) : UInt64 := top (3 - x) * bottom y

/-- `mul128` -/
def mul (number1 number2 : UInt128) : UInt128 :=
  let products := products number1.words number2.words
  let fourth32 := products 0 3 &&& lowMask
  let third32 := (products 0 2 &&& lowMask) + (products 0 3 >>> 32)
  let second32 := (products 0 1 &&& lowMask) + (products 0 2 >>> 32)
  let first32 := (products 0 0 &&& lowMask) + (products 0 1 >>> 32)
  let third32 := third32 + (products 1 3 &&& lowMask)
  let second32 := second32 + ((products 1 2 &&& lowMask) + (products 1 3 >>> 32))
  let first32 := first32 + ((products 1 1 &&& lowMask) + (products 1 2 >>> 32))
  let second32 := second32 + (products 2 3 &&& lowMask)
  let first32 := first32 + ((products 2 2 &&& lowMask) + (products 2 3 >>> 32))
  let first32 := first32 + (products 3 3 &&& lowMask)
  let target := add ⟨first32 <<< 32, 0⟩ ⟨third32 >>> 32, third32 <<< 32⟩
  let tmp2 := add ⟨second32, 0⟩ target
  add ⟨0, fourth32⟩ tmp2

theorem toNat_low (limb : UInt64) : (limb &&& lowMask).toNat = limb.toNat % 2 ^ 32 := by
  rw [UInt64.toNat_and]
  exact Nat.and_two_pow_sub_one_eq_mod _ 32

theorem toNat_high (limb : UInt64) : (limb >>> 32).toNat = limb.toNat / 2 ^ 32 := by
  rw [UInt64.toNat_shiftRight, Nat.shiftRight_eq_div_pow]
  rfl

theorem words_toNat (n : UInt128) {x : Nat} (inside : x ≤ 3) :
    (n.words x).toNat = digit (2 ^ 32) n.toNat (3 - x) := by
  have upper := n.upper.toNat_lt
  have lower := n.lower.toNat_lt
  unfold digit toNat join
  rcases (by omega : x = 0 ∨ x = 1 ∨ x = 2 ∨ x = 3) with rfl | rfl | rfl | rfl
  · rw [words, toNat_high]
    omega
  · rw [words, toNat_low]
    omega
  · rw [words, toNat_high]
    omega
  · have last : n.words 3 = n.lower &&& lowMask := rfl
    rw [last, toNat_low]
    omega

section Parts

variable (a b : UInt128) {x y : Nat}

/-- A product of two words fits a limb. -/
theorem toNat_products (insideX : x ≤ 3) (insideY : y ≤ 3) :
    (products a.words b.words x y).toNat = digit (2 ^ 32) a.toNat x * digit (2 ^ 32) b.toNat (3 - y) := by
  have left := digit_lt (Nat.two_pow_pos 32) a.toNat x
  have right := digit_lt (Nat.two_pow_pos 32) b.toNat (3 - y)
  have small : digit (2 ^ 32) a.toNat x * digit (2 ^ 32) b.toNat (3 - y) < 2 ^ 32 * 2 ^ 32 :=
    Nat.mul_lt_mul_of_lt_of_le left (Nat.le_of_lt right) (by decide)
  rw [products, UInt64.toNat_mul, words_toNat a (Nat.sub_le 3 x), words_toNat b insideY, Nat.sub_sub_self insideX]
  exact Nat.mod_eq_of_lt small

theorem toNat_products_low (insideX : x ≤ 3) (insideY : y ≤ 3) :
    (products a.words b.words x y &&& lowMask).toNat =
      low (2 ^ 32) (digit (2 ^ 32) a.toNat) (digit (2 ^ 32) b.toNat) x (3 - y) := by
  rw [toNat_low, toNat_products a b insideX insideY]
  rfl

theorem toNat_products_high (insideX : x ≤ 3) (insideY : y ≤ 3) :
    (products a.words b.words x y >>> 32).toNat =
      high (2 ^ 32) (digit (2 ^ 32) a.toNat) (digit (2 ^ 32) b.toNat) x (3 - y) := by
  rw [toNat_high, toNat_products a b insideX insideY]
  rfl

end Parts

/-- The sum of the shifted columns. -/
theorem toNat_columns (fourth third second first : UInt64) :
    (add ⟨0, fourth⟩ (add ⟨second, 0⟩ (add ⟨first <<< 32, 0⟩ ⟨third >>> 32, third <<< 32⟩))).toNat =
      number (2 ^ 32) fourth.toNat third.toNat second.toNat first.toNat % 2 ^ 128 := by
  have shift (limb : UInt64) : (limb <<< 32).toNat = limb.toNat * 2 ^ 32 % 2 ^ 64 := by
    rw [UInt64.toNat_shiftLeft, Nat.shiftLeft_eq]
    rfl
  rw [toNat_add, toNat_add, toNat_add]
  unfold toNat join number
  dsimp only
  rw [shift, shift, toNat_high, UInt64.toNat_zero]
  omega

/-- **`mul128` multiplies modulo 2^128.** -/
theorem toNat_mul (a b : UInt128) : (a.mul b).toNat = a.toNat * b.toNat % 2 ^ 128 := by
  have product := product_mod (2 ^ 32) (digit (2 ^ 32) a.toNat) (digit (2 ^ 32) b.toNat)
  rw [number_digits a.toNat_lt, number_digits b.toNat_lt] at product
  have lows (i j : Nat) := low_lt (a := digit (2 ^ 32) a.toNat) (b := digit (2 ^ 32) b.toNat) (Nat.two_pow_pos 32) i j
  have highs (i j : Nat) := high_lt (digit_lt (Nat.two_pow_pos 32) a.toNat) (digit_lt (Nat.two_pow_pos 32) b.toNat) i j
  unfold mul
  dsimp only
  rw [toNat_columns]
  simp (disch := decide) only [UInt64.toNat_add, toNat_products_low, toNat_products_high, Nat.reduceSub]
  refine (congrArg (· % 2 ^ 128) ?_).trans product.symm
  generalize digit (2 ^ 32) a.toNat = f at lows highs ⊢
  generalize digit (2 ^ 32) b.toNat = g at lows highs ⊢
  -- no column overflows its limb
  have second : column1 (2 ^ 32) f g < 2 ^ 64 := by
    have := lows 0 1
    have := highs 0 0
    have := lows 1 0
    unfold column1
    omega
  have third : column2 (2 ^ 32) f g < 2 ^ 64 := by
    have := lows 0 2
    have := highs 0 1
    have := lows 1 1
    have := highs 1 0
    have := lows 2 0
    unfold column2
    omega
  have fourth : column3 (2 ^ 32) f g < 2 ^ 64 := by
    have := lows 0 3
    have := highs 0 2
    have := lows 1 2
    have := highs 1 1
    have := lows 2 1
    have := highs 2 0
    have := lows 3 0
    unfold column3
    omega
  simp only [Nat.mod_add_mod, Nat.add_mod_mod]
  congr 1
  · rw [← Nat.mod_eq_of_lt second]
    rfl
  · rw [← Nat.mod_eq_of_lt third]
    unfold column2
    congr 1
    omega
  · rw [← Nat.mod_eq_of_lt fourth]
    unfold column3
    congr 1
    omega

end UInt128

namespace UInt256

/-- The arrays `top` and `bottom` of `mul256`. -/
def limbs (n : UInt256) : Nat → UInt128
  | 0 => ⟨0, n.upper.upper⟩
  | 1 => ⟨0, n.upper.lower⟩
  | 2 => ⟨0, n.lower.upper⟩
  | _ => ⟨0, n.lower.lower⟩

/-- `products[x][y]`, as the loops of `mul256` fill it. -/
def products (top bottom : Nat → UInt128) (x y : Nat) : UInt128 := (top (3 - x)).mul (bottom y)

/-- The parts of a product, in numbers of their own. -/
def lowLimb (n : UInt128) : UInt128 := ⟨0, n.lower⟩
def highLimb (n : UInt128) : UInt128 := ⟨0, n.upper⟩

/-- `mul256` -/
def mul (number1 number2 : UInt256) : UInt256 :=
  let products := products number1.limbs number2.limbs
  let fourth64 := lowLimb (products 0 3)
  let third64 := (lowLimb (products 0 2)).add (highLimb (products 0 3))
  let second64 := (lowLimb (products 0 1)).add (highLimb (products 0 2))
  let first64 := (lowLimb (products 0 0)).add (highLimb (products 0 1))
  let third64 := (lowLimb (products 1 3)).add third64
  let second64 := (highLimb (products 1 3)).add ((lowLimb (products 1 2)).add second64)
  let first64 := (highLimb (products 1 2)).add ((lowLimb (products 1 1)).add first64)
  let second64 := (lowLimb (products 2 3)).add second64
  let first64 := (highLimb (products 2 3)).add ((lowLimb (products 2 2)).add first64)
  let first64 := (lowLimb (products 3 3)).add first64
  let target1 : UInt256 := ⟨first64.shiftl 64, .zero⟩
  -- `UPPER(UPPER(target2))`, where the lower limb of that half has the weight of the carry
  let target2 : UInt256 := ⟨⟨third64.upper, 0⟩, third64.shiftl 64⟩
  let target := target1.add target2
  let target2 := add ⟨second64, .zero⟩ target
  add ⟨.zero, fourth64⟩ target2

theorem toNat_add (a b : UInt256) : (a.add b).toNat = (a.toNat + b.toNat) % 2 ^ 256 := by
  have bound := a.lower.toNat_lt
  have bound' := b.lower.toNat_lt
  unfold add toNat
  rw [Halves.join_add bound bound']
  have carries : a.lower.gt (a.lower.add b.lower) = true ↔ 2 ^ 128 ≤ a.lower.toNat + b.lower.toNat := by
    rw [UInt128.gt_iff, UInt128.toNat_add]
    omega
  dsimp only
  by_cases carry : 2 ^ 128 ≤ a.lower.toNat + b.lower.toNat
  · rw [if_pos carry, if_pos (carries.mpr carry), UInt128.toNat_add, UInt128.toNat_add, UInt128.toNat_add,
      UInt128.toNat_one, Nat.mod_add_mod]
  · rw [if_neg carry, if_neg fun wraps => carry (carries.mp wraps), UInt128.toNat_add, UInt128.toNat_add, Nat.add_zero]

theorem limbs_toNat (n : UInt256) {x : Nat} (inside : x ≤ 3) :
    (n.limbs x).toNat = digit (2 ^ 64) n.toNat (3 - x) := by
  have upper := n.upper.upper.toNat_lt
  have upper' := n.upper.lower.toNat_lt
  have lower := n.lower.upper.toNat_lt
  have lower' := n.lower.lower.toNat_lt
  have limb (l : UInt64) : (⟨0, l⟩ : UInt128).toNat = l.toNat := Halves.join_zero _ _
  rcases (by omega : x = 0 ∨ x = 1 ∨ x = 2 ∨ x = 3) with rfl | rfl | rfl | rfl
  · have top : n.limbs 0 = ⟨0, n.upper.upper⟩ := rfl
    rw [top, limb]
    unfold digit toNat UInt128.toNat join
    omega
  · have top : n.limbs 1 = ⟨0, n.upper.lower⟩ := rfl
    rw [top, limb]
    unfold digit toNat UInt128.toNat join
    omega
  · have top : n.limbs 2 = ⟨0, n.lower.upper⟩ := rfl
    rw [top, limb]
    unfold digit toNat UInt128.toNat join
    omega
  · have top : n.limbs 3 = ⟨0, n.lower.lower⟩ := rfl
    rw [top, limb]
    unfold digit toNat UInt128.toNat join
    omega

section Parts

variable (a b : UInt256) {x y : Nat}

theorem toNat_products (insideX : x ≤ 3) (insideY : y ≤ 3) :
    (products a.limbs b.limbs x y).toNat = digit (2 ^ 64) a.toNat x * digit (2 ^ 64) b.toNat (3 - y) := by
  have left := digit_lt (Nat.two_pow_pos 64) a.toNat x
  have right := digit_lt (Nat.two_pow_pos 64) b.toNat (3 - y)
  have small : digit (2 ^ 64) a.toNat x * digit (2 ^ 64) b.toNat (3 - y) < 2 ^ 64 * 2 ^ 64 :=
    Nat.mul_lt_mul_of_lt_of_le left (Nat.le_of_lt right) (by decide)
  rw [products, UInt128.toNat_mul, limbs_toNat a (Nat.sub_le 3 x), limbs_toNat b insideY, Nat.sub_sub_self insideX]
  exact Nat.mod_eq_of_lt small

theorem toNat_products_low (insideX : x ≤ 3) (insideY : y ≤ 3) :
    (lowLimb (products a.limbs b.limbs x y)).toNat =
      low (2 ^ 64) (digit (2 ^ 64) a.toNat) (digit (2 ^ 64) b.toNat) x (3 - y) := by
  have limb (n : UInt128) : (lowLimb n).toNat = n.toNat % 2 ^ 64 :=
    (Halves.join_zero _ _).trans (Halves.join_mod n.lower.toNat_lt).symm
  rw [limb, toNat_products a b insideX insideY]
  rfl

theorem toNat_products_high (insideX : x ≤ 3) (insideY : y ≤ 3) :
    (highLimb (products a.limbs b.limbs x y)).toNat =
      high (2 ^ 64) (digit (2 ^ 64) a.toNat) (digit (2 ^ 64) b.toNat) x (3 - y) := by
  have limb (n : UInt128) : (highLimb n).toNat = n.toNat / 2 ^ 64 :=
    (Halves.join_zero _ _).trans (Halves.join_div n.lower.toNat_lt).symm
  rw [limb, toNat_products a b insideX insideY]
  rfl

end Parts

/-- The sum of the shifted columns, where the carry of the second one counts 2^64 times too much. -/
theorem toNat_columns (fourth third second first : UInt128) :
    (add ⟨.zero, fourth⟩ (add ⟨second, .zero⟩ (add ⟨first.shiftl 64, .zero⟩
      ⟨⟨third.upper, 0⟩, third.shiftl 64⟩))).toNat =
      (number (2 ^ 64) fourth.toNat third.toNat second.toNat first.toNat +
        third.toNat / 2 ^ 64 * (2 ^ 192 - 2 ^ 128)) % 2 ^ 256 := by
  have carry : third.upper.toNat = third.toNat / 2 ^ 64 := (Halves.join_div third.lower.toNat_lt).symm
  have high : (⟨third.upper, 0⟩ : UInt128).toNat = third.toNat / 2 ^ 64 * 2 ^ 64 := by
    rw [← carry]
    exact Nat.add_zero _
  have whole (hi lo : UInt128) : (⟨hi, lo⟩ : UInt256).toNat = hi.toNat * 2 ^ 128 + lo.toNat := rfl
  have bound := third.toNat_lt
  rw [toNat_add, toNat_add, toNat_add, whole, whole, whole, whole, high, UInt128.toNat_shiftl, UInt128.toNat_shiftl,
    UInt128.toNat_zero]
  unfold number
  generalize third.toNat = t at bound ⊢
  generalize first.toNat = f
  omega

/-- **`mul256` multiplies modulo 2^256, but for the carry of its second column.** -/
theorem toNat_mul (a b : UInt256) :
    (a.mul b).toNat = (a.toNat * b.toNat +
      column1 (2 ^ 64) (digit (2 ^ 64) a.toNat) (digit (2 ^ 64) b.toNat) / 2 ^ 64 * (2 ^ 192 - 2 ^ 128)) % 2 ^ 256 := by
  have product := product_mod (2 ^ 64) (digit (2 ^ 64) a.toNat) (digit (2 ^ 64) b.toNat)
  rw [number_digits a.toNat_lt, number_digits b.toNat_lt] at product
  have whole : ((2 : Nat) ^ 64) ^ 4 = 2 ^ 256 := by decide
  rw [whole] at product
  have lows (i j : Nat) := low_lt (a := digit (2 ^ 64) a.toNat) (b := digit (2 ^ 64) b.toNat) (Nat.two_pow_pos 64) i j
  have highs (i j : Nat) := high_lt (digit_lt (Nat.two_pow_pos 64) a.toNat) (digit_lt (Nat.two_pow_pos 64) b.toNat) i j
  unfold mul
  dsimp only
  rw [toNat_columns]
  simp (disch := decide) only [UInt128.toNat_add, toNat_products_low, toNat_products_high, Nat.reduceSub]
  rw [Nat.add_mod (a.toNat * b.toNat), product, ← Nat.add_mod]
  generalize digit (2 ^ 64) a.toNat = f at lows highs ⊢
  generalize digit (2 ^ 64) b.toNat = g at lows highs ⊢
  -- no column overflows its two limbs
  have second : column1 (2 ^ 64) f g < 2 ^ 128 := by
    have := lows 0 1
    have := highs 0 0
    have := lows 1 0
    unfold column1
    omega
  have third : column2 (2 ^ 64) f g < 2 ^ 128 := by
    have := lows 0 2
    have := highs 0 1
    have := lows 1 1
    have := highs 1 0
    have := lows 2 0
    unfold column2
    omega
  have fourth : column3 (2 ^ 64) f g < 2 ^ 128 := by
    have := lows 0 3
    have := highs 0 2
    have := lows 1 2
    have := highs 1 1
    have := lows 2 1
    have := highs 2 0
    have := lows 3 0
    unfold column3
    omega
  simp only [Nat.add_mod_mod]
  have second_eq : (low (2 ^ 64) f g 1 0 + (low (2 ^ 64) f g 0 1 + high (2 ^ 64) f g 0 0)) % 2 ^ 128 =
      column1 (2 ^ 64) f g := by
    rw [← Nat.mod_eq_of_lt second]
    unfold column1
    congr 1
    omega
  rw [second_eq]
  refine congrArg (fun n => (n + column1 (2 ^ 64) f g / 2 ^ 64 * (2 ^ 192 - 2 ^ 128)) % 2 ^ 256) ?_
  congr 1
  · rw [← Nat.mod_eq_of_lt third]
    unfold column2
    congr 1
    omega
  · rw [← Nat.mod_eq_of_lt fourth]
    unfold column3
    congr 1
    omega

/-- The second column of the product of two numbers fits a limb. -/
def SecondColumnFits (a b : UInt256) : Prop :=
  a.lower.lower.toNat * b.lower.upper.toNat % 2 ^ 64 + a.lower.lower.toNat * b.lower.lower.toNat / 2 ^ 64 +
    a.lower.upper.toNat * b.lower.lower.toNat % 2 ^ 64 < 2 ^ 64

theorem secondColumnFits_iff (a b : UInt256) :
    SecondColumnFits a b ↔ column1 (2 ^ 64) (digit (2 ^ 64) a.toNat) (digit (2 ^ 64) b.toNat) < 2 ^ 64 := by
  have limb (l : UInt64) : (⟨0, l⟩ : UInt128).toNat = l.toNat := Halves.join_zero _ _
  have last (n : UInt256) : digit (2 ^ 64) n.toNat 0 = n.lower.lower.toNat :=
    (limbs_toNat n (le_refl 3)).symm.trans (limb _)
  have next (n : UInt256) : digit (2 ^ 64) n.toNat 1 = n.lower.upper.toNat :=
    (limbs_toNat n (x := 2) (by decide)).symm.trans (limb _)
  unfold SecondColumnFits column1 low high
  rw [last, last, next, next]

theorem mul_exact_iff (a b : UInt256) :
    (a.mul b).toNat = a.toNat * b.toNat % 2 ^ 256 ↔ SecondColumnFits a b := by
  rw [toNat_mul, secondColumnFits_iff]
  have bound : column1 (2 ^ 64) (digit (2 ^ 64) a.toNat) (digit (2 ^ 64) b.toNat) < 2 ^ 66 := by
    have := low_lt (a := digit (2 ^ 64) a.toNat) (b := digit (2 ^ 64) b.toNat) (Nat.two_pow_pos 64) 0 1
    have := low_lt (a := digit (2 ^ 64) a.toNat) (b := digit (2 ^ 64) b.toNat) (Nat.two_pow_pos 64) 1 0
    have := high_lt (digit_lt (Nat.two_pow_pos 64) a.toNat) (digit_lt (Nat.two_pow_pos 64) b.toNat) 0 0
    unfold column1
    omega
  have positive : (2 : Nat) ^ 192 - 2 ^ 128 ≠ 0 := by decide
  have room : 3 * ((2 : Nat) ^ 192 - 2 ^ 128) < 2 ^ 256 := by decide
  generalize column1 (2 ^ 64) (digit (2 ^ 64) a.toNat) (digit (2 ^ 64) b.toNat) = column at bound ⊢
  generalize (2 : Nat) ^ 192 - 2 ^ 128 = weight at positive room ⊢
  generalize a.toNat * b.toNat = n
  constructor
  · intro exact'
    by_contra large
    -- at most three carries, each of them so much too much
    have few : column / 2 ^ 64 ≤ 3 := by omega
    have some : column / 2 ^ 64 ≠ 0 := by omega
    generalize column / 2 ^ 64 = carries at few some exact'
    have excess := Nat.sub_mod_eq_zero_of_mod_eq exact'
    have small : carries * weight < 2 ^ 256 := Nat.lt_of_le_of_lt (Nat.mul_le_mul_right _ few) room
    rw [Nat.add_sub_cancel_left, Nat.mod_eq_of_lt small, Nat.mul_eq_zero] at excess
    exact excess.elim some positive
  · intro small
    rw [Nat.div_eq_of_lt small, Nat.zero_mul, Nat.add_zero]

end UInt256

/-- **Multiplication is one modulo the width, exactly where no carry is misplaced.** -/
theorem product_exact_iff (a b : UInt128) (c d : UInt256) :
    (a.mul b).toNat = a.toNat * b.toNat % 2 ^ 128 ∧
      ((c.mul d).toNat = c.toNat * d.toNat % 2 ^ 256 ↔ UInt256.SecondColumnFits c d) :=
  ⟨UInt128.toNat_mul a b, UInt256.mul_exact_iff c d⟩

def lowHalfFull : UInt256 := ⟨.zero, ⟨0xffffffffffffffff, 0xffffffffffffffff⟩⟩

/-- The square of 2^128 - 1. -/
theorem product_misplaced :
    (lowHalfFull.mul lowHalfFull).toNat ≠ lowHalfFull.toNat * lowHalfFull.toNat % 2 ^ 256 := by
  intro same
  have fits := (UInt256.mul_exact_iff _ _).mp same
  unfold UInt256.SecondColumnFits lowHalfFull at fits
  exact absurd fits (by decide)

end TronLedger
