import Mathlib.Tactic.Ring

/-!
# Multiplication in columns

Two numbers of four digits, multiplied digit by digit. Every product of digits has a low and a high
part; a column of the result adds up the parts of its weight. What is left out of the four columns is
a multiple of the fourth power of the base.
-/

namespace TronLedger.Columns

/-- The number with the given digits, the last one first. -/
def number (base d0 d1 d2 d3 : Nat) : Nat := d0 + d1 * base + d2 * base ^ 2 + d3 * base ^ 3

/-- Digit `i` of a number. -/
def digit (base n i : Nat) : Nat := n / base ^ i % base

theorem digit_lt {base : Nat} (positive : 0 < base) (n i : Nat) : digit base n i < base := Nat.mod_lt _ positive

/-- A number of four digits is the one with its digits. -/
theorem number_digits {base n : Nat} (small : n < base ^ 4) :
    number base (digit base n 0) (digit base n 1) (digit base n 2) (digit base n 3) = n := by
  have positive : 0 < base := by
    by_contra none
    rw [Nat.eq_zero_of_not_pos none] at small
    exact absurd small (by simp)
  have last : n / base ^ 3 < base := by
    rw [Nat.div_lt_iff_lt_mul (Nat.pow_pos positive), ← Nat.pow_succ']
    exact small
  have split0 := Nat.div_add_mod n base
  have split1 := Nat.div_add_mod (n / base) base
  have split2 := Nat.div_add_mod (n / base ^ 2) base
  have second : n / base / base = n / base ^ 2 := by rw [Nat.div_div_eq_div_mul, Nat.pow_two]
  have third : n / base ^ 2 / base = n / base ^ 3 := by rw [Nat.div_div_eq_div_mul, ← Nat.pow_succ]
  unfold number digit
  rw [Nat.pow_zero, Nat.div_one, Nat.pow_one, Nat.mod_eq_of_lt last]
  rw [second] at split1
  rw [third] at split2
  calc n % base + n / base % base * base + n / base ^ 2 % base * base ^ 2 + n / base ^ 3 * base ^ 3
      = base * (base * (base * (n / base ^ 3) + n / base ^ 2 % base) + n / base % base) + n % base := by ring
    _ = n := by rw [split2, split1, split0]

section Products

variable (base : Nat) (a b : Nat → Nat)

/-- The parts of the product of digit `i` and digit `j`. -/
def low (i j : Nat) : Nat := a i * b j % base
def high (i j : Nat) : Nat := a i * b j / base

def column0 : Nat := low base a b 0 0

def column1 : Nat := low base a b 0 1 + high base a b 0 0 + low base a b 1 0

def column2 : Nat :=
  low base a b 0 2 + high base a b 0 1 + low base a b 1 1 + high base a b 1 0 + low base a b 2 0

def column3 : Nat :=
  low base a b 0 3 + high base a b 0 2 + low base a b 1 2 + high base a b 1 1 + low base a b 2 1 +
    high base a b 2 0 + low base a b 3 0

theorem digits_product (i j : Nat) : a i * b j = base * high base a b i j + low base a b i j :=
  (Nat.div_add_mod _ _).symm

/-- The four columns, with every part of a weight above them. -/
theorem product_eq :
    number base (a 0) (a 1) (a 2) (a 3) * number base (b 0) (b 1) (b 2) (b 3) =
      number base (column0 base a b) (column1 base a b) (column2 base a b) (column3 base a b) +
        base ^ 4 * (high base a b 0 3 + high base a b 1 2 + high base a b 2 1 + high base a b 3 0 +
          (a 1 * b 3 + a 2 * b 2 + a 3 * b 1) + (a 2 * b 3 + a 3 * b 2) * base + a 3 * b 3 * base ^ 2) := by
  have rows : number base (a 0) (a 1) (a 2) (a 3) * number base (b 0) (b 1) (b 2) (b 3) =
      a 0 * b 0 + (a 0 * b 1 + a 1 * b 0) * base + (a 0 * b 2 + a 1 * b 1 + a 2 * b 0) * base ^ 2 +
        (a 0 * b 3 + a 1 * b 2 + a 2 * b 1 + a 3 * b 0) * base ^ 3 +
        base ^ 4 * ((a 1 * b 3 + a 2 * b 2 + a 3 * b 1) + (a 2 * b 3 + a 3 * b 2) * base + a 3 * b 3 * base ^ 2) := by
    unfold number
    ring
  rw [rows, digits_product base a b 0 0, digits_product base a b 0 1, digits_product base a b 1 0,
    digits_product base a b 0 2, digits_product base a b 1 1, digits_product base a b 2 0,
    digits_product base a b 0 3, digits_product base a b 1 2, digits_product base a b 2 1,
    digits_product base a b 3 0]
  unfold number column0 column1 column2 column3
  ring

/-- **Cut to four digits, a product is its columns.** -/
theorem product_mod :
    number base (a 0) (a 1) (a 2) (a 3) * number base (b 0) (b 1) (b 2) (b 3) % base ^ 4 =
      number base (column0 base a b) (column1 base a b) (column2 base a b) (column3 base a b) % base ^ 4 := by
  rw [product_eq, Nat.add_mul_mod_self_left]

end Products

section Bounds

variable {base : Nat} {a b : Nat → Nat}

theorem low_lt (positive : 0 < base) (i j : Nat) : low base a b i j < base := Nat.mod_lt _ positive

theorem high_lt (digits : ∀ i, a i < base) (digits' : ∀ j, b j < base) (i j : Nat) : high base a b i j < base := by
  have positive : 0 < base := Nat.lt_of_le_of_lt (Nat.zero_le _) (digits i)
  refine Nat.div_lt_of_lt_mul ?_
  exact Nat.mul_lt_mul_of_lt_of_le (digits i) (Nat.le_of_lt (digits' j)) positive

end Bounds

end TronLedger.Columns
