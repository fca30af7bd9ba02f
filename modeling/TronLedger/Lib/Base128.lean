import TronLedger.Lib.Buffer

/-!
# Numbers in base 128

A number as bytes of seven bits, the least significant first. The eighth bit of a byte says
that more bytes follow.

* `base128` writes a number in as few bytes as it needs.
* A reader that takes the bytes one by one sees either a last digit or a digit and the bytes
  of the quotient (`base128_last`, `base128_more`).
-/

namespace TronLedger

/-- A digit behind which more follow. -/
def moreDigit (d : Nat) : UInt8 := UInt8.ofNat (d + 128)

def base128 (n : Nat) : Bytes :=
  if n < 128 then [UInt8.ofNat n] else moreDigit (n % 128) :: base128 (n / 128)

theorem base128_last {n : Nat} (small : n < 128) : base128 n = [UInt8.ofNat n] := by
  rw [base128, if_pos small]

theorem base128_more {n : Nat} (large : 128 ≤ n) :
    base128 n = moreDigit (n % 128) :: base128 (n / 128) := by
  rw [base128, if_neg (by omega)]

theorem base128_ne_nil (n : Nat) : base128 n ≠ [] := by
  rw [base128]
  split <;> simp

theorem base128_length_pos (n : Nat) : 0 < (base128 n).length :=
  List.length_pos_iff.mpr (base128_ne_nil n)

theorem base128_length_le {k n : Nat} (bound : n < 128 ^ (k + 1)) : (base128 n).length ≤ k + 1 := by
  induction k generalizing n with
  | zero =>
    rw [base128_last (by simpa using bound)]
    simp
  | succ k ih =>
    by_cases small : n < 128
    · rw [base128_last small]
      simp
    · have quotient : n / 128 < 128 ^ (k + 1) := by
        rw [Nat.pow_succ] at bound
        exact Nat.div_lt_of_lt_mul (by omega)
      rw [base128_more (by omega), List.length_cons]
      exact Nat.succ_le_succ (ih quotient)

section Digits

variable {d : Nat}

theorem lastDigit_bit (small : d < 128) : UInt8.ofNat d &&& 0x80 = 0 := by
  have all : ∀ d : Fin 128, UInt8.ofNat d.val &&& 0x80 = 0 := by decide
  exact all ⟨d, small⟩

theorem lastDigit_value (small : d < 128) : UInt8.ofNat d &&& 0x7F = UInt8.ofNat d := by
  have all : ∀ d : Fin 128, UInt8.ofNat d.val &&& 0x7F = UInt8.ofNat d.val := by decide
  exact all ⟨d, small⟩

theorem moreDigit_bit (small : d < 128) : moreDigit d &&& 0x80 ≠ 0 := by
  have all : ∀ d : Fin 128, moreDigit d.val &&& 0x80 ≠ 0 := by decide
  exact all ⟨d, small⟩

theorem moreDigit_value (small : d < 128) : moreDigit d &&& 0x7F = UInt8.ofNat d := by
  have all : ∀ d : Fin 128, moreDigit d.val &&& 0x7F = UInt8.ofNat d.val := by decide
  exact all ⟨d, small⟩

theorem moreDigit_or (small : d < 128) : UInt8.ofNat d ||| 0x80 = moreDigit d := by
  have all : ∀ d : Fin 128, UInt8.ofNat d.val ||| 0x80 = moreDigit d.val := by decide
  exact all ⟨d, small⟩

end Digits

end TronLedger
