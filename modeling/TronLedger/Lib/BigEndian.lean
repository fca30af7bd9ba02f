import TronLedger.Lib.Buffer
import Mathlib.Data.Nat.Digits.Lemmas

/-!
# Numbers as big-endian bytes

The bytes of a number in a given length, and the fewest it takes.

* `beBytes_eq`: the bytes of a number are the only ones of their length with its value.
* `minimalBytes`: no zero in front; the number zero has no bytes.
-/

namespace TronLedger

def minimalBytes (n : Nat) : Bytes := (Nat.digits 256 n).reverse.map UInt8.ofNat

theorem beNat_beBytes (n value : Nat) : beNat (beBytes n value) = value % 256 ^ n := by
  induction n with
  | zero => rw [pow_zero, Nat.mod_one]; rfl
  | succ n ih =>
    have head : beNat [UInt8.ofNat (value / 256 ^ n)] = value / 256 ^ n % 256 := by
      rw [beNat, List.foldl_cons, List.foldl_nil, Nat.zero_mul, Nat.zero_add, UInt8.toNat_ofNat']
    rw [beBytes, ← List.singleton_append, beNat_append, ih, head, beBytes_length, Nat.mod_pow_succ, Nat.mul_comm,
      Nat.add_comm]

theorem beBytes_eq {bs : Bytes} {length n : Nat} (size : bs.length = length) (value : beNat bs = n) :
    beBytes length n = bs := by
  have below := beNat_lt bs
  rw [size, value] at below
  refine beNat_inj (by rw [beBytes_length, size]) ?_
  rw [beNat_beBytes, value, Nat.mod_eq_of_lt below]

/-- Zeros in front do not count. -/
theorem beNat_zeros (k : Nat) (bs : Bytes) : beNat (List.replicate k 0 ++ bs) = beNat bs := by
  have none : beNat (List.replicate k 0) = 0 := by
    induction k with
    | zero => rfl
    | succ k ih =>
      rw [List.replicate_succ', beNat_snoc, ih]
      rfl
  rw [beNat_append, none, Nat.zero_mul, Nat.zero_add]

theorem minimalBytes_step {n : Nat} (positive : 0 < n) :
    minimalBytes n = minimalBytes (n / 256) ++ [UInt8.ofNat (n % 256)] := by
  rw [minimalBytes, Nat.digits_def' (by decide) positive, List.reverse_cons, List.map_append, List.map_singleton]
  rfl

theorem beNat_minimalBytes (n : Nat) : beNat (minimalBytes n) = n := by
  induction n using Nat.strong_induction_on with
  | _ n ih =>
    rcases Nat.eq_zero_or_pos n with rfl | positive
    · rfl
    · rw [minimalBytes_step positive, beNat_snoc, ih _ (by omega), UInt8.toNat_ofNat']
      omega

theorem minimalBytes_length {n k : Nat} : (minimalBytes n).length ≤ k ↔ n < 256 ^ k := by
  rw [minimalBytes, List.length_map, List.length_reverse]
  exact Nat.digits_length_le_iff (by decide) n

theorem minimalBytes_ne_nil {n : Nat} (positive : 0 < n) : minimalBytes n ≠ [] := by
  rw [minimalBytes_step positive]
  exact List.append_ne_nil_of_right_ne_nil _ (List.cons_ne_nil _ _)

end TronLedger
