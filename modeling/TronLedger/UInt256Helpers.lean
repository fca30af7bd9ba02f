import TronLedger.UInt256Memory
import TronLedger.UInt256Product

/-!
# The helpers agree with the integers

Comparison, bit length and conversion of 256-bit numbers, beside the sums and differences that are
written into one of their operands.

* `equal256_iff`, `gt256_eq` and `bits256_eq`: what is read from memory is what the value gives.
* `uint256_helpers` says what each of them is on natural numbers and integers.
-/

namespace TronLedger

open Place

variable {M : Type}

section Functions

def equal128 (number1 number2 : Place M UInt128) (m : M) : Bool :=
  decide ((upper128 number1).get m = (upper128 number2).get m) &&
    decide ((lower128 number1).get m = (lower128 number2).get m)

def equal256 (number1 number2 : Place M UInt256) (m : M) : Bool :=
  equal128 (upper256 number1) (upper256 number2) m && equal128 (lower256 number1) (lower256 number2) m

def gt128 (number1 number2 : Place M UInt128) (m : M) : Bool :=
  if (upper128 number1).get m = (upper128 number2).get m then
    (lower128 number2).get m < (lower128 number1).get m
  else (upper128 number2).get m < (upper128 number1).get m

def gt256 (number1 number2 : Place M UInt256) (m : M) : Bool :=
  if equal128 (upper256 number1) (upper256 number2) m then gt128 (lower256 number1) (lower256 number2) m
  else gt128 (upper256 number1) (upper256 number2) m

def gte256 (number1 number2 : Place M UInt256) (m : M) : Bool :=
  gt256 number1 number2 m || equal256 number1 number2 m

/-- The loops of `bits256` on their copy of a half, which is shifted in place. -/
def bitsLoop : Nat → UInt128 → Nat
  | 0, _ => 0
  | fuel + 1, half => if half.isZero then 0 else bitsLoop fuel (shiftr128 whole 1 whole half) + 1

def bits256 (number : Place M UInt256) (m : M) : Nat :=
  if !((upper256 number).get m).isZero then 128 + bitsLoop 128 ((upper256 number).get m)
  else bitsLoop 128 ((lower256 number).get m)

end Functions

section Values

variable (number1 number2 : Place M UInt256) (m : M)

theorem equal128_iff (number1 number2 : Place M UInt128) (m : M) :
    equal128 number1 number2 m = true ↔ number1.get m = number2.get m := by
  unfold equal128
  rw [Bool.and_eq_true, decide_eq_true_eq, decide_eq_true_eq, get_upper128, get_upper128, get_lower128, get_lower128]
  constructor
  · rintro ⟨upper, lower⟩
    generalize number1.get m = a at *
    generalize number2.get m = b at *
    cases a
    cases b
    simp_all
  · intro same
    rw [same]
    exact ⟨rfl, rfl⟩

theorem equal256_iff : equal256 number1 number2 m = true ↔ (number1.get m).toNat = (number2.get m).toNat := by
  unfold equal256
  rw [Bool.and_eq_true, equal128_iff, equal128_iff, get_upper256, get_upper256, get_lower256, get_lower256]
  unfold UInt256.toNat
  rw [Halves.join_inj (UInt128.toNat_lt _) (UInt128.toNat_lt _), UInt128.toNat_inj, UInt128.toNat_inj]

theorem gt256_eq : gt256 number1 number2 m = (number1.get m).gt (number2.get m) := by
  unfold gt256 UInt256.gt
  by_cases same : (number1.get m).upper = (number2.get m).upper
  · rw [if_pos ((equal128_iff _ _ m).mpr same), if_pos same]
    rfl
  · rw [if_neg (mt (equal128_iff _ _ m).mp same), if_neg same]
    rfl

theorem gte256_iff : gte256 number1 number2 m = true ↔ (number2.get m).toNat ≤ (number1.get m).toNat := by
  unfold gte256
  rw [Bool.or_eq_true, gt256_eq, UInt256.gt_iff, equal256_iff]
  omega

/-- A shift by one bit in place is the one of the value. -/
theorem bitsLoop_eq (fuel : Nat) (half : UInt128) : bitsLoop fuel half = UInt256.halfBits fuel half := by
  induction fuel generalizing half with
  | zero => rfl
  | succ fuel ih =>
    have shifted : shiftr128 whole 1 whole half = half.shiftr 1 :=
      shiftr128_eq (.refl whole) (fun wide => absurd wide (by decide)) half
    rw [bitsLoop, UInt256.halfBits, shifted, ih]

theorem bits256_eq (number : Place M UInt256) : bits256 number m = (number.get m).bits := by
  unfold bits256 UInt256.bits
  rw [bitsLoop_eq, bitsLoop_eq]
  rfl

/-- The difference, as an integer. -/
theorem UInt256.toNat_minus_int (a b : UInt256) :
    ((a.minus b).toNat : Int) = ((a.toNat : Int) - b.toNat) % 2 ^ 256 := by
  have bound := b.toNat_lt
  rw [toNat_minus_mod]
  omega

end Values

/-- What is left in `target`, and what is found of the two operands, is what the integers give. -/
structure HelpersExact (number1 number2 target : Place M UInt256) (m : M) (data : Bytes) : Prop where
  add : ∃ sum, add256 number1 number2 target m = target.set sum m ∧
    sum.toNat = ((number1.get m).toNat + (number2.get m).toNat) % 2 ^ 256
  minus : ∃ difference, minus256 number1 number2 target m = target.set difference m ∧
    (difference.toNat : Int) = (((number1.get m).toNat : Int) - (number2.get m).toNat) % 2 ^ 256
  gt : gt256 number1 number2 m = true ↔ (number2.get m).toNat < (number1.get m).toNat
  gte : gte256 number1 number2 m = true ↔ (number2.get m).toNat ≤ (number1.get m).toNat
  equal : equal256 number1 number2 m = true ↔ (number1.get m).toNat = (number2.get m).toNat
  bits : bits256 number1 m = (number1.get m).toNat.size
  convert : (convertUint256BE data).toNat = beNat data

/-- **The 256-bit helpers agree with the integers**, whichever operand the target is. -/
theorem uint256_helpers {number1 number2 target : Place M UInt256} (first : number1.SameOrApart target)
    (second : number2.SameOrApart target) (m : M) {data : Bytes} (short : data.length ≤ 32) :
    HelpersExact number1 number2 target m data where
  add := ⟨_, add256_eq first second m, UInt256.toNat_add _ _⟩
  minus := ⟨_, minus256_eq first second m, UInt256.toNat_minus_int _ _⟩
  gt := by rw [gt256_eq, UInt256.gt_iff]
  gte := gte256_iff number1 number2 m
  equal := equal256_iff number1 number2 m
  bits := by rw [bits256_eq, UInt256.bits_eq]
  convert := convertUint256BE_toNat short

theorem uint256_helpers_in_place :
    HelpersExact (whole : Place UInt256 UInt256) whole whole ⟨⟨0, 1⟩, ⟨0, 0⟩⟩ [1, 0] :=
  uint256_helpers (.refl whole) (.refl whole) _ (by decide)

end TronLedger
