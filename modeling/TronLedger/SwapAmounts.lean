import TronLedger.Render
import TronLedger.UInt256Value
import TronLedger.CanonicalAmount

/-!
# Amounts of a swap

The text of the amount that the Exchange app validated, beside the one of a transaction.

* `validatedAmount_eq`: the validated text is the canonical decimal, where the buffers have room.
* `printAmount_canonical`: an amount of TRX that is not zero is printed as its canonical decimal.
* `trx_amounts_agree`: the comparison of the two texts is one of the amounts.
-/

namespace TronLedger

/-- The text of any 256-bit number, through the buffer of `tostring256`. -/
theorem adjustDecimals_tostring (n : UInt256) (d : Nat) :
    adjustDecimals (n.tostring 10 50).2 50 d =
      if AdjustRoom n.toNat 50 d then some (canonicalDecimal n.toNat d) else none := by
  by_cases fits : (decimal n.toNat).length ≤ 50
  · rw [n.tostring_fits fits]
    exact adjustDecimals_decimal n.toNat 50 d
  · -- the digits fill the buffer, which leaves no room for what is added
    have full := (n.tostring_long (by decide) (Nat.lt_of_not_le fits)).2
    have some : n.toNat ≠ 0 := by
      intro zero
      rw [zero] at fits
      exact fits (by decide)
    have other : (n.tostring 10 50).2 ≠ [48] := by
      intro zero
      rw [zero] at full
      simp at full
    rw [if_neg (by rw [adjustRoom_iff some]; omega), adjustDecimals, if_neg other, full]
    split
    · rw [if_pos (by omega)]
    · rw [if_pos (by omega)]

theorem validatedAmount_eq (n : UInt256) (d : Nat) :
    validatedAmount n d = if AdjustRoom n.toNat 50 d then some (canonicalDecimal n.toNat d) else none :=
  adjustDecimals_tostring n d

/-- An amount of TRX that is not zero is printed as its canonical decimal. -/
theorem printAmount_canonical {amount : UInt64} (positive : 0 < amount.toNat) (small : amount.toNat < 10 ^ 19) :
    printAmount amount 100 6 = some (canonicalDecimal amount.toNat 6) := by
  have digits : (decimal amount.toNat).length ≤ 19 := (decimal_length_le (by decide)).mpr small
  have room : AdjustRoom amount.toNat 25 6 := by
    rw [adjustRoom_iff (Nat.ne_of_gt positive)]
    omega
  have short := canonicalDecimal_length room
  rw [printAmount_eq, if_neg (Nat.not_le_of_lt small), amountText_eq positive, adjustDecimals_decimal, if_pos room, fitted,
    if_pos (by omega)]

theorem strncmpEq_iff {a b : Bytes} {n : Nat} (ha : ∀ c ∈ a, c ≠ 0) (hb : ∀ c ∈ b, c ≠ 0) (short : a.length ≤ n)
    (short' : b.length ≤ n) : strncmpEq a b n = true ↔ a = b := by
  have whole {text : Bytes} (nonzero : ∀ c ∈ text, c ≠ 0) : cstr text = text :=
    List.takeWhile_eq_self_iff.mpr fun c among => decide_eq_true (nonzero c among)
  rw [strncmpEq, whole ha, whole hb, List.take_of_length_le short, List.take_of_length_le short', decide_eq_true_eq]

/-- The text of an amount is accepted where it is the validated one. -/
theorem checkSwapAmount_iff {validated : SwapValidated} {amount d : Nat} (room : AdjustRoom amount 50 d) :
    checkSwapAmount validated (canonicalDecimal amount d) d = true ↔ validated.amount.toNat = amount := by
  have short := canonicalDecimal_length room
  rw [checkSwapAmount, validatedAmount_eq]
  by_cases room' : AdjustRoom validated.amount.toNat 50 d
  · have short' := canonicalDecimal_length room'
    rw [if_pos room']
    dsimp only
    rw [maxPrintableAmountSize, strncmpEq_iff (canonicalDecimal_nonzero _ _) (canonicalDecimal_nonzero _ _) (by omega)
      (by omega)]
    constructor
    · intro same
      exact (canonicalDecimal_inj same).symm
    · intro same
      rw [same]
  · rw [if_neg room']
    constructor
    · intro refused
      simp at refused
    · intro same
      rw [same] at room'
      exact absurd room room'

/-- Zero is printed with its decimals, as no validated amount is. -/
theorem checkSwapAmount_zero (validated : SwapValidated) (d : Nat) :
    checkSwapAmount validated (ascii "0.000000") d = false := by
  rw [checkSwapAmount, validatedAmount_eq]
  by_cases room : AdjustRoom validated.amount.toNat 50 d
  · have short := canonicalDecimal_length room
    have zero : ∀ c ∈ ascii "0.000000", c ≠ 0 := by decide +kernel
    rw [if_pos room]
    dsimp only
    rw [Bool.eq_false_iff, ne_eq, maxPrintableAmountSize,
      strncmpEq_iff zero (canonicalDecimal_nonzero _ _) (by decide) (by omega)]
    intro same
    obtain ⟨m, p, reads, scaled⟩ := canonicalDecimal_reads validated.amount.toNat d
    have read : readDecimal (ascii "0.000000") = some (0, 6) := by decide
    rw [← same, read] at reads
    obtain ⟨rfl, rfl⟩ := Prod.mk.inj (Option.some.inj reads)
    rw [Nat.zero_mul] at scaled
    have none := (Nat.mul_eq_zero.mp scaled.symm).resolve_right (by decide)
    rw [none, canonicalDecimal_zero] at same
    exact absurd same (by decide)
  · rw [if_neg room]

theorem sun_texts_agree {a : Nat} (positive : 0 < a) (small : a < 2 ^ 63) :
    ∃ text, printAmount (UInt64.ofNat a) 100 sunDig = some text ∧
      ∀ n : UInt256, n.toNat = a → validatedAmount n sunDig = some text := by
  have value : (UInt64.ofNat a).toNat = a := by
    rw [UInt64.toNat_ofNat']
    omega
  have printed : printAmount (UInt64.ofNat a) 100 6 = some (canonicalDecimal (UInt64.ofNat a).toNat 6) :=
    printAmount_canonical (by omega) (by omega)
  rw [value] at printed
  refine ⟨_, printed, ?_⟩
  intro n same
  have digits : (decimal a).length ≤ 19 := (decimal_length_le (by decide)).mpr (by omega)
  have room : AdjustRoom a 50 6 := by
    rw [adjustRoom_iff (by omega)]
    omega
  rw [validatedAmount_eq, same, sunDig, if_pos room]

theorem checkSwapAmount_printed {amount : UInt64} {text : Bytes} (validated : SwapValidated)
    (printed : printAmount amount 100 sunDig = some text) :
    checkSwapAmount validated text sunDig = true ↔ 0 < amount.toNat ∧ validated.amount.toNat = amount.toNat := by
  have small : amount.toNat < 10 ^ 19 := by
    rw [printAmount_eq] at printed
    by_contra large
    rw [if_pos (Nat.le_of_not_lt large)] at printed
    simp at printed
  have sun : sunDig = 6 := rfl
  rw [sun] at printed ⊢
  rcases Nat.eq_zero_or_pos amount.toNat with none | positive
  · have zero : amount = 0 := UInt64.toNat_inj.mp none
    have shown : printAmount 0 100 6 = some (ascii "0.000000") := by decide
    rw [zero, shown] at printed
    obtain rfl := Option.some.inj printed
    rw [checkSwapAmount_zero, none]
    simp
  · have digits : (decimal amount.toNat).length ≤ 19 := (decimal_length_le (by decide)).mpr small
    have room : AdjustRoom amount.toNat 50 6 := by
      rw [adjustRoom_iff (Nat.ne_of_gt positive)]
      omega
    rw [printAmount_canonical positive small] at printed
    obtain rfl := Option.some.inj printed
    rw [checkSwapAmount_iff room]
    constructor
    · intro same
      exact ⟨positive, same⟩
    · exact And.right

/-- **The two texts of an amount of TRX agree unless it is zero, and a swap accepts a transaction's
amount where it is the validated one, and not zero.** -/
theorem trx_amounts_agree :
    (∀ a : Nat, 0 < a → a < 2 ^ 63 →
      ∃ text, printAmount (UInt64.ofNat a) 100 sunDig = some text ∧
        ∀ n : UInt256, n.toNat = a → validatedAmount n sunDig = some text) ∧
      ∀ (amount : UInt64) (text : Bytes) (validated : SwapValidated),
        printAmount amount 100 sunDig = some text →
          (checkSwapAmount validated text sunDig = true ↔ 0 < amount.toNat ∧ validated.amount.toNat = amount.toNat) :=
  ⟨fun _ positive small => sun_texts_agree positive small, fun _ _ validated printed =>
    checkSwapAmount_printed validated printed⟩

/-- Zero has two texts. -/
theorem zero_amounts_differ :
    printAmount 0 100 sunDig = some (ascii "0.000000") ∧ validatedAmount .zero sunDig = some (ascii "0") ∧
      ¬∀ a : Nat, a < 2 ^ 63 → ∀ n : UInt256, n.toNat = a →
        printAmount (UInt64.ofNat a) 100 sunDig = validatedAmount n sunDig := by
  have printed : printAmount 0 100 sunDig = some (ascii "0.000000") := by decide
  have validated : validatedAmount .zero sunDig = some (ascii "0") := by
    rw [validatedAmount_eq, UInt256.toNat_zero]
    decide
  refine ⟨printed, validated, ?_⟩
  intro agree
  have same := agree 0 (by decide) .zero UInt256.toNat_zero
  rw [show UInt64.ofNat 0 = 0 from rfl, printed, validated] at same
  exact absurd same (by decide)

/-- A million and a half SUN. -/
theorem trx_amounts_agree_sample :
    (∃ text, printAmount (UInt64.ofNat 1500000) 100 sunDig = some text ∧
      ∀ n : UInt256, n.toNat = 1500000 → validatedAmount n sunDig = some text) ∧
      ∀ validated : SwapValidated, checkSwapAmount validated (ascii "1.5") sunDig = true ↔
        0 < (1500000 : UInt64).toNat ∧ validated.amount.toNat = (1500000 : UInt64).toNat :=
  ⟨trx_amounts_agree.1 1500000 (by decide) (by decide), fun validated =>
    trx_amounts_agree.2 1500000 (ascii "1.5") validated (by decide)⟩

end TronLedger
