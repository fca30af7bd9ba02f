import TronLedger.Amount
import TronLedger.Lib.Decimal

/-!
# The texts of amounts

What `print_amount` computes, free of its loops: it throws from 10^19 on, and otherwise
leaves the adjusted digits of the amount when they fit. `decimal` gives the one digit string
of a number that has no zero in front.
-/

namespace TronLedger

section Decimals

theorem digitChar_byte : ∀ d < 10, UInt8.ofNat (Nat.digitChar d).toNat = UInt8.ofNat (48 + d) := by
  decide

/-- The digits of a number, the most significant one first. -/
def numeral (base n : Nat) : Bytes := ascii (String.ofList (Nat.toDigits base n))

theorem numeral_split {base : Nat} (many : 2 ≤ base) (n : Nat) :
    numeral base n =
      (if n < base then [] else numeral base (n / base)) ++ [UInt8.ofNat (Nat.digitChar (n % base)).toNat] := by
  have digits (m : Nat) : numeral base m = (Nat.toDigits base m).map fun c => UInt8.ofNat c.toNat := by
    simp [numeral, ascii]
  rw [digits, Nat.toDigits_eq_if many]
  split
  · rename_i small
    rw [List.map_singleton, Nat.mod_eq_of_lt small]
    rfl
  · rw [List.map_append, List.map_singleton, digits]

theorem numeral_length_le {base n k : Nat} (many : 2 ≤ base) (positive : 0 < k) :
    (numeral base n).length ≤ k ↔ n < base ^ k := by
  rw [← Nat.length_toDigits_le_iff many positive]
  simp [numeral, ascii]

theorem decimal_numeral (n : Nat) : decimal n = numeral 10 n := rfl

theorem decimal_split (n : Nat) :
    decimal n = (if n < 10 then [] else decimal (n / 10)) ++ [UInt8.ofNat (48 + n % 10)] := by
  rw [← digitChar_byte _ (Nat.mod_lt n (by decide)), decimal_numeral, decimal_numeral]
  exact numeral_split (by decide) n

theorem decimal_length_le {n k : Nat} (positive : 0 < k) : (decimal n).length ≤ k ↔ n < 10 ^ k := by
  rw [decimal_numeral]
  exact numeral_length_le (by decide) positive

theorem digit_ofNat {d : Nat} (h : d < 10) : (UInt8.ofNat (48 + d)).toNat = 48 + d := by
  rw [UInt8.toNat_ofNat']
  omega

theorem decimal_digits (n : Nat) : (decimal n).all isDigit = true := by
  induction n using Nat.strong_induction_on with
  | _ n ih =>
    have last : isDigit (UInt8.ofNat (48 + n % 10)) = true := by
      have := digit_ofNat (Nat.mod_lt n (show 0 < 10 by decide))
      simp only [isDigit, this, decide_eq_true_eq]
      omega
    rw [decimal_split, List.all_append, List.all_cons, last]
    split
    · rfl
    · rw [ih (n / 10) (by omega)]
      rfl

theorem decimal_nonempty (n : Nat) : decimal n ≠ [] := by
  rw [decimal_split]
  simp

theorem decimal_nonzero (n : Nat) : ∀ c ∈ decimal n, c ≠ 0 := by
  rintro c among rfl
  have digit := List.all_eq_true.mp (decimal_digits n) 0 among
  simp [isDigit] at digit

theorem digitsValue_decimal (n : Nat) : digitsValue (decimal n) = n := by
  induction n using Nat.strong_induction_on with
  | _ n ih =>
    rw [decimal_split, digitsValue_snoc, digit_ofNat (Nat.mod_lt n (by decide))]
    split
    · simp only [digitsValue, List.foldl_nil]
      omega
    · rw [ih (n / 10) (by omega)]
      omega

/-- Without a zero in front, a digit string is the decimal of its value. -/
theorem decimal_digitsValue {bs : Bytes} (digits : bs.all isDigit = true) (nonempty : bs ≠ [])
    (lead : bs.head? ≠ some 48) : decimal (digitsValue bs) = bs := by
  obtain ⟨b, cs, rfl⟩ := List.exists_cons_of_ne_nil nonempty
  have below := digitsValue_lt digits
  have above : 10 ^ cs.length ≤ digitsValue (b :: cs) := by
    have digit : isDigit b = true := List.all_eq_true.mp digits b (by simp)
    have nonzero : b ≠ 48 := fun zero => lead (by rw [zero]; rfl)
    have : b.toNat ≠ 48 := fun same => nonzero (UInt8.toNat_inj.mp same)
    simp only [isDigit, decide_eq_true_eq] at digit
    rw [← List.singleton_append, digitsValue_append]
    have one : 1 ≤ digitsValue [b] := by
      simp only [digitsValue, List.foldl_cons, List.foldl_nil]
      omega
    calc 10 ^ cs.length = 1 * 10 ^ cs.length := (Nat.one_mul _).symm
      _ ≤ digitsValue [b] * 10 ^ cs.length := Nat.mul_le_mul_right _ one
      _ ≤ _ := Nat.le_add_right _ _
  refine digits_ext (decimal_digits _) digits ?_ (digitsValue_decimal _)
  have short := (decimal_length_le (by simp)).mpr below
  by_contra other
  have shorter : (decimal (digitsValue (b :: cs))).length ≤ cs.length := by
    simp only [List.length_cons] at short other
    omega
  rcases Nat.eq_zero_or_pos cs.length with none | positive
  · rw [none, decimal_split, List.length_append] at shorter
    simp at shorter
  · have := (decimal_length_le positive).mp shorter
    omega

theorem decimal_inj {n m : Nat} (same : decimal n = decimal m) : n = m := by
  rw [← digitsValue_decimal n, ← digitsValue_decimal m, same]

/-- A decimal starts with a digit. -/
theorem decimal_head (n : Nat) : ∃ b bs, decimal n = b :: bs ∧ isDigit b = true := by
  cases digits : decimal n with
  | nil =>
    have split := decimal_split n
    rw [digits] at split
    simp at split
  | cons b bs =>
    have all := decimal_digits n
    rw [digits] at all
    exact ⟨b, bs, rfl, List.all_eq_true.mp all b List.mem_cons_self⟩

theorem signedDecimal_inj {i j : Int} (same : signedDecimal i = signedDecimal j) : i = j := by
  have sign : ascii "-" = [45] := by decide
  have minus {n m : Nat} : decimal n ≠ ascii "-" ++ decimal m := by
    obtain ⟨b, bs, digits, digit⟩ := decimal_head n
    rw [digits, sign, List.singleton_append]
    intro same
    rw [(List.cons.inj same).1] at digit
    exact absurd digit (by decide)
  unfold signedDecimal at same
  split_ifs at same with negative negative' negative'
  · have value := decimal_inj (List.append_cancel_left same)
    omega
  · exact absurd same.symm minus
  · exact absurd same minus
  · have value := decimal_inj same
    omega

/-- A signed number of 64 bits has at most twenty characters. -/
theorem signedDecimal_length (i : Int64) : (signedDecimal i.toInt).length ≤ 20 := by
  have lo := i.le_toInt
  have hi := i.toInt_lt
  have sign : (ascii "-").length = 1 := by decide
  have short : (decimal i.toInt.natAbs).length ≤ 19 := (decimal_length_le (by decide)).mpr (by omega)
  unfold signedDecimal
  split
  · rw [List.length_append, sign]
    omega
  · omega

end Decimals

theorem pow_lt_of_le {k : Nat} {amount : UInt64} (h : 10 ^ k ≤ amount.toNat) : k < 20 := by
  by_contra big
  have : 10 ^ 20 ≤ 10 ^ k := Nat.pow_le_pow_right (by decide) (by omega)
  have := amount.toNat_lt
  omega

theorem amountBase_spec (amount : UInt64) (fuel k : Nat) (below : 10 ^ k ≤ amount.toNat)
    (enough : 20 ≤ fuel + k) :
    ∃ m, amountBase amount fuel (UInt64.ofNat (10 ^ k)) k = (UInt64.ofNat (10 ^ m), m) ∧
      10 ^ m ≤ amount.toNat ∧ amount.toNat < 10 ^ (m + 1) := by
  induction fuel generalizing k with
  | zero =>
    have := pow_lt_of_le below
    omega
  | succ fuel ih =>
    have small := pow_lt_of_le below
    have amountLt := amount.toNat_lt
    have base : (UInt64.ofNat (10 ^ k)).toNat = 10 ^ k := by
      rw [UInt64.toNat_ofNat', Nat.mod_eq_of_lt (by omega)]
    have grow : UInt64.ofNat (10 ^ k) ≤ amount / 10 ↔ 10 ^ (k + 1) ≤ amount.toNat := by
      rw [UInt64.le_iff_toNat_le, UInt64.toNat_div, base, Nat.pow_succ]
      exact Nat.le_div_iff_mul_le (by decide)
    rw [amountBase]
    split
    · rename_i more
      have next : UInt64.ofNat (10 ^ k) * 10 = UInt64.ofNat (10 ^ (k + 1)) := by
        rw [Nat.pow_succ, UInt64.ofNat_mul]
        rfl
      rw [next]
      exact ih (k + 1) (grow.mp more) (by omega)
    · rename_i stop
      exact ⟨k, rfl, below, by rw [grow] at stop; omega⟩

/-- The digits `print_amount` hands to `adjustDecimals`; zero has none. -/
def amountText (amount : UInt64) : Bytes :=
  if 0 < amount then
    amountDigits amount ((amountBase amount 20 1 0).2 + 1) (amountBase amount 20 1 0).1
  else []

/-- What `print_amount` leaves for a text of `adjustDecimals`. -/
def fitted (outlen : Nat) : Option Bytes → Bytes
  | none => []
  | some text => if text.length < outlen - 1 then text else []

/-- The digits are counted right, and they are those of `amountText`. -/
theorem amountDigits_text (amount : UInt64) :
    ∃ base numDigits,
      (if 0 < amount then ((amountBase amount 20 1 0).1, (amountBase amount 20 1 0).2 + 1) else (1, 0)) = (base, numDigits) ∧
        (19 < numDigits ↔ 10 ^ 19 ≤ amount.toNat) ∧ amountDigits amount numDigits base = amountText amount := by
  by_cases positive : 0 < amount
  · obtain ⟨m, digits, lo, hi⟩ := amountBase_spec amount 20 0
      (UInt64.lt_iff_toNat_lt.mp positive) (by omega)
    have digits' : amountBase amount 20 1 0 = (UInt64.ofNat (10 ^ m), m) := digits
    have many : 19 < m + 1 ↔ 10 ^ 19 ≤ amount.toNat := by
      constructor
      · intro big
        exact (Nat.pow_le_pow_right (by decide) (by omega)).trans lo
      · intro big
        by_contra small
        have : 10 ^ (m + 1) ≤ 10 ^ 19 := Nat.pow_le_pow_right (by decide) (by omega)
        omega
    rw [if_pos positive, amountText, if_pos positive, digits']
    exact ⟨_, _, rfl, many, rfl⟩
  · have zero : amount.toNat = 0 := by
      simpa [UInt64.lt_iff_toNat_lt] using positive
    rw [if_neg positive, amountText, if_neg positive, zero]
    exact ⟨_, _, rfl, by decide, rfl⟩

theorem printAmount_eq (amount : UInt64) (outlen sun : Nat) :
    printAmount amount outlen sun =
      if 10 ^ 19 ≤ amount.toNat then none
      else some (fitted outlen (adjustDecimals (amountText amount) 25 sun)) := by
  obtain ⟨base, numDigits, parts, many, digits⟩ := amountDigits_text amount
  unfold printAmount
  dsimp only
  rw [parts]
  dsimp only
  rw [digits]
  simp only [many]
  congr 1
  cases adjustDecimals (amountText amount) 25 sun with
  | none => rfl
  | some text => simp only [fitted]; split <;> rfl

end TronLedger
