import TronLedger.AmountValue
import Mathlib.Data.List.DropRight

/-!
# Canonical decimals

The one text of a number with decimals that has no zero too many, and the two formatters as functions
of the number.

* `adjustDecimals_decimal`: `adjustDecimals` leaves this text, exactly where its buffer has room.
* `canonicalDecimal_inj`: the text tells numbers apart.
-/

namespace TronLedger

/-- The decimals behind the point of `n / 10 ^ d`. -/
def fraction (n : Nat) : Nat → Bytes
  | 0 => []
  | d + 1 => UInt8.ofNat (48 + n / 10 ^ d % 10) :: fraction n d

/-- `n / 10 ^ d`, without zeros at the end and without a point that is not needed. -/
def canonicalDecimal (n d : Nat) : Bytes :=
  let frac := (fraction n d).rdropWhile (· = 48)
  decimal (n / 10 ^ d) ++ if frac = [] then [] else 46 :: frac

example : canonicalDecimal 1500000 6 = ascii "1.5" := by decide
example : canonicalDecimal 20 6 = ascii "0.00002" := by decide
example : canonicalDecimal 3000 3 = ascii "3" := by decide

/-- The room that `adjustDecimals` asks for. -/
def AdjustRoom (n length d : Nat) : Prop :=
  if n = 0 then 2 ≤ length else (decimal n).length + 2 ≤ length ∧ d + 3 ≤ length

instance (n length d : Nat) : Decidable (AdjustRoom n length d) := by
  unfold AdjustRoom
  infer_instance

theorem adjustRoom_zero (length d : Nat) : AdjustRoom 0 length d ↔ 2 ≤ length := by
  rw [AdjustRoom, if_pos rfl]

theorem adjustRoom_iff {n length d : Nat} (some : n ≠ 0) :
    AdjustRoom n length d ↔ (decimal n).length + 2 ≤ length ∧ d + 3 ≤ length := by
  rw [AdjustRoom, if_neg some]

section Fraction

theorem fraction_length (n d : Nat) : (fraction n d).length = d := by
  induction d with
  | zero => rfl
  | succ d ih => rw [fraction, List.length_cons, ih]

theorem fraction_digits (n d : Nat) : (fraction n d).all isDigit = true := by
  induction d with
  | zero => rfl
  | succ d ih =>
    have digit := digit_ofNat (Nat.mod_lt (n / 10 ^ d) (show 0 < 10 by decide))
    rw [fraction, List.all_cons, ih, Bool.and_true, isDigit, digit, decide_eq_true_eq]
    omega

theorem digitsValue_fraction (n d : Nat) : digitsValue (fraction n d) = n % 10 ^ d := by
  induction d with
  | zero => rw [pow_zero, Nat.mod_one]; rfl
  | succ d ih =>
    have digit := digit_ofNat (Nat.mod_lt (n / 10 ^ d) (show 0 < 10 by decide))
    have head : digitsValue [UInt8.ofNat (48 + n / 10 ^ d % 10)] = n / 10 ^ d % 10 := by
      simp only [digitsValue, List.foldl_cons, List.foldl_nil, digit]
      omega
    rw [fraction, ← List.singleton_append, digitsValue_append, ih, head, fraction_length, Nat.mod_pow_succ]
    ring

/-- The digits of the remainder are the decimals. -/
theorem fraction_eq {bs : Bytes} {n d : Nat} (digits : bs.all isDigit = true) (length : bs.length = d)
    (value : digitsValue bs = n % 10 ^ d) : fraction n d = bs :=
  digits_ext (fraction_digits n d) digits (by rw [fraction_length, length]) (by rw [digitsValue_fraction, value])

/-- The zeros at the end are dropped, and nothing else. -/
theorem rdropWhile_zeros {kept zeros : Bytes} (trail : ∀ z ∈ zeros, z = 48) (final : kept.getLast? ≠ some 48) :
    (kept ++ zeros).rdropWhile (· = 48) = kept := by
  induction zeros using List.reverseRecOn with
  | nil =>
    rw [List.append_nil, List.rdropWhile_eq_self_iff]
    intro some zero
    exact final (by rw [List.getLast?_eq_getLast_of_ne_nil some, of_decide_eq_true zero])
  | append_singleton zeros z ih =>
    have last : z = 48 := trail z (by simp)
    rw [← List.append_assoc, List.rdropWhile_concat_pos _ _ _ (by simp [last]), ih fun b among => trail b (by simp [among])]

end Fraction

section Adjusted

theorem decimal_lead {n : Nat} (some : n ≠ 0) : (decimal n).head? ≠ .some 48 := by
  induction n using Nat.strong_induction_on with
  | _ n ih =>
    rw [decimal_split]
    split
    · rename_i small
      intro zero
      have digit := congrArg UInt8.toNat (Option.some.inj zero)
      rw [digit_ofNat (Nat.mod_lt n (by decide))] at digit
      have byte : (48 : UInt8).toNat = 48 := rfl
      omega
    · rename_i large
      have nonempty : decimal (n / 10) ≠ [] := by
        rw [decimal_split]
        simp
      rw [List.head?_append_of_ne_nil _ nonempty]
      exact ih (n / 10) (by omega) (by omega)

theorem decimal_zero_iff (n : Nat) : decimal n = [48] ↔ n = 0 := by
  constructor
  · intro zero
    have value := digitsValue_decimal n
    rw [zero] at value
    exact value.symm
  · rintro rfl
    decide

/-- Below one, the decimals are the digits behind enough zeros. -/
theorem canonicalDecimal_few {n d : Nat} (some : n ≠ 0) (few : (decimal n).length ≤ d) {kept zeros : Bytes}
    (parts : decimal n = kept ++ zeros) (trail : ∀ z ∈ zeros, z = 48) (final : kept.getLast? ≠ .some 48) :
    canonicalDecimal n d = ascii "0." ++ List.replicate (d - (decimal n).length) 48 ++ kept := by
  have positive : 0 < d := Nat.lt_of_lt_of_le (List.length_pos_iff.mpr (decimal_nonempty n)) few
  have below : n < 10 ^ d := (decimal_length_le positive).mp few
  have lead : ∀ b ∈ List.replicate (d - (decimal n).length) (48 : UInt8), b = 48 :=
    fun b among => List.eq_of_mem_replicate among
  have decimals : fraction n d = List.replicate (d - (decimal n).length) 48 ++ decimal n := by
    refine fraction_eq ?_ (by simp; omega) ?_
    · rw [List.all_append, replicate_digits, decimal_digits]
      rfl
    · rw [digitsValue_lead lead, digitsValue_decimal, Nat.mod_eq_of_lt below]
  have keeps : kept ≠ [] := by
    rintro rfl
    have value := digitsValue_decimal n
    rw [parts, List.nil_append, digitsValue_zeros trail] at value
    exact some value.symm
  have final' : (List.replicate (d - (decimal n).length) 48 ++ kept).getLast? ≠ .some 48 := by
    rw [List.getLast?_append_of_ne_nil _ keeps]
    exact final
  have cut : fraction n d = (List.replicate (d - (decimal n).length) 48 ++ kept) ++ zeros := by
    rw [decimals, List.append_assoc, ← parts]
  unfold canonicalDecimal
  dsimp only
  rw [cut, rdropWhile_zeros trail final', Nat.div_eq_of_lt below, if_neg (by simp [keeps])]
  rfl

/-- From one on, the last digits are the decimals. -/
theorem canonicalDecimal_many {n d : Nat} (some : n ≠ 0) {whole kept zeros : Bytes}
    (parts : decimal n = whole ++ (kept ++ zeros)) (nonempty : whole ≠ []) (length : (kept ++ zeros).length = d)
    (trail : ∀ z ∈ zeros, z = 48) (final : kept.getLast? ≠ .some 48) :
    canonicalDecimal n d = whole ++ if kept = [] then [] else 46 :: kept := by
  have digits := decimal_digits n
  rw [parts, List.all_append, Bool.and_eq_true] at digits
  have value := digitsValue_decimal n
  rw [parts, digitsValue_append, length] at value
  have below := digitsValue_lt digits.2
  rw [length] at below
  have quotient : n / 10 ^ d = digitsValue whole := by
    rw [← value, Nat.mul_comm, Nat.mul_add_div (Nat.pow_pos (by decide)), Nat.div_eq_of_lt below, Nat.add_zero]
  have rest : digitsValue (kept ++ zeros) = n % 10 ^ d := by
    rw [← value, Nat.mul_comm, Nat.mul_add_mod, Nat.mod_eq_of_lt below]
  have lead : whole.head? ≠ .some 48 := by
    have first := decimal_lead some
    rw [parts, List.head?_append_of_ne_nil _ nonempty] at first
    exact first
  unfold canonicalDecimal
  rw [fraction_eq digits.2 length rest, rdropWhile_zeros trail final, quotient,
    decimal_digitsValue digits.1 nonempty lead]

theorem canonicalDecimal_zero (d : Nat) : canonicalDecimal 0 d = [48] := by
  have zeros : ∀ z ∈ fraction 0 d, z = 48 := by
    induction d with
    | zero => simp [fraction]
    | succ d ih =>
      intro z among
      rcases List.mem_cons.mp among with rfl | later
      · rw [Nat.zero_div]
        rfl
      · exact ih z later
  have none : (fraction 0 d).rdropWhile (· = 48) = [] :=
    List.rdropWhile_eq_nil_iff.mpr fun z among => decide_eq_true (zeros z among)
  unfold canonicalDecimal
  dsimp only
  rw [none, Nat.zero_div]
  rfl

/-- The text where the digits are not more than the decimals. -/
theorem trimZeros_few {n d : Nat} (some : n ≠ 0) (few : (decimal n).length ≤ d) :
    trimZeros (ascii "0." ++ List.replicate (d - (decimal n).length) 48 ++ decimal n)
      (ascii "0." ++ List.replicate (d - (decimal n).length) 48).length = canonicalDecimal n d := by
  have below : ascii "0." ++ List.replicate (d - (decimal n).length) 48 ≠ [] := by simp [ascii]
  obtain ⟨kept, zeros, parts, trail, final, cut⟩ := trimZeros_cases below (decimal_digits n)
  rw [canonicalDecimal_few some few parts trail final]
  rcases cut with ⟨none, same⟩ | ⟨none, -, -⟩ | ⟨-, same⟩
  · rw [same, parts, none, List.append_nil]
  · have value := digitsValue_decimal n
    rw [parts, none, List.nil_append, digitsValue_zeros trail] at value
    exact absurd value.symm some
  · rw [same]

/-- The text where the point falls between the digits. -/
theorem trimZeros_many {n d : Nat} (some : n ≠ 0) {whole body : Bytes} (split : decimal n = whole ++ body)
    (nonempty : whole ≠ []) (length : body.length = d) :
    trimZeros (whole ++ (if d ≠ 0 then ascii "." else []) ++ body) (whole ++ if d ≠ 0 then ascii "." else []).length =
      canonicalDecimal n d := by
  have digits := decimal_digits n
  rw [split, List.all_append, Bool.and_eq_true] at digits
  rcases Nat.eq_zero_or_pos d with none | decimals
  · subst none
    have empty : body = [] := List.eq_nil_of_length_eq_zero length
    subst empty
    have text : canonicalDecimal n 0 = whole := by simp [canonicalDecimal, fraction, split]
    rw [text]
    simp [trimZeros, lastZeroOffset]
  rw [if_pos (by omega)]
  have lead : whole ++ ascii "." ≠ [] := by simp [nonempty]
  obtain ⟨kept, zeros, rfl, trail, final, cut⟩ := trimZeros_cases lead digits.2
  rw [canonicalDecimal_many some split nonempty length trail final]
  rcases cut with ⟨none, same⟩ | ⟨none, -, same⟩ | ⟨points, same⟩
  · subst none
    have keeps : kept ≠ [] := by
      rintro rfl
      rw [List.append_nil, List.length_nil] at length
      omega
    rw [same, if_neg keeps, List.append_nil, List.append_assoc]
    rfl
  · rw [same, none, if_pos rfl, List.append_nil]
    exact List.dropLast_concat
  · have keeps : kept ≠ [] := fun none => points none List.getLast_concat
    rw [same, if_neg keeps, List.append_assoc]
    rfl

/-- **`adjustDecimals` leaves the canonical text of a number, exactly where its buffer has room.** -/
theorem adjustDecimals_decimal (n length d : Nat) :
    adjustDecimals (decimal n) length d =
      if AdjustRoom n length d then some (canonicalDecimal n d) else none := by
  by_cases zero : n = 0
  · subst zero
    rw [adjustDecimals, if_pos ((decimal_zero_iff 0).mpr rfl), canonicalDecimal_zero]
    by_cases small : length < 2
    · rw [if_pos small, if_neg (by rw [adjustRoom_zero]; omega)]
    · rw [if_neg small, if_pos (by rw [adjustRoom_zero]; omega)]
  have other : decimal n ≠ [48] := fun same => zero ((decimal_zero_iff n).mp same)
  rw [adjustDecimals, if_neg other]
  split
  · rename_i few
    dsimp only
    by_cases small : length < (decimal n).length + 1 + 2 + (d - (decimal n).length)
    · rw [if_pos small, if_neg (by rw [adjustRoom_iff zero]; omega)]
    · have room : AdjustRoom n length d := by
        rw [adjustRoom_iff zero]
        omega
      rw [if_neg small, if_pos room, trimZeros_few zero few]
  · rename_i many
    dsimp only
    by_cases small : length < (decimal n).length + 1 + 1
    · rw [if_pos small, if_neg (by rw [adjustRoom_iff zero]; omega)]
    · have room : AdjustRoom n length d := by
        rw [adjustRoom_iff zero]
        omega
      have whole : (decimal n).take ((decimal n).length - d) ≠ [] := by
        rw [← List.length_pos_iff, List.length_take]
        omega
      have behind : ((decimal n).drop ((decimal n).length - d)).length = d := by
        rw [List.length_drop]
        omega
      rw [if_neg small, if_pos room, trimZeros_many zero (List.take_append_drop _ _).symm whole behind]

end Adjusted

section Injective

theorem canonicalDecimal_reads (n d : Nat) :
    ∃ m p, readDecimal (canonicalDecimal n d) = some (m, p) ∧ m * 10 ^ d = n * 10 ^ p := by
  have room : AdjustRoom n ((decimal n).length + d + 3) d := by
    unfold AdjustRoom
    split <;> omega
  have adjusted := adjustDecimals_decimal n ((decimal n).length + d + 3) d
  rw [if_pos room] at adjusted
  obtain ⟨m, p, reads, scaled⟩ := adjustDecimals_reads (decimal_digits n) adjusted
  rw [digitsValue_decimal] at scaled
  exact ⟨m, p, reads, scaled⟩

/-- Two numbers with one text are the same. -/
theorem canonicalDecimal_inj {n m d : Nat} (same : canonicalDecimal n d = canonicalDecimal m d) : n = m := by
  obtain ⟨v, p, reads, scaled⟩ := canonicalDecimal_reads n d
  obtain ⟨v', p', reads', scaled'⟩ := canonicalDecimal_reads m d
  rw [same, reads'] at reads
  obtain ⟨rfl, rfl⟩ := Prod.mk.inj (Option.some.inj reads)
  have positive : 0 < 10 ^ p' := Nat.pow_pos (by decide)
  exact Nat.eq_of_mul_eq_mul_right positive (scaled.symm.trans scaled')

theorem canonicalDecimal_length {n length d : Nat} (room : AdjustRoom n length d) :
    (canonicalDecimal n d).length + 1 ≤ length := by
  have adjusted := adjustDecimals_decimal n length d
  rw [if_pos room] at adjusted
  exact (adjustDecimals_length adjusted).1

theorem canonicalDecimal_nonzero (n d : Nat) : ∀ b ∈ canonicalDecimal n d, b ≠ 0 := by
  intro b among zero
  obtain ⟨m, p, reads, -⟩ := canonicalDecimal_reads n d
  rw [zero] at among
  rcases readDecimal_chars reads 0 among with digit | point
  · simp [isDigit] at digit
  · simp at point

end Injective

end TronLedger
