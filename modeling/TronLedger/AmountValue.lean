import TronLedger.AmountText
import TronLedger.Lib.Decimal

/-!
# What the texts of amounts say

The number that `adjustDecimals` and `print_amount` write, read back from their text.

* `trimZeros_cases` says which zeros are cut.
* `adjustDecimals_reads` gives the number, `amountText_value` the digits of an amount.
-/

namespace TronLedger

/-- The zeros that end a text: where they begin, counted from `i`, if any were found. -/
theorem lastZeroOffset_spec (cs : Bytes) (i last : Nat) (positive : 0 < i) :
    ∃ kept zeros, cs = kept ++ zeros ∧ (∀ z ∈ zeros, z = 48) ∧ kept.getLast? ≠ some 48 ∧
      lastZeroOffset cs i last =
        if kept = [] then (if zeros = [] then last else if last = 0 then i else last)
        else if zeros = [] then 0 else i + kept.length := by
  induction cs generalizing i last with
  | nil => exact ⟨[], [], rfl, by simp, by simp, by simp [lastZeroOffset]⟩
  | cons c cs ih =>
    unfold lastZeroOffset
    by_cases zero : c = 48
    · rw [if_pos zero]
      obtain ⟨kept, zeros, rfl, trail, final, offset⟩ := ih (i + 1) (if last = 0 then i else last) (by omega)
      rw [offset]
      by_cases none : kept = []
      · refine ⟨[], c :: zeros, by simp [none], ?_, by simp, ?_⟩
        · intro z among
          rcases List.mem_cons.mp among with rfl | later
          · exact zero
          · exact trail z later
        · have nonzero : (if last = 0 then i else last) ≠ 0 := by split <;> omega
          simp [none, nonzero]
      · refine ⟨c :: kept, zeros, rfl, trail, ?_, ?_⟩
        · rw [List.getLast?_cons_of_ne_nil none]
          exact final
        · simp only [if_neg none, List.cons_ne_nil, if_false, List.length_cons]
          split <;> omega
    · rw [if_neg zero]
      obtain ⟨kept, zeros, rfl, trail, final, offset⟩ := ih (i + 1) 0 (by omega)
      rw [offset]
      refine ⟨c :: kept, zeros, rfl, trail, ?_, ?_⟩
      · by_cases none : kept = []
        · simp [none, zero]
        · rw [List.getLast?_cons_of_ne_nil none]
          exact final
      by_cases none : kept = []
      · simp [none]
      · simp only [if_neg none, List.cons_ne_nil, if_false, List.length_cons]
        split <;> omega

/-- The zeros that end `body` are cut, and a point that is left without decimals. -/
theorem trimZeros_cases {lead body : Bytes} (some : lead ≠ []) (digits : body.all isDigit = true) :
    ∃ kept zeros, body = kept ++ zeros ∧ (∀ z ∈ zeros, z = 48) ∧ kept.getLast? ≠ .some 48 ∧
      ((zeros = [] ∧ trimZeros (lead ++ body) lead.length = lead ++ body) ∨
        (kept = [] ∧ lead.getLast some = 46 ∧ trimZeros (lead ++ body) lead.length = lead.dropLast) ∨
        ((kept = [] → lead.getLast some ≠ 46) ∧
          trimZeros (lead ++ body) lead.length = lead ++ kept)) := by
  have positive : 0 < lead.length := List.length_pos_iff.mpr some
  obtain ⟨kept, zeros, rfl, trail, final, offset⟩ := lastZeroOffset_spec body lead.length 0 positive
  refine ⟨kept, zeros, rfl, trail, final, ?_⟩
  have behind : (lead ++ (kept ++ zeros)).drop lead.length = kept ++ zeros := List.drop_left' rfl
  simp only [trimZeros, behind]
  by_cases noZeros : zeros = []
  · have none : lastZeroOffset (kept ++ zeros) lead.length 0 = 0 := by
      rw [offset]
      simp [noZeros]
    exact .inl ⟨noZeros, by rw [if_pos none]⟩
  have last : lastZeroOffset (kept ++ zeros) lead.length 0 = (lead ++ kept).length := by
    rw [offset, List.length_append]
    by_cases none : kept = []
    · simp [none, noZeros]
    · simp [none, noZeros]
  rw [last, if_neg (by simp [some])]
  have cut : (lead ++ (kept ++ zeros)).take (lead ++ kept).length = lead ++ kept := by
    rw [← List.append_assoc]
    exact List.take_left' rfl
  by_cases none : kept = []
  · subst none
    have final : (lead ++ ([] ++ zeros)).getD ((lead ++ []).length - 1) 0 = lead.getLast some := by
      rw [List.append_nil, List.getD_eq_getElem?_getD, List.getElem?_append_left (by omega),
        List.getLast_eq_getElem, List.getElem?_eq_getElem (by omega), Option.getD_some]
    rw [final]
    by_cases point : lead.getLast some = 46
    · rw [if_pos point]
      refine .inr (.inl ⟨rfl, point, ?_⟩)
      rw [List.append_nil, List.take_append_of_le_length (by omega), List.dropLast_eq_take]
    · rw [if_neg point, cut]
      exact .inr (.inr ⟨fun _ => point, rfl⟩)
  · have final : (lead ++ (kept ++ zeros)).getD ((lead ++ kept).length - 1) 0 = kept.getLast none := by
      have room : 0 < kept.length := List.length_pos_iff.mpr none
      rw [List.getD_eq_getElem?_getD, ← List.append_assoc, List.getElem?_append_left (by simp; omega),
        List.getElem?_append_right (by simp; omega), List.getLast_eq_getElem,
        List.getElem?_eq_getElem (by simp; omega), Option.getD_some]
      congr 1
      simp only [List.length_append]
      omega
    have digit : kept.getLast none ≠ 46 := by
      intro point
      have among := List.all_eq_true.mp digits (kept.getLast none) (by simp)
      rw [point] at among
      exact absurd among (by decide)
    rw [final, if_neg digit, cut]
    exact .inr (.inr ⟨fun h => absurd h none, rfl⟩)

theorem trimZeros_length (text : Bytes) (start : Nat) : (trimZeros text start).length ≤ text.length := by
  unfold trimZeros
  dsimp only
  split_ifs <;> simp

theorem replicate_digits (n : Nat) : (List.replicate n (48 : UInt8)).all isDigit = true :=
  List.all_eq_true.mpr fun b among => by rw [List.eq_of_mem_replicate among]; decide

/-- A number below one: its decimals follow "0.". -/
theorem readDecimal_fraction {frac : Bytes} (digits : frac.all isDigit = true) :
    readDecimal (ascii "0." ++ frac) = some (digitsValue frac, frac.length) := by
  have one : ([48] : Bytes) ≠ [] := by simp
  have reads := readDecimal_point one (by decide) digits
  have lead : ∀ b ∈ ([48] : Bytes), b = 48 := by simp
  rw [digitsValue_lead lead] at reads
  exact reads

/-- The number written is the value of the digits, scaled. -/
theorem adjustDecimals_reads {src text : Bytes} {length decimals : Nat}
    (digits : src.all isDigit = true) (adjusted : adjustDecimals src length decimals = some text) :
    ∃ m p, readDecimal text = some (m, p) ∧ m * 10 ^ decimals = digitsValue src * 10 ^ p := by
  unfold adjustDecimals at adjusted
  split at adjusted
  · rename_i zero
    split at adjusted
    · simp at adjusted
    · obtain rfl := Option.some.inj adjusted
      exact ⟨0, 0, by decide, by rw [zero]; simp [digitsValue]⟩
  split at adjusted
  · -- fewer digits than decimals: zeros are put in front
    rename_i few
    dsimp only at adjusted
    split at adjusted
    · simp at adjusted
    obtain rfl := Option.some.inj adjusted
    generalize pad : decimals - src.length = delta
    have scale : decimals = delta + src.length := by omega
    have zeros : ∀ b ∈ List.replicate delta (48 : UInt8), b = 48 :=
      fun b among => List.eq_of_mem_replicate among
    have below : ascii "0." ++ List.replicate delta 48 ≠ [] := by simp [ascii]
    obtain ⟨kept, trail, rfl, trailing, -, cut⟩ := trimZeros_cases below digits
    rw [List.length_append] at scale
    rcases cut with ⟨rfl, same⟩ | ⟨rfl, point, same⟩ | ⟨-, same⟩
    · rw [same, List.append_assoc]
      have all : (List.replicate delta 48 ++ (kept ++ [])).all isDigit = true := by
        rw [List.all_append, replicate_digits, Bool.true_and]
        exact digits
      refine ⟨_, _, readDecimal_fraction all, ?_⟩
      rw [digitsValue_lead zeros, scale]
      simp
    · have none : delta = 0 := by
        by_contra some
        obtain ⟨n, rfl⟩ : ∃ n, delta = n + 1 := ⟨delta - 1, by omega⟩
        simp [List.replicate_succ', ← List.append_assoc] at point
      subst none
      refine ⟨0, 0, ?_, ?_⟩
      · rw [same]
        decide
      · rw [List.nil_append, digitsValue_zeros trailing]
        simp
    · rw [same, List.append_assoc]
      simp only [List.all_append, Bool.and_eq_true] at digits
      have all : (List.replicate delta 48 ++ kept).all isDigit = true := by
        rw [List.all_append, replicate_digits, Bool.true_and]
        exact digits.1
      refine ⟨_, _, readDecimal_fraction all, ?_⟩
      rw [digitsValue_lead zeros, digitsValue_trail trailing, scale, List.length_append,
        List.length_replicate, pow_add, pow_add, pow_add]
      ring
  · -- the point falls between the digits
    rename_i many
    dsimp only at adjusted
    split at adjusted
    · simp at adjusted
    obtain rfl := Option.some.inj adjusted
    generalize before : src.take (src.length - decimals) = whole
    generalize behind : src.drop (src.length - decimals) = body
    have parts : src = whole ++ body := by rw [← before, ← behind, List.take_append_drop]
    have some : whole ≠ [] := by
      intro none
      have := congrArg List.length before
      rw [none, List.length_take, List.length_nil] at this
      omega
    have scale : decimals = body.length := by
      rw [← behind, List.length_drop]
      omega
    rw [parts, List.all_append, Bool.and_eq_true] at digits
    rw [parts]
    by_cases noDecimals : decimals = 0
    · have empty : body = [] := List.eq_nil_of_length_eq_zero (by omega)
      subst empty
      refine ⟨digitsValue whole, 0, ?_, by simp [noDecimals]⟩
      rw [if_neg (by simp [noDecimals]), List.append_nil, List.append_nil]
      have same : trimZeros whole whole.length = whole := by
        simp [trimZeros, lastZeroOffset]
      rw [same]
      exact readDecimal_whole some digits.1
    rw [if_pos noDecimals]
    have lead_eq : whole ++ ascii "." = whole ++ [46] := rfl
    have pointed : whole ++ ascii "." ≠ [] := by simp [some]
    obtain ⟨kept, trail, rfl, trailing, -, cut⟩ := trimZeros_cases pointed digits.2
    rw [List.length_append] at scale
    rcases cut with ⟨rfl, same⟩ | ⟨rfl, point, same⟩ | ⟨-, same⟩
    · rw [same, lead_eq, List.append_assoc, List.singleton_append]
      refine ⟨_, _, readDecimal_point some digits.1 digits.2, ?_⟩
      rw [scale]
      simp
    · refine ⟨digitsValue whole, 0, ?_, ?_⟩
      · rw [same, lead_eq, List.dropLast_concat]
        exact readDecimal_whole some digits.1
      · rw [List.nil_append, digitsValue_trail trailing, scale]
        simp
    · rw [same, lead_eq, List.append_assoc, List.singleton_append]
      simp only [List.all_append, Bool.and_eq_true] at digits
      refine ⟨_, _, readDecimal_point some digits.1 digits.2.1, ?_⟩
      rw [← List.append_assoc, digitsValue_trail trailing, scale, pow_add]
      ring

/-- The text is not longer than what the buffer is checked for. -/
theorem adjustDecimals_length {src text : Bytes} {length decimals : Nat}
    (adjusted : adjustDecimals src length decimals = some text) :
    text.length + 1 ≤ length ∧ text.length ≤ max (src.length + 1) (decimals + 2) := by
  unfold adjustDecimals at adjusted
  split at adjusted
  · split at adjusted
    · simp at adjusted
    · obtain rfl := Option.some.inj adjusted
      simp only [List.length_singleton]
      omega
  split at adjusted
  · dsimp only at adjusted
    split at adjusted
    · simp at adjusted
    · obtain rfl := Option.some.inj adjusted
      have bound := trimZeros_length (ascii "0." ++ List.replicate (decimals - src.length) 48 ++ src)
        (ascii "0." ++ List.replicate (decimals - src.length) 48).length
      have two : (ascii "0.").length = 2 := rfl
      simp only [List.length_append, List.length_replicate, two] at bound ⊢
      omega
  · dsimp only at adjusted
    split at adjusted
    · simp at adjusted
    · obtain rfl := Option.some.inj adjusted
      have bound := trimZeros_length
        (src.take (src.length - decimals) ++ (if decimals ≠ 0 then ascii "." else []) ++
          src.drop (src.length - decimals))
        (src.take (src.length - decimals) ++ (if decimals ≠ 0 then ascii "." else [])).length
      have one : (if decimals ≠ 0 then ascii "." else []).length ≤ 1 := by split <;> decide
      simp only [List.length_append, List.length_take, List.length_drop] at bound one ⊢
      omega

/-- A text is left where the buffer has room. -/
theorem adjustDecimals_some {src : Bytes} {length decimals : Nat} (room : src.length + 2 ≤ length)
    (room' : decimals + 3 ≤ length) : ∃ text, adjustDecimals src length decimals = some text := by
  unfold adjustDecimals
  split
  · rw [if_neg (by omega)]
    exact ⟨_, rfl⟩
  split
  · dsimp only
    rw [if_neg (by omega)]
    exact ⟨_, rfl⟩
  · dsimp only
    rw [if_neg (by omega)]
    exact ⟨_, rfl⟩

/-- Without decimals the digits are left as they are. -/
theorem adjustDecimals_zero {src : Bytes} {length : Nat} (some : src ≠ []) (room : src.length + 2 ≤ length) :
    adjustDecimals src length 0 = .some src := by
  unfold adjustDecimals
  have positive : 0 < src.length := List.length_pos_iff.mpr some
  split
  · rename_i zero
    rw [if_neg (by omega), zero]
  rw [if_neg (by omega)]
  dsimp only
  rw [if_neg (by omega)]
  simp [trimZeros, lastZeroOffset]

/-- The unsigned reading of a signed number. -/
theorem toUInt64_toNat (x : Int64) :
    (x.toUInt64.toNat : Int) = if x.toInt < 0 then x.toInt + 2 ^ 64 else x.toInt := by
  have value : x.toInt = if 2 * x.toUInt64.toNat < 2 ^ 64 then (x.toUInt64.toNat : Int)
      else (x.toUInt64.toNat : Int) - 2 ^ 64 := BitVec.toInt_eq_toNat_cond x.toBitVec
  have bound := x.toUInt64.toNat_lt
  split at value <;> split <;> omega

section Amounts

variable {amount : UInt64}

theorem amountDigits_spec (amount : UInt64) (n : Nat) (small : n ≤ 20) :
    (amountDigits amount n (UInt64.ofNat (10 ^ (n - 1)))).all isDigit = true ∧
      (amountDigits amount n (UInt64.ofNat (10 ^ (n - 1)))).length = n ∧
      digitsValue (amountDigits amount n (UInt64.ofNat (10 ^ (n - 1)))) = amount.toNat % 10 ^ n := by
  induction n with
  | zero => exact ⟨rfl, rfl, by simp [amountDigits, digitsValue, Nat.mod_one]⟩
  | succ n ih =>
    obtain ⟨digits, length, value⟩ := ih (by omega)
    have base : (UInt64.ofNat (10 ^ n)).toNat = 10 ^ n := by
      have : 10 ^ n ≤ 10 ^ 19 := Nat.pow_le_pow_right (by decide) (by omega)
      rw [UInt64.toNat_ofNat', Nat.mod_eq_of_lt (by omega)]
    have digit : (48 + (amount / UInt64.ofNat (10 ^ n) % 10).toUInt8).toNat =
        48 + amount.toNat / 10 ^ n % 10 := by
      rw [UInt8.toNat_add, UInt64.toNat_toUInt8, UInt64.toNat_mod, UInt64.toNat_div, base]
      have small := Nat.mod_lt (amount.toNat / 10 ^ n) (show 0 < 10 by decide)
      have ten : (10 : UInt64).toNat = 10 := rfl
      have zero : (48 : UInt8).toNat = 48 := rfl
      rw [ten, zero]
      omega
    have next : n = 0 ∨ UInt64.ofNat (10 ^ n) / 10 = UInt64.ofNat (10 ^ (n - 1)) := by
      rcases Nat.eq_zero_or_pos n with zero | positive
      · exact .inl zero
      · refine .inr (UInt64.toNat_inj.mp ?_)
        have : 10 ^ (n - 1) ≤ 10 ^ 19 := Nat.pow_le_pow_right (by decide) (by omega)
        rw [UInt64.toNat_div, base, UInt64.toNat_ofNat', Nat.mod_eq_of_lt (by omega)]
        obtain ⟨m, rfl⟩ : ∃ m, n = m + 1 := ⟨n - 1, by omega⟩
        rw [Nat.pow_succ]
        exact Nat.mul_div_cancel _ (by decide)
    have rest : amountDigits amount n (UInt64.ofNat (10 ^ n) / 10) =
        amountDigits amount n (UInt64.ofNat (10 ^ (n - 1))) := by
      rcases next with rfl | same
      · rfl
      · rw [same]
    simp only [Nat.add_sub_cancel, amountDigits, rest]
    refine ⟨?_, by simp [length], ?_⟩
    · rw [List.all_cons, digits, Bool.and_true]
      simp only [isDigit, digit, decide_eq_true_eq]
      omega
    · rw [← List.singleton_append, digitsValue_append, length, value]
      have head : digitsValue [48 + (amount / UInt64.ofNat (10 ^ n) % 10).toUInt8] =
          amount.toNat / 10 ^ n % 10 := by
        simp only [digitsValue, List.foldl_cons, List.foldl_nil, digit]
        omega
      rw [head, Nat.pow_succ]
      have := Nat.mod_mul_right_div_self amount.toNat (10 ^ n) 10
      have split := Nat.div_add_mod (amount.toNat % (10 ^ n * 10)) (10 ^ n)
      rw [Nat.mod_mul_right_div_self, Nat.mod_mul_right_mod] at split
      rw [← split]
      ring

/-- The digits of an amount. -/
theorem amountText_value (amount : UInt64) :
    (amountText amount).all isDigit = true ∧ digitsValue (amountText amount) = amount.toNat := by
  unfold amountText
  split
  · rename_i positive
    obtain ⟨m, digits, lo, hi⟩ := amountBase_spec amount 20 0
      (UInt64.lt_iff_toNat_lt.mp positive) (by omega)
    have digits' : amountBase amount 20 1 0 = (UInt64.ofNat (10 ^ m), m) := digits
    have small := pow_lt_of_le lo
    obtain ⟨all, -, value⟩ := amountDigits_spec amount (m + 1) (by omega)
    rw [digits']
    refine ⟨all, ?_⟩
    rw [Nat.add_sub_cancel] at value
    rw [value, Nat.mod_eq_of_lt hi]
  · rename_i none
    have zero : amount.toNat = 0 := by
      rw [UInt64.lt_iff_toNat_lt] at none
      have : (0 : UInt64).toNat = 0 := rfl
      omega
    exact ⟨rfl, by rw [zero]; rfl⟩

/-- An amount that is not zero is written as its decimal. -/
theorem amountText_eq (positive : 0 < amount.toNat) : amountText amount = decimal amount.toNat := by
  obtain ⟨digits, value⟩ := amountText_value amount
  have positive' : 0 < amount := UInt64.lt_iff_toNat_lt.mpr positive
  obtain ⟨m, base, lo, hi⟩ := amountBase_spec amount 20 0 positive (by omega)
  have base' : amountBase amount 20 1 0 = (UInt64.ofNat (10 ^ m), m) := base
  have small := pow_lt_of_le lo
  have head : (amountText amount).head? = some (48 + (amount / UInt64.ofNat (10 ^ m) % 10).toUInt8) := by
    rw [amountText, if_pos positive', base']
    rfl
  have scale : (UInt64.ofNat (10 ^ m)).toNat = 10 ^ m := by
    have : 10 ^ m ≤ 10 ^ 19 := Nat.pow_le_pow_right (by decide) (by omega)
    rw [UInt64.toNat_ofNat', Nat.mod_eq_of_lt (by omega)]
  have first : 0 < amount.toNat / 10 ^ m ∧ amount.toNat / 10 ^ m < 10 := by
    have pos : 0 < 10 ^ m := Nat.pow_pos (by decide)
    refine ⟨Nat.div_pos lo pos, (Nat.div_lt_iff_lt_mul pos).mpr ?_⟩
    rw [Nat.mul_comm, ← Nat.pow_succ]
    exact hi
  have lead : (amountText amount).head? ≠ some 48 := by
    rw [head]
    intro zero
    have zero := congrArg UInt8.toNat (Option.some.inj zero)
    rw [UInt8.toNat_add, UInt64.toNat_toUInt8, UInt64.toNat_mod, UInt64.toNat_div, scale] at zero
    have ten : (10 : UInt64).toNat = 10 := rfl
    have c : (48 : UInt8).toNat = 48 := rfl
    rw [ten, c] at zero
    omega
  have nonempty : amountText amount ≠ [] := by
    intro none
    rw [none] at head
    simp at head
  rw [← decimal_digitsValue digits nonempty lead, value]

end Amounts

end TronLedger
