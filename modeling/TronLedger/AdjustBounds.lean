import TronLedger.AmountBuffer

/-!
# The bounds of adjustDecimals

`adjustDecimals` on the digit strings it is meant for. Its second bound is counted in 32 bits and
wraps for strings of 2^32 - 2 digits and more.

* `canonicalDecimal_canonical`: the text it leaves has no zero and no point too many.
* `adjustDecimals_exact_iff`: it is exact inside its target, as long as the bound does not wrap.
-/

namespace TronLedger

open Output

/-- "0", or digits without a zero in front. -/
structure CanonicalDigits (s : Bytes) : Prop where
  digits : s.all isDigit = true
  nonempty : s ≠ []
  lead : s.head? = some 48 → s = [48]

/-- A decimal without a zero or a point that it does not need. -/
def CanonicalText (text : Bytes) : Prop :=
  ∃ whole frac, text = whole ++ (if frac = [] then [] else 46 :: frac) ∧ CanonicalDigits whole ∧
    frac.all isDigit = true ∧ frac.getLast? ≠ some 48

/-- What is asked of `adjustDecimals`: it keeps to its target, leaves it alone where it refuses, takes
what surely fits, and leaves the number with its decimals as a canonical text. -/
structure AdjustsExactly (s : Bytes) (decimals targetLength : Nat) (target : Output) (result : Bool × Output) :
    Prop where
  inside : result.2.Within targetLength
  untouched : result.1 = false → result.2 = target
  succeeds : max s.length decimals + 3 ≤ targetLength → result.1 = true
  exact : result.1 = true → ∃ text m p, result.2.HoldsString text ∧ CanonicalText text ∧
    readDecimal text = some (m, p) ∧ m * 10 ^ decimals = digitsValue s * 10 ^ p

/-- The bound does not wrap, or its wrapping does no harm. -/
def BoundHolds (s : Bytes) (decimals targetLength : Nat) : Prop :=
  s.length + 2 < 2 ^ 32 ∨ s.length + 2 = 2 ^ 32 ∧ decimals = 0 ∧ targetLength + 1 = 2 ^ 32 ∨
    s.length + 1 = 2 ^ 32 ∧ targetLength = 0

section Canonical

theorem decimal_canonical (n : Nat) : CanonicalDigits (decimal n) where
  digits := decimal_digits n
  nonempty := decimal_nonempty n
  lead zero := by
    by_cases none : n = 0
    · rw [none]
      decide
    · exact absurd zero (decimal_lead none)

/-- A canonical digit string is the decimal of its value. -/
theorem CanonicalDigits.eq_decimal {s : Bytes} (canonical : CanonicalDigits s) : s = decimal (digitsValue s) := by
  by_cases zero : s.head? = some 48
  · rw [canonical.lead zero]
    decide
  · exact (decimal_digitsValue canonical.digits canonical.nonempty zero).symm

theorem canonicalDecimal_canonical (n d : Nat) : CanonicalText (canonicalDecimal n d) := by
  refine ⟨decimal (n / 10 ^ d), (fraction n d).rdropWhile (· = 48), rfl, decimal_canonical _, ?_, ?_⟩
  · rw [List.all_eq_true]
    intro c among
    exact List.all_eq_true.mp (fraction_digits n d) c ((List.rdropWhile_prefix _ _).subset among)
  · intro zero
    have nonempty : (fraction n d).rdropWhile (· = 48) ≠ [] := by
      intro none
      rw [none] at zero
      exact absurd zero (by decide)
    rw [List.getLast?_eq_getLast_of_ne_nil nonempty, Option.some.injEq] at zero
    exact List.rdropWhile_last_not _ _ nonempty (decide_eq_true zero)

end Canonical

section Wrapped

/-- The NUL and what was written before it. -/
theorem written_cutZeros {target : Output} {start offset k : Nat} (among : k ∈ offset :: target.written) :
    k ∈ (cutZeros start offset target).written := by
  unfold cutZeros
  dsimp only
  split_ifs
  · exact List.mem_cons_of_mem _ (List.mem_cons_of_mem _ among)
  · exact List.mem_cons_of_mem _ among
  · exact among

/-- A bound that wraps is passed, and something is written behind the target. -/
theorem adjustDecimals_wrapped {src : Bytes} {target : Output} {targetLength decimals : Nat}
    (wraps : 2 ^ 32 ≤ src.length + 2) (short : src.length < 2 ^ 32) (size : targetLength < 2 ^ 32)
    (most : decimals ≤ 255) (harm : ¬BoundHolds src decimals targetLength) :
    ¬(adjustDecimalsInto src target targetLength decimals).2.Within targetLength := by
  have other : src ≠ [48] := by
    rintro rfl
    rw [List.length_singleton] at wraps
    omega
  have passes : (src.length + 1 + 1) % 2 ^ 32 ≤ targetLength := by
    unfold BoundHolds at harm
    omega
  have one : decimals = 0 ∧ (if decimals ≠ 0 then ([46] : Bytes) else []).length = 0 ∨
      0 < decimals ∧ (if decimals ≠ 0 then ([46] : Bytes) else []).length = 1 := by
    rcases Nat.eq_zero_or_pos decimals with none | some
    · exact .inl ⟨none, by rw [if_neg (not_not.mpr none)]; rfl⟩
    · exact .inr ⟨some, by rw [if_pos (Nat.ne_of_gt some)]; rfl⟩
  have front := appendAll_eq (src.take (src.length - decimals)) 0 target (by decide) (by rw [List.length_take]; omega)
  rw [List.length_take, Nat.zero_add, Nat.min_eq_left (Nat.sub_le _ _),
    Nat.mod_eq_of_lt (Nat.lt_of_le_of_lt (Nat.sub_le _ _) short)] at front
  rw [adjustDecimalsInto, if_neg other, if_neg (by omega)]
  dsimp only
  rw [if_neg (Nat.not_lt_of_le passes), front]
  dsimp only
  generalize target.putAll 0 (src.take (src.length - decimals)) = whole
  generalize (if decimals ≠ 0 then ([46] : Bytes) else []) = dot at one ⊢
  have behind : (src.drop (src.length - decimals)).length = decimals := by
    rw [List.length_drop]
    omega
  have start : src.length - decimals + dot.length < 2 ^ 32 := by omega
  have dot_eq := appendAll_eq dot (src.length - decimals) whole (by omega) (by omega)
  have rest_eq := appendAll_eq (src.drop (src.length - decimals)) _ (whole.putAll (src.length - decimals) dot) start
    (by omega)
  rw [Nat.mod_eq_of_lt start] at dot_eq
  rw [dot_eq]
  dsimp only
  rw [rest_eq]
  dsimp only
  intro within
  by_cases turned : src.length + dot.length = 2 ^ 32
  · -- the NUL goes to the start again, but the last digit is behind every target
    have last := written_putAll (whole.putAll (src.length - decimals) dot) (src.length - decimals + dot.length)
      (show decimals - 1 < (src.drop (src.length - decimals)).length by omega)
    have inside := within _ (written_cutZeros (List.mem_cons_of_mem _ last))
    omega
  · have nul := within _ (written_cutZeros List.mem_cons_self)
    rw [behind, Nat.mod_eq_of_lt (by omega)] at nul
    unfold BoundHolds at harm
    omega

end Wrapped

section Exact

variable {s : Bytes} {decimals : Nat} {targetLength : Nat} {byte : Nat → UInt8}

/-- The text of the number is what is asked for. -/
theorem exact_of_canonical {out : Output}
    (holds : out.HoldsString (canonicalDecimal (digitsValue s) decimals)) :
    ∃ text m p, out.HoldsString text ∧ CanonicalText text ∧ readDecimal text = some (m, p) ∧
      m * 10 ^ decimals = digitsValue s * 10 ^ p := by
  obtain ⟨m, p, reads, scaled⟩ := canonicalDecimal_reads (digitsValue s) decimals
  exact ⟨_, m, p, holds, canonicalDecimal_canonical _ _, reads, scaled⟩

/-- Where nothing wraps, the text is the canonical decimal. -/
theorem adjustDecimals_left {target : Output} (canonical : CanonicalDigits s) (short : s.length + 2 < 2 ^ 32)
    (most : decimals ≤ 255) (within : target.Within targetLength) :
    ∃ ok out, adjustDecimalsInto s target targetLength decimals = (ok, out) ∧ out.Within targetLength ∧
      (ok = false → out = target) ∧ (max s.length decimals + 3 ≤ targetLength → ok = true) ∧
      (ok = true → out.HoldsString (canonicalDecimal (digitsValue s) decimals)) := by
  have digits := canonical.eq_decimal
  have nonzero : ∀ c ∈ s, c ≠ 0 := by
    rw [digits]
    exact decimal_nonzero _
  have adjusted := adjustDecimals_decimal (digitsValue s) targetLength decimals
  rw [← digits] at adjusted
  have refined := adjustDecimalsInto_refines nonzero short most within
  rw [adjusted] at refined
  rcases refined with ⟨none, ends⟩ | ⟨text, out, same, ends, holds, inside⟩
  · refine ⟨false, target, ends, within, fun _ => rfl, ?_, fun wrong => absurd wrong Bool.false_ne_true⟩
    intro room
    split at none
    · exact absurd none (Option.some_ne_none _)
    · rename_i refuses
      refine absurd ?_ refuses
      unfold AdjustRoom
      rw [← digits]
      split <;> omega
  · split at same
    · rw [Option.some.injEq] at same
      subst same
      exact ⟨true, out, ends, inside, fun wrong => absurd wrong.symm Bool.false_ne_true, fun _ => rfl, fun _ => holds⟩
    · exact absurd same.symm (Option.some_ne_none _)

/-- The bound wraps, but nothing is put behind the digits, and the target holds them just so. -/
theorem adjustDecimals_whole {target : Output} (canonical : CanonicalDigits s) (wraps : s.length + 2 = 2 ^ 32)
    (none : decimals = 0) (room : targetLength + 1 = 2 ^ 32) (within : target.Within targetLength) :
    ∃ out, adjustDecimalsInto s target targetLength decimals = (true, out) ∧ out.Within targetLength ∧
      out.HoldsString (canonicalDecimal (digitsValue s) decimals) := by
  have digits := canonical.eq_decimal
  have nonzero : ∀ c ∈ s, c ≠ 0 := by
    rw [digits]
    exact decimal_nonzero _
  have other : s ≠ [48] := by
    rintro rfl
    rw [List.length_singleton] at wraps
    omega
  have some : digitsValue s ≠ 0 := by
    intro zero
    rw [zero] at digits
    exact other digits
  have empty : (if decimals ≠ 0 then ascii "." else []).length = 0 := by
    rw [if_neg (not_not.mpr none)]
    rfl
  obtain ⟨out, ends, holds, inside⟩ := adjust_many nonzero
    (show decimals < s.length by omega) (show (s.length + 1 + 1) % 2 ^ 32 ≤ targetLength by omega) (by omega) (by omega)
    within other
  have behind : (s.drop (s.length - decimals)).length = decimals := by
    rw [List.length_drop]
    omega
  have whole : s.take (s.length - decimals) ≠ [] := by
    rw [← List.length_pos_iff, List.length_take]
    omega
  rw [trimZeros_many some (digits.symm.trans (List.take_append_drop _ _).symm) whole behind] at holds
  exact ⟨out, ends, inside, holds⟩

end Exact

/-- **`adjustDecimals` is exact inside its target if and only if its bound does not wrap, and where it does
not, two digit strings never get one text.** -/
theorem adjustDecimals_exact_iff (s : Bytes) (decimals : UInt8) (targetLength : UInt32) (byte : Nat → UInt8)
    (canonical : CanonicalDigits s) (short : s.length < 2 ^ 32) :
    (AdjustsExactly s decimals.toNat targetLength.toNat (fresh byte)
        (adjustDecimalsInto s (fresh byte) targetLength.toNat decimals.toNat) ↔
      BoundHolds s decimals.toNat targetLength.toNat) ∧
    ∀ (s' : Bytes) (targetLength' : UInt32) (byte' : Nat → UInt8) (out out' : Output) (text : Bytes),
      CanonicalDigits s' → s.length + 2 < 2 ^ 32 → s'.length + 2 < 2 ^ 32 →
      adjustDecimalsInto s (fresh byte) targetLength.toNat decimals.toNat = (true, out) → out.HoldsString text →
      adjustDecimalsInto s' (fresh byte') targetLength'.toNat decimals.toNat = (true, out') → out'.HoldsString text →
      s = s' := by
  have most : decimals.toNat ≤ 255 := Nat.le_of_lt_succ decimals.toNat_lt
  constructor
  · have size := targetLength.toNat_lt
    generalize decimals.toNat = d at *
    generalize targetLength.toNat = room at *
    constructor
    · intro exact'
      by_contra harm
      by_cases wraps : 2 ^ 32 ≤ s.length + 2
      · exact adjustDecimals_wrapped wraps short size most harm exact'.inside
      · exact harm (.inl (by omega))
    · rintro (plain | ⟨wraps, none, full⟩ | ⟨wraps, empty⟩)
      · obtain ⟨ok, out, ends, inside, untouched, succeeds, holds⟩ :=
          adjustDecimals_left canonical plain most (within_fresh byte room)
        rw [ends]
        exact ⟨inside, untouched, succeeds, fun done => exact_of_canonical (holds done)⟩
      · obtain ⟨out, ends, inside, holds⟩ := adjustDecimals_whole canonical wraps none full (within_fresh byte room)
        rw [ends]
        exact ⟨inside, fun wrong => absurd wrong.symm Bool.false_ne_true, fun _ => rfl,
          fun _ => exact_of_canonical holds⟩
      · have other : s ≠ [48] := by
          rintro rfl
          rw [List.length_singleton] at wraps
          omega
        have refuses : adjustDecimalsInto s (fresh byte) room d = (false, fresh byte) := by
          rw [adjustDecimalsInto, if_neg other, if_neg (by omega)]
          exact if_pos (by omega)
        rw [refuses]
        exact ⟨within_fresh byte room, fun _ => rfl, fun large => absurd large (by omega),
          fun wrong => absurd wrong Bool.false_ne_true⟩
  · intro s' targetLength' byte' out out' text canonical' short short' ends holds ends' holds'
    obtain ⟨_, _, same, -, -, -, left⟩ :=
      adjustDecimals_left canonical short most (within_fresh byte targetLength.toNat)
    obtain ⟨_, _, same', -, -, -, left'⟩ :=
      adjustDecimals_left canonical' short' most (within_fresh byte' targetLength'.toNat)
    rw [ends, Prod.mk.injEq] at same
    rw [ends', Prod.mk.injEq] at same'
    obtain ⟨rfl, rfl⟩ := same
    obtain ⟨rfl, rfl⟩ := same'
    have one := (holds.unique (left rfl)).symm.trans (holds'.unique (left' rfl))
    rw [canonical.eq_decimal, canonical'.eq_decimal, canonicalDecimal_inj one]

/-- The shortest string whose bound wraps, with every digit one. -/
def ones : Bytes := List.replicate 4294967294 49

theorem ones_length : ones.length = 4294967294 := List.length_replicate

theorem ones_canonical : CanonicalDigits ones where
  digits := List.all_eq_true.mpr fun c among => by rw [List.eq_of_mem_replicate among]; decide
  nonempty none := by
    have length := ones_length
    rw [none, List.length_nil] at length
    omega
  lead zero := by
    rw [ones, List.head?_replicate, if_neg (by omega)] at zero
    exact absurd zero (by decide)

theorem adjustDecimals_overruns :
    CanonicalDigits ones ∧ ones.length < 2 ^ 32 ∧
      ¬AdjustsExactly ones 0 4 (fresh fun _ => 0) (adjustDecimalsInto ones (fresh fun _ => 0) 4 0) := by
  have length := ones_length
  have canonical := ones_canonical
  generalize ones = s at *
  refine ⟨canonical, by omega, ?_⟩
  intro exact'
  refine adjustDecimals_wrapped (by omega) (by omega) (by decide) (by decide) ?_ exact'.inside
  unfold BoundHolds
  omega

/-- Two amounts in SUN get two texts. -/
theorem adjustDecimals_exact_iff_small :
    (AdjustsExactly (ascii "1500000") (6 : UInt8).toNat (32 : UInt32).toNat (fresh fun _ => 0)
        (adjustDecimalsInto (ascii "1500000") (fresh fun _ => 0) (32 : UInt32).toNat (6 : UInt8).toNat) ↔
      BoundHolds (ascii "1500000") (6 : UInt8).toNat (32 : UInt32).toNat) ∧
    ∃ text text', (adjustDecimalsInto (ascii "1500000") (fresh fun _ => 0) 32 6).2.HoldsString text ∧
      (adjustDecimalsInto (ascii "2500000") (fresh fun _ => 0) 32 6).2.HoldsString text' ∧ text ≠ text' := by
  have canonical : CanonicalDigits (ascii "1500000") := ⟨by decide, by decide, by decide⟩
  have canonical' : CanonicalDigits (ascii "2500000") := ⟨by decide, by decide, by decide⟩
  have bound : BoundHolds (ascii "1500000") (6 : UInt8).toNat (32 : UInt32).toNat := .inl (by decide)
  have bound' : BoundHolds (ascii "2500000") (6 : UInt8).toNat (32 : UInt32).toNat := .inl (by decide)
  obtain ⟨small, injective⟩ := adjustDecimals_exact_iff (ascii "1500000") 6 32 (fun _ => 0) canonical (by decide)
  have first := small.mpr bound
  have second := (adjustDecimals_exact_iff (ascii "2500000") 6 32 (fun _ => 0) canonical' (by decide)).1.mpr bound'
  have done := first.succeeds (by decide)
  have done' := second.succeeds (by decide)
  obtain ⟨text, -, -, holds, -⟩ := first.exact done
  obtain ⟨text', -, -, holds', -⟩ := second.exact done'
  refine ⟨small, text, text', holds, holds', fun same => ?_⟩
  have one : ascii "1500000" = ascii "2500000" :=
    injective (ascii "2500000") 32 (fun _ => 0) _ _ text canonical' (by decide) (by decide) (Prod.ext done rfl) holds
      (Prod.ext done' rfl) (same ▸ holds')
  exact absurd one (by decide)

end TronLedger
