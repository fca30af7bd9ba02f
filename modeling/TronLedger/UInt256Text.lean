import TronLedger.UInt256Division
import TronLedger.Lib.Output

/-!
# Numbers as text, in memory

`tostring256` divides in place and writes through a pointer. What it leaves in the output is what
`UInt256.tostring` computes; here its indices are kept as well.

* `tostring256_refines`: it returns, with the verdict and the characters of `tostring`.
* `tostring_exact_iff`: it prints the number or fails inside its buffer, unless the digits fill the buffer.
-/

namespace TronLedger

open Place Output

/-- The `do` loop, on `rDiv`, `base` and `rMod`; `none` when it runs for more turns than it is given.
`stack` is what the locals of a division hold at first. -/
def digitLoop (fuel : Nat) (stack : Nat → DivLocals UInt256) (outLength : Nat) :
    Nat → Nat → UInt256 × UInt256 × UInt256 → Output → Option (Bool × Nat × Output)
  | 0, _, _, _ => none
  | turns + 1, offset, m, out =>
    if outLength - 1 < offset then some (false, offset, out)
    else
      match divmod256 fuel fst (snd.member fst) fst (snd.member snd) (stack offset) m with
      | none => none
      | some m =>
        let out := out.put offset (UInt256.hexDigits.getD (m.2.2.lower.lower.toNat % 256) 0)
        if m.1.isZero then some (true, offset + 1, out)
        else digitLoop fuel stack outLength turns (offset + 1) m out

/-- `tostring256` for an `outLength` of at least one. -/
def tostring256 (fuel : Nat) (stack : Nat → DivLocals UInt256) (number : UInt256) (baseParam outLength : Nat)
    (out : Output) : Option (Bool × Output) :=
  if baseParam < 2 ∨ 16 < baseParam then some (false, out)
  else
    match digitLoop fuel stack outLength 257 0 (number, ⟨.zero, ⟨0, UInt64.ofNat baseParam⟩⟩, .zero) out with
    | none => none
    | some (false, _, out) => some (false, out)
    | some (true, offset, out) => some (true, (out.put offset 0).reverseString offset)

/-- What the division in memory leaves is the division of the values. -/
theorem divmod256_value {M : Type} (l r retDiv retMod : Place M UInt256) {fuel : Nat} (locals : DivLocals UInt256) (m : M)
    (results : retDiv.Apart retMod) (dividend : l.SameOrApart retMod) (positive : 0 < (r.get m).toNat)
    (enough : 258 ≤ fuel) :
    divmod256 fuel l r retDiv retMod locals m =
      some (retMod.set ((l.get m).divmod (r.get m)).2 (retDiv.set ((l.get m).divmod (r.get m)).1 m)) := by
  obtain ⟨q, rest, quotient, remainder, ends⟩ :=
    limbs256.divmod_eq l r retDiv retMod locals m results dividend positive enough
  have values := UInt256.toNat_divmod (l.get m) (r.get m) positive
  rw [Prod.mk.injEq] at values
  rw [divmod256, ends, ← UInt256.toNat_inj.mp (values.1.trans quotient.symm),
    ← UInt256.toNat_inj.mp (values.2.trans remainder.symm)]

section Loop

variable {base : UInt256} (many : 2 ≤ base.toNat) (few : base.toNat ≤ 16) {fuel : Nat} (enough : 258 ≤ fuel)
  (stack : Nat → DivLocals UInt256)
include many few enough

/-- One turn: a digit more stands in the output. -/
theorem digitLoop_step (n r : UInt256) {outLength offset : Nat} (turns : Nat) (room : offset < outLength)
    (out : Output) :
    digitLoop fuel stack outLength (turns + 1) offset (n, base, r) out =
      if n.toNat < base.toNat then
        some (true, offset + 1, out.put offset (UInt8.ofNat (Nat.digitChar (n.toNat % base.toNat)).toNat))
      else digitLoop fuel stack outLength turns (offset + 1) ((n.divmod base).1, base, (n.divmod base).2)
        (out.put offset (UInt8.ofNat (Nat.digitChar (n.toNat % base.toNat)).toNat)) := by
  have divided := divmod256_value fst (snd.member fst) fst (snd.member snd) (stack offset) (n, base, r) (fst_apart_snd.member_right _) (.inr (fst_apart_snd.member_right _))
    (Nat.lt_of_lt_of_le Nat.two_pos many) enough
  have values := UInt256.toNat_divmod n base (Nat.lt_of_lt_of_le Nat.two_pos many)
  rw [Prod.mk.injEq] at values
  have zero_iff : (n.divmod base).1.isZero = true ↔ n.toNat < base.toNat := by
    rw [UInt256.isZero_iff, values.1, Nat.div_eq_zero_iff]
    omega
  rw [digitLoop, if_neg (by omega), divided, ← UInt256.digit_of_rest many few values.2]
  by_cases last : n.toNat < base.toNat
  · rw [if_pos last]
    exact if_pos (zero_iff.mpr last)
  · rw [if_neg last]
    exact if_neg fun zero => last (zero_iff.mp zero)

/-- **The loop leaves what the loop on texts leaves, inside its bound.** -/
theorem digitLoop_refines {outLength : Nat} (positive : 0 < outLength) (turns : Nat) (n r : UInt256) (acc : Bytes)
    {out : Output} (ends : (numeral base.toNat n.toNat).length ≤ turns) (below : acc.length ≤ outLength)
    (holds : out.Holds 0 acc.reverse) (within : out.Within outLength) :
    ∃ ok text out', UInt256.tostringLoop base outLength turns n acc = (ok, text) ∧
      digitLoop fuel stack outLength turns acc.length (n, base, r) out = some (ok, text.length, out') ∧
      out'.Within outLength ∧ text.length ≤ outLength ∧ out'.Holds 0 (if ok then text.reverse else text) := by
  induction turns generalizing n r acc out with
  | zero =>
    rw [numeral_split many] at ends
    simp at ends
  | succ turns ih =>
    rcases Nat.lt_or_eq_of_le below with room | full
    · have extended := holds.extend (UInt8.ofNat (Nat.digitChar (n.toNat % base.toNat)).toNat)
      rw [List.length_reverse, Nat.zero_add, ← List.reverse_cons] at extended
      have inside := within.put (b := UInt8.ofNat (Nat.digitChar (n.toNat % base.toNat)).toNat) room
      rw [UInt256.tostringLoop_step many few n room, digitLoop_step many few enough stack n r turns room out]
      by_cases last : n.toNat < base.toNat
      · rw [if_pos last, if_pos last]
        refine ⟨true, _, _, rfl, rfl, inside, ?_, extended⟩
        rw [List.length_cons]
        exact room
      · rw [if_neg last, if_neg last]
        have values := UInt256.toNat_divmod n base (Nat.lt_of_lt_of_le Nat.two_pos many)
        rw [Prod.mk.injEq] at values
        rw [numeral_split many, if_neg last, List.length_append, List.length_singleton, ← values.1] at ends
        exact ih _ _ _ (by omega) room extended inside
    · rw [UInt256.tostringLoop_full _ _ _ positive full, digitLoop, if_pos (by omega)]
      refine ⟨false, acc.reverse, out, rfl, ?_, within, ?_, holds⟩
      · rw [List.length_reverse]
      · rw [List.length_reverse]
        exact below

end Loop

section Text

variable {baseParam : Nat} (many : 2 ≤ baseParam) (few : baseParam ≤ 16) {outLength : Nat} (positive : 0 < outLength)
  {fuel : Nat} (enough : 258 ≤ fuel) (stack : Nat → DivLocals UInt256) (byte : Nat → UInt8) (number : UInt256)

theorem numeral_ne_nil {base : Nat} (n : Nat) (many : 2 ≤ base) : numeral base n ≠ [] := by
  rw [numeral_split many]
  exact List.append_ne_nil_of_right_ne_nil _ (List.cons_ne_nil _ _)

theorem digit_nonzero : ∀ d < 16, UInt8.ofNat (Nat.digitChar d).toNat ≠ 0 := by
  decide

include many few

theorem numeral_nonzero (n : Nat) : ∀ c ∈ numeral baseParam n, c ≠ 0 := by
  induction n using Nat.strong_induction_on with
  | _ n ih =>
    intro c among
    have digit := Nat.mod_lt n (Nat.lt_of_lt_of_le Nat.two_pos many)
    rw [numeral_split many, List.mem_append, List.mem_singleton] at among
    rcases among with front | rfl
    · split at front
      · exact absurd front List.not_mem_nil
      · exact ih (n / baseParam) (Nat.div_lt_self (by omega) many) c front
    · exact digit_nonzero _ (by omega)

include positive enough

/-- What the loop leaves is terminated and turned around where the verdict is positive. -/
theorem tostring256_refines :
    ∃ ok text out, number.tostring baseParam outLength = (ok, text) ∧
      tostring256 fuel stack number baseParam outLength (fresh byte) =
        some (ok, if ok then (out.put text.length 0).reverseString text.length else out) ∧
      out.Within outLength ∧ text.length ≤ outLength ∧ out.Holds 0 (if ok then text.reverse else text) := by
  have legal : ¬(baseParam < 2 ∨ 16 < baseParam) := by omega
  have value := UInt256.base_toNat few
  rw [UInt256.tostring, tostring256, if_neg legal, if_neg legal]
  generalize (⟨.zero, ⟨0, UInt64.ofNat baseParam⟩⟩ : UInt256) = base at value ⊢
  have bits := UInt256.numeral_length (many.trans_eq value.symm) number
  obtain ⟨ok, text, out, same, ends, left⟩ :=
    digitLoop_refines (many.trans_eq value.symm) (value.trans_le few) enough stack positive 257 number .zero
      [] (bits.trans (by decide)) (Nat.zero_le _) (holds_nil (fresh byte) 0) (within_fresh byte outLength)
  rw [List.length_nil] at ends
  refine ⟨ok, text, out, same, ?_, left⟩
  rw [ends]
  cases ok with
  | true => rfl
  | false => rfl

/-- Digits that fit, were it without their NUL, are written with it. -/
theorem tostring256_fits (fits : (numeral baseParam number.toNat).length ≤ outLength) :
    ∃ out, tostring256 fuel stack number baseParam outLength (fresh byte) = some (true, out) ∧
      out.HoldsString (numeral baseParam number.toNat) ∧ (numeral baseParam number.toNat).length ∈ out.written ∧
      ((numeral baseParam number.toNat).length < outLength → out.Within outLength) := by
  have length := List.length_pos_iff.mpr (numeral_ne_nil number.toNat many)
  have nonzero := numeral_nonzero many few number.toNat
  have printed := UInt256.tostring_numeral many few number fits
  obtain ⟨ok, text, out, same, ends, within, -, holds⟩ :=
    tostring256_refines many few positive enough stack byte number
  rw [printed, Prod.mk.injEq] at same
  obtain ⟨rfl, rfl⟩ := same
  rw [if_pos rfl] at ends holds
  generalize numeral baseParam number.toNat = digits at *
  have terminated := (holds.extend 0)
  rw [List.length_reverse, Nat.zero_add] at terminated
  have front : (out.put digits.length 0).Holds 0 digits.reverse := (holds_append.mp terminated).1
  have turned := front.reverseString (List.reverse_ne_nil_iff.mpr (List.length_pos_iff.mp length))
  rw [List.length_reverse, List.reverse_reverse] at turned
  refine ⟨_, ends, ⟨holds_append.mpr ⟨turned, ?_⟩, nonzero⟩, ?_, ?_⟩
  · intro i last
    rw [List.length_singleton, Nat.lt_one_iff] at last
    subst last
    rw [reverseString_behind (by omega) length, Nat.zero_add, Nat.add_zero, put_byte]
    rfl
  · exact written_reverseString (List.mem_cons_self ..)
  · intro room
    exact (within.put room).reverseString (Nat.le_of_lt room) length

/-- Digits that do not fit are refused. -/
theorem tostring256_long (long : outLength < (numeral baseParam number.toNat).length) :
    ∃ out, tostring256 fuel stack number baseParam outLength (fresh byte) = some (false, out) ∧
      out.Within outLength := by
  have refused := (UInt256.tostring_full many few number positive long).1
  obtain ⟨ok, text, out, same, ends, within, -⟩ := tostring256_refines many few positive enough stack byte number
  rw [same] at refused
  dsimp only at refused
  subst refused
  exact ⟨out, ends, within⟩

end Text

/-- The number as a string, or a refusal, in either case inside the output. -/
def PrintsOrRefuses (n base outLength : Nat) (result : Bool × Output) : Prop :=
  (result.1 = true ↔ (numeral base n).length + 1 ≤ outLength) ∧
    (result.1 = true → result.2.HoldsString (numeral base n)) ∧ result.2.Within outLength

/-- **Every number is printed or refused inside the output, unless its digits are as many as the output
has bytes.** Then the NUL is written behind it. -/
theorem tostring_exact_iff (number : UInt256) {baseParam outLength fuel : Nat} (many : 2 ≤ baseParam)
    (few : baseParam ≤ 16) (positive : 1 ≤ outLength) (enough : 258 ≤ fuel) (stack : Nat → DivLocals UInt256)
    (byte : Nat → UInt8) :
    (∃ result, tostring256 fuel stack number baseParam outLength (fresh byte) = some result ∧
      PrintsOrRefuses number.toNat baseParam outLength result) ↔
      (numeral baseParam number.toNat).length ≠ outLength := by
  by_cases fits : (numeral baseParam number.toNat).length ≤ outLength
  · obtain ⟨out, ends, holds, -, within⟩ := tostring256_fits many few positive enough stack byte number fits
    constructor
    · rintro ⟨result, ends', verdict, -⟩
      rw [ends, Option.some.injEq] at ends'
      subst ends'
      exact Nat.ne_of_lt (verdict.mp rfl)
    · intro other
      have room := Nat.lt_of_le_of_ne fits other
      exact ⟨_, ends, ⟨fun _ => room, fun _ => rfl⟩, fun _ => holds, within room⟩
  · have long := Nat.lt_of_not_le fits
    obtain ⟨out, ends, within⟩ := tostring256_long many few positive enough stack byte number long
    constructor
    · intro _ same
      exact fits (Nat.le_of_eq same)
    · intro _
      refine ⟨_, ends, ⟨?_, ?_⟩, ?_, within⟩
      · intro verdict
        exact absurd verdict Bool.false_ne_true
      · intro room
        exact absurd room (by omega)
      · intro verdict
        exact absurd verdict Bool.false_ne_true

/-- 10^49 has 50 digits, as many as the buffer of `check_swap_amount` has bytes. -/
def fiftyDigits : UInt256 := ⟨⟨0, 29387358770⟩, ⟨10278298888501128114, 17909126868192198656⟩⟩

theorem fiftyDigits_length : (numeral 10 fiftyDigits.toNat).length = 50 := by
  have value : fiftyDigits.toNat = 10 ^ 49 := by decide +kernel
  generalize fiftyDigits.toNat = n at value ⊢
  have most := (numeral_length_le (show 2 ≤ 10 by decide) (show 0 < 50 by decide)).mpr (show n < 10 ^ 50 by omega)
  have least := mt (numeral_length_le (show 2 ≤ 10 by decide) (show 0 < 49 by decide)).mp
    (show ¬n < 10 ^ 49 by omega)
  omega

/-- What the stack holds before a division. -/
def emptyStack : Nat → DivLocals UInt256 := fun _ => ⟨.zero, .zero, .zero, .zero, .zero⟩

theorem tostring_overruns :
    ∃ out, tostring256 258 emptyStack fiftyDigits 10 50 (fresh fun _ => 0) = some (true, out) ∧ 50 ∈ out.written ∧
      ¬PrintsOrRefuses fiftyDigits.toNat 10 50 (true, out) := by
  have length := fiftyDigits_length
  obtain ⟨out, ends, -, written, -⟩ := tostring256_fits (by decide) (by decide) (by decide) (Nat.le_refl 258) emptyStack
    (fun _ => 0) fiftyDigits (Nat.le_of_eq length)
  rw [length] at written
  refine ⟨out, ends, written, ?_⟩
  rintro ⟨-, -, within⟩
  exact absurd (within 50 written) (Nat.lt_irrefl 50)

/-- A hundred, for a buffer with room to spare. -/
theorem tostring_exact_iff_hundred :
    (∃ result, tostring256 258 emptyStack ⟨.zero, ⟨0, 100⟩⟩ 10 5 (fresh fun _ => 0) = some result ∧
      PrintsOrRefuses (⟨.zero, ⟨0, 100⟩⟩ : UInt256).toNat 10 5 result) ↔
      (numeral 10 (⟨.zero, ⟨0, 100⟩⟩ : UInt256).toNat).length ≠ 5 :=
  tostring_exact_iff _ (by decide) (by decide) (by decide) (by decide) _ _

end TronLedger
