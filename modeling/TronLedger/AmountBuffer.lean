import TronLedger.CanonicalAmount
import TronLedger.Lib.Output

/-!
# Amounts in their buffers

`adjustDecimals` and `print_amount` with the bytes they write. What stands in the buffers is the text
that the functions on texts give.

* `adjustDecimals_exact_iff`: the target is kept to and the text is exact, unless its bound wraps.
* `printAmount_exact_iff`: the amount is printed wherever it fits, but for one length of the output.
-/

namespace TronLedger

open Output

/-- `target[offset++] = b` for each byte of a text; `offset` has 32 bits. -/
def appendAll : Bytes → Nat → Output → Nat × Output
  | [], offset, target => (offset, target)
  | b :: bs, offset, target => appendAll bs ((offset + 1) % 2 ^ 32) (target.put offset b)

/-- The last loop of `adjustDecimals`, from `target[i]` on. -/
def lastZeroIn (target : Output) : Nat → Nat → Nat → Nat
  | 0, _, last => last
  | turns + 1, i, last =>
    if target.byte i = 48 then lastZeroIn target turns (i + 1) (if last = 0 then i else last)
    else lastZeroIn target turns (i + 1) 0

/-- What both branches of `adjustDecimals` end with: the NUL, the loop and the cut. -/
def cutZeros (startOffset offset : Nat) (target : Output) : Output :=
  let target := target.put offset 0
  let last := lastZeroIn target (offset - startOffset) startOffset 0
  if last ≠ 0 then
    let target := target.put last 0
    if target.byte (last - 1) = 46 then target.put (last - 1) 0 else target
  else target

/-- `adjustDecimals`, with its bounds in 32 bits. -/
def adjustDecimalsInto (src : Bytes) (target : Output) (targetLength decimals : Nat) : Bool × Output :=
  if src = [48] then
    if targetLength < 2 then (false, target) else (true, (target.put 0 48).put 1 0)
  else if src.length ≤ decimals then
    let delta := decimals - src.length
    if targetLength < (src.length + 1 + 2 + delta) % 2 ^ 32 then (false, target)
    else
      let target := (target.put 0 48).put 1 46
      let (startOffset, target) := appendAll (List.replicate delta 48) 2 target
      let (offset, target) := appendAll src startOffset target
      (true, cutZeros startOffset offset target)
  else
    let delta := src.length - decimals
    if targetLength < (src.length + 1 + 1) % 2 ^ 32 then (false, target)
    else
      let (offset, target) := appendAll (src.take delta) 0 target
      let (startOffset, target) := appendAll (if decimals ≠ 0 then [46] else []) offset target
      let (offset, target) := appendAll (src.drop delta) startOffset target
      (true, cutZeros startOffset offset target)

/-- `print_amount`: the length it returns and the output; `none` where it throws `E_INCORRECT_LENGTH`. -/
def printAmountInto (amount : UInt64) (out : Output) (outlen : UInt32) (sun : Nat) : Option (Nat × Output) :=
  let (base, numDigits) :=
    if 0 < amount then
      let (base, n) := amountBase amount 20 1 0
      (base, n + 1)
    else (1, 0)
  if 19 < numDigits then none
  else
    let (adjusted, tmp2) := adjustDecimalsInto (amountDigits amount numDigits base) (fresh fun _ => 0) 25 sun
    if !adjusted then some (0, out.put 0 0)
    else
      let out :=
        if (tmp2.string 25).length < (outlen - 1).toNat then out.strlcpy (tmp2.string 25) outlen.toNat
        else out.put 0 0
      some ((out.string outlen.toNat).length % 2 ^ 16, out)

section Appended

theorem appendAll_eq (text : Bytes) (offset : Nat) (target : Output) (small : offset < 2 ^ 32)
    (room : offset + text.length ≤ 2 ^ 32) :
    appendAll text offset target = ((offset + text.length) % 2 ^ 32, target.putAll offset text) := by
  induction text generalizing offset target with
  | nil =>
    rw [appendAll, List.length_nil, Nat.add_zero, Nat.mod_eq_of_lt small]
    rfl
  | cons b bs ih =>
    rw [List.length_cons] at room ⊢
    rw [appendAll, putAll]
    cases bs with
    | nil => rfl
    | cons c cs =>
      rw [List.length_cons] at room
      rw [Nat.mod_eq_of_lt (by omega), ih _ _ (by omega) (by rw [List.length_cons]; omega), List.length_cons]
      congr 2
      omega

/-- Behind a text, with room to spare. -/
theorem appendAll_text {front : Bytes} {target : Output} {targetLength : Nat} (holds : target.Holds 0 front)
    (within : target.Within targetLength) (text : Bytes) (room : (front ++ text).length ≤ targetLength)
    (small : (front ++ text).length < 2 ^ 32) :
    ∃ out, appendAll text front.length target = ((front ++ text).length, out) ∧ out.Holds 0 (front ++ text) ∧
      out.Within targetLength := by
  rw [List.length_append] at room small ⊢
  refine ⟨target.putAll front.length text, ?_, holds.append text, within.putAll room⟩
  rw [appendAll_eq text front.length target (by omega) (by omega), Nat.mod_eq_of_lt small]

end Appended

section Cut

variable {target : Output} {lead body : Bytes}

theorem lastZeroIn_eq {start : Nat} (holds : target.Holds start body) (last : Nat) :
    lastZeroIn target body.length start last = lastZeroOffset body start last := by
  induction body generalizing start last with
  | nil => rfl
  | cons c cs ih =>
    have first := holds 0 (by simp)
    have rest : target.Holds (start + 1) cs := by
      rw [← List.singleton_append, holds_append] at holds
      exact holds.2
    rw [Nat.add_zero, List.getElem_cons_zero] at first
    rw [List.length_cons, lastZeroIn, lastZeroOffset, first]
    split
    · exact ih rest _
    · exact ih rest _

/-- Zeros to cut are found behind the start. -/
theorem lastZeroOffset_range (body : Bytes) (start : Nat) (positive : 0 < start) :
    lastZeroOffset body start 0 = 0 ∨
      0 < lastZeroOffset body start 0 ∧ lastZeroOffset body start 0 < start + body.length := by
  obtain ⟨kept, zeros, rfl, -, -, offset⟩ := lastZeroOffset_spec body start 0 positive
  rw [offset, List.length_append]
  by_cases none : zeros = []
  · left
    simp [none]
  · right
    have length := List.length_pos_iff.mpr none
    rw [if_neg none, if_neg none, if_pos rfl]
    split <;> omega

/-- **The end of `adjustDecimals` leaves the text without its zeros.** -/
theorem cutZeros_string {targetLength : Nat} (holds : target.Holds 0 (lead ++ body)) (start : lead ≠ [])
    (nonzero : ∀ c ∈ lead ++ body, c ≠ 0) (within : target.Within targetLength)
    (room : (lead ++ body).length < targetLength) :
    (cutZeros lead.length (lead ++ body).length target).HoldsString (trimZeros (lead ++ body) lead.length) ∧
      (cutZeros lead.length (lead ++ body).length target).Within targetLength := by
  have positive : 0 < lead.length := List.length_pos_iff.mpr start
  have ended := holds.cut (Nat.le_refl _) nonzero
  rw [List.take_length] at ended
  have inside : (target.put (lead ++ body).length 0).Within targetLength := within.put room
  have behind : (target.put (lead ++ body).length 0).Holds lead.length body := by
    have second := (holds_append.mp ended.holds).2
    rwa [Nat.zero_add] at second
  have turns : (lead ++ body).length - lead.length = body.length := by
    rw [List.length_append, Nat.add_sub_cancel_left]
  have found := lastZeroIn_eq behind 0
  have range := lastZeroOffset_range body lead.length positive
  unfold cutZeros trimZeros
  dsimp only
  rw [turns, found, List.drop_left' rfl]
  rw [← List.length_append] at range
  generalize (target.put (lead ++ body).length 0) = terminated at *
  generalize lastZeroOffset body lead.length 0 = last at *
  rcases range with none | ⟨some, last_lt⟩
  · rw [if_neg (not_not.mpr none), if_pos none]
    exact ⟨ended, inside⟩
  · have nonempty : last ≠ 0 := Nat.ne_of_gt some
    have cut := ended.holds.cut (Nat.le_of_lt last_lt) nonzero
    have inside' := inside.put (b := 0) (Nat.lt_trans last_lt room)
    have before : (terminated.put last 0).byte (last - 1) = (lead ++ body).getD (last - 1) 0 := by
      have same := ended.holds (last - 1) (by omega)
      rw [put_other _ _ (by omega), List.getD_eq_getElem?_getD, List.getElem?_eq_getElem (by omega), Option.getD_some]
      rwa [Nat.zero_add] at same
    rw [if_pos nonempty, if_neg nonempty, before]
    split
    · have length : ((lead ++ body).take last).length = last := by
        rw [List.length_take, Nat.min_eq_left (Nat.le_of_lt last_lt)]
      have shorter := cut.holds.cut (k := last - 1) (by omega) cut.2
      rw [List.take_take, Nat.min_eq_left (by omega)] at shorter
      exact ⟨shorter, inside'.put (by omega)⟩
    · exact ⟨cut, inside'⟩

end Cut

section Refines

variable {src : Bytes} {target : Output} {targetLength decimals : Nat}

theorem lead_nonzero (delta : Nat) : ∀ c ∈ ascii "0." ++ List.replicate delta 48, c ≠ 0 := by
  intro c among
  rcases List.mem_append.mp among with first | zeros
  · rintro rfl
    exact absurd first (by decide)
  · rw [List.eq_of_mem_replicate zeros]
    decide

theorem point_nonzero (decimals : Nat) : ∀ c ∈ (if decimals ≠ 0 then ascii "." else []), c ≠ 0 := by
  split
  · decide +kernel
  · exact fun c among => absurd among List.not_mem_nil

/-- The branch that puts zeros in front. -/
theorem adjust_few (nonzero : ∀ c ∈ src, c ≠ 0) (few : src.length ≤ decimals) (most : decimals ≤ 255)
    (room : src.length + 1 + 2 + (decimals - src.length) ≤ targetLength) (within : target.Within targetLength)
    (other : src ≠ [48]) :
    ∃ out, adjustDecimalsInto src target targetLength decimals = (true, out) ∧
      out.HoldsString (trimZeros (ascii "0." ++ List.replicate (decimals - src.length) 48 ++ src)
        (ascii "0." ++ List.replicate (decimals - src.length) 48).length) ∧ out.Within targetLength := by
  have point : ascii "0." = [48, 46] := by decide
  have start : (target.put 0 48).put 1 46 = target.putAll 0 (ascii "0.") := by rw [point]; rfl
  have two : (ascii "0.").length = 2 := by rw [point]; rfl
  have length : (ascii "0." ++ List.replicate (decimals - src.length) 48).length = 2 + (decimals - src.length) := by
    rw [List.length_append, List.length_replicate, two]
  have length' : (ascii "0." ++ List.replicate (decimals - src.length) 48 ++ src).length =
      2 + (decimals - src.length) + src.length := by rw [List.length_append, length]
  obtain ⟨zeros, zeros_eq, held, within⟩ := appendAll_text (target.putAll_holds 0 (ascii "0."))
    (within.putAll (by omega)) (List.replicate (decimals - src.length) 48) (by omega) (by omega)
  obtain ⟨digits, digits_eq, held, within⟩ := appendAll_text held within src (by omega) (by omega)
  have characters : ∀ c ∈ ascii "0." ++ List.replicate (decimals - src.length) 48 ++ src, c ≠ 0 := by
    intro c among
    rcases List.mem_append.mp among with lead | digit
    · exact lead_nonzero _ c lead
    · exact nonzero c digit
  refine ⟨_, ?_, cutZeros_string held ?_ characters within (by omega)⟩
  · rw [adjustDecimalsInto, if_neg other, if_pos few]
    dsimp only
    rw [Nat.mod_eq_of_lt (by omega), if_neg (by omega), start, ← two, zeros_eq]
    dsimp only
    rw [digits_eq]
  · rw [point]
    exact List.cons_ne_nil _ _

/-- The branch that puts the point between the digits; its bound is met or has wrapped. -/
theorem adjust_many (nonzero : ∀ c ∈ src, c ≠ 0) (many : decimals < src.length)
    (passes : (src.length + 1 + 1) % 2 ^ 32 ≤ targetLength)
    (short : src.length + (if decimals ≠ 0 then ascii "." else []).length < 2 ^ 32)
    (room : src.length + (if decimals ≠ 0 then ascii "." else []).length < targetLength)
    (within : target.Within targetLength) (other : src ≠ [48]) :
    ∃ out, adjustDecimalsInto src target targetLength decimals = (true, out) ∧
      out.HoldsString (trimZeros (src.take (src.length - decimals) ++ (if decimals ≠ 0 then ascii "." else []) ++
          src.drop (src.length - decimals))
        (src.take (src.length - decimals) ++ if decimals ≠ 0 then ascii "." else []).length) ∧
      out.Within targetLength := by
  have point : (if decimals ≠ 0 then ([46] : Bytes) else []) = if decimals ≠ 0 then ascii "." else [] := rfl
  have characters : ∀ c ∈ src.take (src.length - decimals) ++ (if decimals ≠ 0 then ascii "." else []) ++
      src.drop (src.length - decimals), c ≠ 0 := by
    intro c among
    rcases List.mem_append.mp among with lead | digit
    · rcases List.mem_append.mp lead with digit | dot
      · exact nonzero c (List.mem_of_mem_take digit)
      · exact point_nonzero decimals c dot
    · exact nonzero c (List.mem_of_mem_drop digit)
  generalize (if decimals ≠ 0 then ascii "." else []) = dot at *
  have whole : (src.take (src.length - decimals)).length = src.length - decimals := by
    rw [List.length_take]
    omega
  have behind : (src.drop (src.length - decimals)).length = decimals := by
    rw [List.length_drop]
    omega
  have length : (src.take (src.length - decimals) ++ dot).length = src.length - decimals + dot.length := by
    rw [List.length_append, whole]
  have length' : (src.take (src.length - decimals) ++ dot ++ src.drop (src.length - decimals)).length =
      src.length + dot.length := by
    rw [List.length_append, length, behind]
    omega
  obtain ⟨front, front_eq, held, within⟩ := appendAll_text (holds_nil target 0) within
    (src.take (src.length - decimals)) (by rw [List.nil_append]; omega) (by rw [List.nil_append]; omega)
  rw [List.nil_append, List.length_nil] at front_eq
  rw [List.nil_append] at held
  obtain ⟨pointed, pointed_eq, held, within⟩ := appendAll_text held within dot (by omega) (by omega)
  obtain ⟨digits, digits_eq, held, within⟩ := appendAll_text held within (src.drop (src.length - decimals))
    (by omega) (by omega)
  refine ⟨_, ?_, cutZeros_string held ?_ characters within (by omega)⟩
  · rw [adjustDecimalsInto, if_neg other, if_neg (Nat.not_le_of_lt many)]
    dsimp only
    rw [if_neg (Nat.not_lt_of_le passes), front_eq]
    dsimp only
    rw [point, pointed_eq]
    dsimp only
    rw [digits_eq]
  · intro none
    have empty := congrArg List.length none
    rw [length, List.length_nil] at empty
    omega

/-- **What the function on texts gives stands in the target, or nothing is written.** -/
theorem adjustDecimalsInto_refines (nonzero : ∀ c ∈ src, c ≠ 0) (short : src.length + 2 < 2 ^ 32)
    (most : decimals ≤ 255) (within : target.Within targetLength) :
    (adjustDecimals src targetLength decimals = none ∧
        adjustDecimalsInto src target targetLength decimals = (false, target)) ∨
      ∃ text out, adjustDecimals src targetLength decimals = some text ∧
        adjustDecimalsInto src target targetLength decimals = (true, out) ∧ out.HoldsString text ∧
        out.Within targetLength := by
  by_cases zero : src = [48]
  · rw [adjustDecimals, adjustDecimalsInto, if_pos zero, if_pos zero]
    by_cases small : targetLength < 2
    · rw [if_pos small, if_pos small]
      exact .inl ⟨rfl, rfl⟩
    · rw [if_neg small, if_neg small]
      refine .inr ⟨_, _, rfl, rfl, ⟨?_, by decide +kernel⟩, (within.put (by omega)).put (by omega)⟩
      exact target.putAll_holds 0 [48, 0]
  by_cases few : src.length ≤ decimals
  · by_cases small : targetLength < src.length + 1 + 2 + (decimals - src.length)
    · left
      rw [adjustDecimals, adjustDecimalsInto, if_neg zero, if_neg zero, if_pos few, if_pos few]
      dsimp only
      rw [Nat.mod_eq_of_lt (by omega), if_pos small, if_pos small]
      exact ⟨rfl, rfl⟩
    · right
      obtain ⟨out, ends, left⟩ := adjust_few nonzero few most (Nat.le_of_not_lt small) within zero
      refine ⟨_, out, ?_, ends, left⟩
      rw [adjustDecimals, if_neg zero, if_pos few]
      exact if_neg small
  · by_cases small : targetLength < src.length + 1 + 1
    · left
      rw [adjustDecimals, adjustDecimalsInto, if_neg zero, if_neg zero, if_neg few, if_neg few]
      dsimp only
      rw [Nat.mod_eq_of_lt (by omega), if_pos small, if_pos small]
      exact ⟨rfl, rfl⟩
    · right
      have one : (if decimals ≠ 0 then ascii "." else []).length ≤ 1 := by
        split <;> decide
      obtain ⟨out, ends, left⟩ := adjust_many nonzero (Nat.lt_of_not_le few)
        (by rw [Nat.mod_eq_of_lt (by omega)]; omega) (by omega) (by omega) within zero
      refine ⟨_, out, ?_, ends, left⟩
      rw [adjustDecimals, if_neg zero, if_neg few]
      exact if_neg small

end Refines

section Printed

variable {amount : UInt64} {outlen : UInt32} {sun : Nat} (byte : Nat → UInt8)

/-- **What `print_amount` leaves: the text where it is shorter than the output less one, else nothing.** -/
theorem printAmountInto_left (some : 1 ≤ amount.toNat) (small : amount.toNat < 10 ^ 19) (few : sun ≤ 18)
    (positive : 1 ≤ outlen.toNat) :
    ∃ text out, printAmountInto amount (fresh byte) outlen sun = .some (text.length, out) ∧
      out.HoldsString text ∧ out.Within outlen.toNat ∧
      text = if (canonicalDecimal amount.toNat sun).length + 1 < outlen.toNat then canonicalDecimal amount.toNat sun
        else [] := by
  have digits : (decimal amount.toNat).length ≤ 19 := (decimal_length_le (by decide)).mpr small
  have room : AdjustRoom amount.toNat 25 sun := by
    rw [adjustRoom_iff (Nat.ne_of_gt some)]
    omega
  have short := canonicalDecimal_length room
  have adjusted := adjustDecimals_decimal amount.toNat 25 sun
  rw [if_pos room] at adjusted
  obtain ⟨base, numDigits, parts, many, source⟩ := amountDigits_text amount
  rw [amountText_eq some] at source
  obtain ⟨none, -⟩ | ⟨text, tmp2, same, ends, holds, -⟩ :=
    adjustDecimalsInto_refines (decimal_nonzero amount.toNat) (by omega) (show sun ≤ 255 by omega)
      (within_fresh (fun _ => 0) 25)
  · rw [adjusted] at none
    exact absurd none (Option.some_ne_none _)
  rw [adjusted, Option.some.injEq] at same
  subst same
  have read : tmp2.string 25 = canonicalDecimal amount.toNat sun := holds.string (by omega)
  have less : (outlen - 1).toNat = outlen.toNat - 1 := UInt32.toNat_sub_of_le _ _ (UInt32.le_iff_toNat_le.mpr positive)
  unfold printAmountInto
  dsimp only
  rw [parts]
  dsimp only
  rw [if_neg (by omega), source, ends]
  simp only [Bool.not_true, Bool.false_eq_true, if_false]
  rw [read, less]
  by_cases fits : (canonicalDecimal amount.toNat sun).length + 1 < outlen.toNat
  · have left := strlcpy_string holds.2 (by omega)
      (within_fresh byte outlen.toNat)
    rw [if_pos (by omega)]
    refine ⟨_, _, ?_, left.1, left.2, by rw [if_pos fits]⟩
    rw [left.1.string (by omega), Nat.mod_eq_of_lt (by omega)]
  · have left := put_zero_string (within_fresh byte outlen.toNat) positive
    rw [if_neg (by omega)]
    refine ⟨_, _, ?_, left.1, left.2, by rw [if_neg fits]⟩
    rw [left.1.string (by rw [List.length_nil]; omega)]
    rfl

/-- What `print_amount` is asked to leave. -/
def amountLeft (amount sun outlen : Nat) : Bytes :=
  if (canonicalDecimal amount sun).length + 1 ≤ outlen then canonicalDecimal amount sun else []

/-- The text wherever it fits with its NUL, inside the output, and its length. -/
def PrintsAmount (amount sun outlen : Nat) (result : Nat × Output) : Prop :=
  result.2.Within outlen ∧ result.2.HoldsString (amountLeft amount sun outlen) ∧
    result.1 = (amountLeft amount sun outlen).length

theorem canonicalDecimal_ne_nil (n d : Nat) : canonicalDecimal n d ≠ [] := by
  unfold canonicalDecimal
  exact List.append_ne_nil_of_left_ne_nil (decimal_nonempty _) _

/-- **The amount is printed wherever it fits, unless it fits exactly.** -/
theorem printAmount_exact_iff (some : 1 ≤ amount.toNat) (small : amount.toNat < 10 ^ 19) (few : sun ≤ 18)
    (positive : 1 ≤ outlen.toNat) :
    (∃ result, printAmountInto amount (fresh byte) outlen sun = .some result ∧
      PrintsAmount amount.toNat sun outlen.toNat result) ↔
      outlen.toNat ≠ (canonicalDecimal amount.toNat sun).length + 1 := by
  obtain ⟨text, out, ends, holds, within, left⟩ := printAmountInto_left byte some small few positive
  have nonempty := List.length_pos_iff.mpr (canonicalDecimal_ne_nil amount.toNat sun)
  constructor
  · rintro ⟨result, ends', -, -, length⟩ exact'
    rw [ends, Option.some.injEq] at ends'
    subst ends'
    rw [amountLeft, if_pos (by omega), left, if_neg (by omega), List.length_nil] at length
    omega
  · intro other
    have wanted : text = amountLeft amount.toNat sun outlen.toNat := by
      rw [left, amountLeft]
      by_cases fits : (canonicalDecimal amount.toNat sun).length + 1 < outlen.toNat
      · rw [if_pos fits, if_pos (Nat.le_of_lt fits)]
      · rw [if_neg fits, if_neg (by omega)]
    exact ⟨_, ends, within, by rw [← wanted]; exact holds, by rw [← wanted]⟩

end Printed

/-- 1.5 and its NUL are four bytes; an output of four bytes is left empty. -/
theorem printAmount_refuses_exact :
    ∃ out, printAmountInto 1500000 (fresh fun _ => 0) 4 6 = some (0, out) ∧ out.HoldsString [] ∧
      canonicalDecimal 1500000 6 = ascii "1.5" ∧ ¬PrintsAmount 1500000 6 4 (0, out) := by
  have text : canonicalDecimal 1500000 6 = ascii "1.5" := by decide
  have length : (ascii "1.5").length = 3 := by decide
  have amount : (1500000 : UInt64).toNat = 1500000 := rfl
  have outlen : (4 : UInt32).toNat = 4 := rfl
  obtain ⟨left, out, ends, holds, -, same⟩ := printAmountInto_left (fun _ => 0)
    (show 1 ≤ (1500000 : UInt64).toNat by decide) (by decide) (show 6 ≤ 18 by decide)
    (show 1 ≤ (4 : UInt32).toNat by decide)
  rw [amount, outlen, text, length, if_neg (by decide)] at same
  subst same
  refine ⟨out, ends, holds, text, ?_⟩
  rintro ⟨-, -, wrong⟩
  rw [amountLeft, text, length, if_pos (by decide), length] at wrong
  have zero : 0 = 3 := wrong
  omega

theorem printAmount_exact_iff_roomy :
    (∃ result, printAmountInto 1500000 (fresh fun _ => 0) 32 6 = some result ∧
      PrintsAmount (1500000 : UInt64).toNat 6 (32 : UInt32).toNat result) ↔
      (32 : UInt32).toNat ≠ (canonicalDecimal (1500000 : UInt64).toNat 6).length + 1 :=
  printAmount_exact_iff (fun _ => 0) (by decide) (by decide) (by decide) (by decide)

end TronLedger
