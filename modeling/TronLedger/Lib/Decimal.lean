import TronLedger.Lib.Buffer
import Mathlib.Tactic.Ring

/-!
# Decimal texts

Digit strings and their values, and the reading of a decimal number with a point.

* A digit string is determined by its length and its value.
* `readDecimal` gives the digits of a number without its point, and how many stand behind it.
-/

namespace TronLedger

def isDigit (b : UInt8) : Bool := 48 ≤ b.toNat ∧ b.toNat ≤ 57

/-- The value of a digit string. -/
def digitsValue (bs : Bytes) : Nat := bs.foldl (fun acc b => acc * 10 + (b.toNat - 48)) 0

/-- Whole numbers and numbers with a point: the digits' value, and the number of decimals. -/
def readDecimal (text : Bytes) : Option (Nat × Nat) :=
  let whole := text.takeWhile isDigit
  if whole = [] then none
  else
    match text.dropWhile isDigit with
    | [] => some (digitsValue whole, 0)
    | point :: frac =>
      if point = 46 ∧ frac.all isDigit then some (digitsValue (whole ++ frac), frac.length)
      else none

/-- `text` is a decimal number; scaled by `sun` decimals it is `value`. -/
def ShowsAmount (text : Bytes) (sun : Nat) (value : Int) : Prop :=
  ∃ m p, readDecimal text = some (m, p) ∧ (m : Int) * 10 ^ sun = value * 10 ^ p

example : readDecimal (ascii "1.50") = some (150, 2) := by decide
example : readDecimal (ascii ".5") = none := by decide

section Values

theorem digitsValue_snoc (bs : Bytes) (b : UInt8) :
    digitsValue (bs ++ [b]) = digitsValue bs * 10 + (b.toNat - 48) := by
  simp [digitsValue]

theorem digitsValue_append (as bs : Bytes) :
    digitsValue (as ++ bs) = digitsValue as * 10 ^ bs.length + digitsValue bs := by
  induction bs using List.reverseRecOn with
  | nil => simp [digitsValue]
  | append_singleton bs b ih =>
    rw [← List.append_assoc, digitsValue_snoc, digitsValue_snoc, ih, List.length_append,
      List.length_singleton, Nat.pow_succ]
    ring

theorem digitsValue_zeros {bs : Bytes} (zeros : ∀ b ∈ bs, b = 48) : digitsValue bs = 0 := by
  induction bs using List.reverseRecOn with
  | nil => rfl
  | append_singleton bs b ih =>
    have last : b = 48 := zeros b (by simp)
    rw [digitsValue_snoc, ih fun c among => zeros c (by simp [among]), last]
    rfl

/-- Zeros in front do not count. -/
theorem digitsValue_lead {zeros bs : Bytes} (lead : ∀ b ∈ zeros, b = 48) :
    digitsValue (zeros ++ bs) = digitsValue bs := by
  rw [digitsValue_append, digitsValue_zeros lead, Nat.zero_mul, Nat.zero_add]

/-- Zeros behind the digits scale them. -/
theorem digitsValue_trail {bs zeros : Bytes} (trail : ∀ b ∈ zeros, b = 48) :
    digitsValue (bs ++ zeros) = digitsValue bs * 10 ^ zeros.length := by
  rw [digitsValue_append, digitsValue_zeros trail, Nat.add_zero]

/-- Digit strings of one length and one value are the same. -/
theorem digits_ext {as bs : Bytes} (ha : as.all isDigit = true) (hb : bs.all isDigit = true)
    (length : as.length = bs.length) (value : digitsValue as = digitsValue bs) : as = bs := by
  induction as using List.reverseRecOn generalizing bs with
  | nil => simpa using length.symm
  | append_singleton as a ih =>
    obtain ⟨cs, b, rfl⟩ : ∃ cs b, bs = cs ++ [b] :=
      ⟨bs.dropLast, bs.getLast (by rintro rfl; simp at length), (List.dropLast_append_getLast _).symm⟩
    simp only [List.all_append, List.all_cons, List.all_nil, Bool.and_true, Bool.and_eq_true] at ha hb
    have digit_a := ha.2
    have digit_b := hb.2
    simp only [isDigit, decide_eq_true_eq] at digit_a digit_b
    rw [digitsValue_snoc, digitsValue_snoc] at value
    have same : a = b := by
      refine UInt8.toNat_inj.mp ?_
      omega
    rw [same, ih ha.1 hb.1 (by simpa using length) (by omega)]

theorem digitsValue_lt {bs : Bytes} (digits : bs.all isDigit = true) :
    digitsValue bs < 10 ^ bs.length := by
  induction bs using List.reverseRecOn with
  | nil => decide
  | append_singleton bs b ih =>
    simp only [List.all_append, List.all_cons, List.all_nil, Bool.and_true, Bool.and_eq_true] at digits
    have digit := digits.2
    simp only [isDigit, decide_eq_true_eq] at digit
    have := ih digits.1
    rw [digitsValue_snoc, List.length_append, List.length_singleton, Nat.pow_succ]
    omega

end Values

section Reading

variable {whole frac : Bytes}

theorem readDecimal_whole (some : whole ≠ []) (digits : whole.all isDigit = true) :
    readDecimal whole = .some (digitsValue whole, 0) := by
  have all : ∀ b ∈ whole, isDigit b = true := List.all_eq_true.mp digits
  have taken : whole.takeWhile isDigit = whole := List.takeWhile_eq_self_iff.mpr all
  have dropped : whole.dropWhile isDigit = [] := List.dropWhile_eq_nil_iff.mpr all
  simp [readDecimal, taken, dropped, some]

theorem readDecimal_point (some : whole ≠ []) (digits : whole.all isDigit = true)
    (decimals : frac.all isDigit = true) :
    readDecimal (whole ++ 46 :: frac) = .some (digitsValue (whole ++ frac), frac.length) := by
  have all : ∀ b ∈ whole, isDigit b = true := List.all_eq_true.mp digits
  have point : isDigit 46 = false := by decide
  have taken : (whole ++ 46 :: frac).takeWhile isDigit = whole := by
    rw [List.takeWhile_append_of_pos all, List.takeWhile_cons_of_neg (by simp [point]), List.append_nil]
  have dropped : (whole ++ 46 :: frac).dropWhile isDigit = 46 :: frac := by
    rw [List.dropWhile_append_of_pos all, List.dropWhile_cons_of_neg (by simp [point])]
  simp only [readDecimal, taken, dropped, if_neg some, decimals, and_self, if_true]

/-- What reads as a number has digits and a point only. -/
theorem readDecimal_chars {text : Bytes} {m p : Nat} (reads : readDecimal text = .some (m, p)) :
    ∀ c ∈ text, isDigit c = true ∨ c = 46 := by
  intro c among
  rw [← List.takeWhile_append_dropWhile (p := isDigit) (l := text)] at among
  simp only [readDecimal] at reads
  split at reads
  · simp at reads
  rcases List.mem_append.mp among with whole | rest
  · exact .inl (List.mem_takeWhile_imp whole)
  split at reads
  · rename_i none
    rw [none] at rest
    simp at rest
  · rename_i point frac parts
    split at reads
    · rename_i fraction
      rw [parts] at rest
      rcases List.mem_cons.mp rest with rfl | behind
      · exact .inr fraction.1
      · exact .inl (List.all_eq_true.mp fraction.2 c behind)
    · simp at reads

end Reading

end TronLedger
