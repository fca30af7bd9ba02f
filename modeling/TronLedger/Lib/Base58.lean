import TronLedger.Lib.Buffer
import Mathlib.Data.Nat.Digits.Lemmas

/-!
# Base58

The text of a byte string: its big-endian number in base 58, with a `1` for every zero byte in
front. Byte strings of one length have different texts.
-/

namespace TronLedger.Base58

def alphabet : Bytes := ascii "123456789ABCDEFGHJKLMNPQRSTUVWXYZabcdefghijkmnopqrstuvwxyz"

/-- The digits of `value`, most significant first, in front of `out`. -/
def digits : Nat → Nat → Bytes → Bytes
  | 0, _, out => out
  | fuel + 1, value, out =>
    if value = 0 then out else digits fuel (value / 58) (alphabet.getD (value % 58) 0 :: out)

/-- A zero byte in front becomes a `1`. -/
def text (bs : Bytes) : Bytes :=
  List.replicate (bs.takeWhile (· = 0)).length 49 ++ digits (2 * bs.length) (beNat bs) []

/-- The text, where it fits in `room` characters. -/
def encode (bs : Bytes) (room : Nat) : Option Bytes :=
  if room < (text bs).length then none else some (text bs)

/-- The character of a digit. -/
def symbol (d : Nat) : UInt8 := alphabet.getD d 0

theorem symbol_idxOf : ∀ d < 58, alphabet.idxOf (symbol d) = d := by decide

theorem symbol_ne_zero : ∀ d < 58, symbol d ≠ 0 := by decide

theorem digits_eq {fuel value : Nat} (enough : value < 58 ^ fuel) (out : Bytes) :
    digits fuel value out = ((Nat.digits 58 value).reverse.map symbol) ++ out := by
  induction fuel generalizing value out with
  | zero =>
    obtain rfl : value = 0 := by simpa using enough
    simp [digits]
  | succ fuel ih =>
    unfold digits
    split
    · rename_i zero
      simp [zero]
    · rename_i positive
      have smaller : value / 58 < 58 ^ fuel := by
        rw [Nat.div_lt_iff_lt_mul (by decide), ← Nat.pow_succ]
        exact enough
      rw [ih smaller, Nat.digits_def' (by decide) (Nat.pos_of_ne_zero positive)]
      simp [symbol]

theorem beNat_fuel (bs : Bytes) : beNat bs < 58 ^ (2 * bs.length) := by
  refine (beNat_lt bs).trans_le ?_
  rw [Nat.pow_mul]
  exact Nat.pow_le_pow_left (by decide) _

theorem text_eq (bs : Bytes) : text bs =
    List.replicate (bs.takeWhile (· = 0)).length 49 ++ (Nat.digits 58 (beNat bs)).reverse.map symbol := by
  rw [text, digits_eq (beNat_fuel bs), List.append_nil]

theorem text_nonzero (bs : Bytes) : ∀ c ∈ text bs, c ≠ 0 := by
  intro c among
  rw [text_eq] at among
  rcases List.mem_append.mp among with lead | digit
  · rw [List.eq_of_mem_replicate lead]
    decide
  · obtain ⟨d, found, rfl⟩ := List.mem_map.mp digit
    exact symbol_ne_zero d (Nat.digits_lt_base (by decide) (List.mem_reverse.mp found))

/-- The number a text stands for. -/
def value (cs : Bytes) : Nat := Nat.ofDigits 58 (cs.reverse.map alphabet.idxOf)

theorem value_text (bs : Bytes) : value (text bs) = beNat bs := by
  have back : (Nat.digits 58 (beNat bs)).map (alphabet.idxOf ∘ symbol) = Nat.digits 58 (beNat bs) := by
    conv_rhs => rw [← List.map_id (Nat.digits 58 (beNat bs))]
    exact List.map_congr_left fun d among => symbol_idxOf d (Nat.digits_lt_base (by decide) among)
  have ones : alphabet.idxOf 49 = 0 := by decide
  rw [value, text_eq, List.reverse_append, List.map_append, ← List.map_reverse, List.reverse_reverse,
    List.map_map, back, List.reverse_replicate, List.map_replicate, ones, Nat.ofDigits_append,
    Nat.ofDigits_digits, Nat.ofDigits_replicate_zero, Nat.mul_zero, Nat.add_zero]

/-- **Different byte strings of one length have different texts.** -/
theorem text_inj {as bs : Bytes} (length : as.length = bs.length) (same : text as = text bs) :
    as = bs := by
  refine beNat_inj length ?_
  rw [← value_text, same, value_text]

/-- Without a zero byte in front, the size of the number decides the length. -/
theorem text_length {bs : Bytes} {k : Nat} (lead : bs.takeWhile (· = 0) = [])
    (above : 58 ^ k ≤ beNat bs) (below : beNat bs < 58 ^ (k + 1)) : (text bs).length = k + 1 := by
  have most := (Nat.digits_length_le_iff (by decide) (beNat bs)).mpr below
  have least := (Nat.lt_digits_length_iff (by decide) (beNat bs)).mpr above
  rw [text_eq, lead, List.length_append, List.length_map, List.length_reverse]
  simp only [List.length_nil, List.replicate_zero]
  omega

end TronLedger.Base58
