import Mathlib.Data.Nat.Size
import Mathlib.Tactic.Ring

/-!
# Numbers in two halves

A number of `2 * w` bits is kept as two halves of `w` bits. An operation on the number is one on each
half, and something that passes from one half to the other: a carry, a borrow, the bits that are
shifted across.
-/

namespace TronLedger.Halves

/-- The number with the halves `hi` and `lo`. -/
def join (w hi lo : Nat) : Nat := hi * 2 ^ w + lo

@[simp] theorem join_zero (w lo : Nat) : join w 0 lo = lo := by
  rw [join, Nat.zero_mul, Nat.zero_add]

section Order

variable {w hi lo hi' lo' : Nat}

theorem join_div (low : lo < 2 ^ w) : join w hi lo / 2 ^ w = hi := by
  rw [join, Nat.add_comm, Nat.add_mul_div_right _ _ (Nat.two_pow_pos w), Nat.div_eq_of_lt low, Nat.zero_add]

theorem join_mod (low : lo < 2 ^ w) : join w hi lo % 2 ^ w = lo := by
  rw [join, Nat.mul_add_mod_self_right, Nat.mod_eq_of_lt low]

theorem join_bound (high : hi < 2 ^ w) (low : lo < 2 ^ w) : join w hi lo < 2 ^ (2 * w) := by
  have whole : 2 ^ (2 * w) = 2 ^ w * 2 ^ w := by rw [two_mul, pow_add]
  have above : (hi + 1) * 2 ^ w ≤ 2 ^ w * 2 ^ w := Nat.mul_le_mul_right _ high
  rw [Nat.add_mul, Nat.one_mul] at above
  rw [join, whole]
  omega

theorem join_inj (low : lo < 2 ^ w) (low' : lo' < 2 ^ w) :
    join w hi lo = join w hi' lo' ↔ hi = hi' ∧ lo = lo' := by
  constructor
  · intro same
    have div : join w hi lo / 2 ^ w = hi := join_div low
    have mod : join w hi lo % 2 ^ w = lo := join_mod low
    rw [same, join_div low'] at div
    rw [same, join_mod low'] at mod
    exact ⟨div.symm, mod.symm⟩
  · rintro ⟨rfl, rfl⟩
    rfl

theorem join_lt_join (low : lo < 2 ^ w) (low' : lo' < 2 ^ w) :
    join w hi lo < join w hi' lo' ↔ hi < hi' ∨ hi = hi' ∧ lo < lo' := by
  unfold join
  rcases Nat.lt_trichotomy hi hi' with less | same | more
  · have above : (hi + 1) * 2 ^ w ≤ hi' * 2 ^ w := Nat.mul_le_mul_right _ less
    rw [Nat.add_mul, Nat.one_mul] at above
    exact ⟨fun _ => .inl less, fun _ => by omega⟩
  · subst same
    simp
  · have above : (hi' + 1) * 2 ^ w ≤ hi * 2 ^ w := Nat.mul_le_mul_right _ more
    rw [Nat.add_mul, Nat.one_mul] at above
    constructor
    · intro below
      omega
    · intro below
      omega

theorem join_eq_zero : join w hi lo = 0 ↔ hi = 0 ∧ lo = 0 := by
  have positive : 0 < 2 ^ w := Nat.two_pow_pos w
  rw [join, Nat.add_eq_zero_iff, Nat.mul_eq_zero]
  constructor
  · rintro ⟨high, low⟩
    exact ⟨high.resolve_right (by omega), low⟩
  · rintro ⟨high, low⟩
    exact ⟨.inl high, low⟩

end Order

section Arithmetic

variable {w hi lo hi' lo' : Nat}

/-- A number is cut to `2 * w` bits by cutting its high half. -/
theorem join_cut (hi : Nat) (low : lo < 2 ^ w) : join w hi lo % 2 ^ (2 * w) = join w (hi % 2 ^ w) lo := by
  have whole : 2 ^ (2 * w) = 2 ^ w * 2 ^ w := by rw [two_mul, pow_add]
  have parts : join w hi lo = 2 ^ (2 * w) * (hi / 2 ^ w) + join w (hi % 2 ^ w) lo := by
    have split := Nat.div_add_mod hi (2 ^ w)
    unfold join
    conv_lhs => rw [← split]
    rw [whole]
    ring
  rw [parts, Nat.mul_add_mod_self_left,
    Nat.mod_eq_of_lt (join_bound (Nat.mod_lt _ (Nat.two_pow_pos w)) low)]

theorem join_add (low : lo < 2 ^ w) (low' : lo' < 2 ^ w) :
    (join w hi lo + join w hi' lo') % 2 ^ (2 * w) =
      join w ((hi + hi' + if 2 ^ w ≤ lo + lo' then 1 else 0) % 2 ^ w) ((lo + lo') % 2 ^ w) := by
  have bound : (lo + lo') % 2 ^ w < 2 ^ w := Nat.mod_lt _ (Nat.two_pow_pos w)
  have carried : join w hi lo + join w hi' lo' =
      join w (hi + hi' + if 2 ^ w ≤ lo + lo' then 1 else 0) ((lo + lo') % 2 ^ w) := by
    unfold join
    split
    · rename_i carries
      rw [Nat.mod_eq_sub_mod carries, Nat.mod_eq_of_lt (by omega), Nat.add_mul, Nat.add_mul]
      omega
    · rename_i fits
      rw [Nat.mod_eq_of_lt (by omega), Nat.add_mul, Nat.add_mul]
      omega
  rw [carried, join_cut _ bound]

/-- What is borrowed by the low half is missing in the high one. -/
theorem join_sub (low : lo < 2 ^ w) (low' : lo' < 2 ^ w) (le : join w hi' lo' ≤ join w hi lo) :
    join w hi lo - join w hi' lo' =
      join w (hi - hi' - if lo < lo' then 1 else 0) (if lo < lo' then lo + 2 ^ w - lo' else lo - lo') := by
  have high : ¬join w hi lo < join w hi' lo' := by omega
  rw [join_lt_join low low'] at high
  unfold join
  split
  · rename_i borrows
    obtain ⟨d, rfl⟩ : ∃ d, hi = hi' + 1 + d := ⟨hi - hi' - 1, by omega⟩
    rw [show hi' + 1 + d - hi' - 1 = d by omega, Nat.add_mul, Nat.add_mul, Nat.one_mul]
    omega
  · rename_i enough
    obtain ⟨d, rfl⟩ : ∃ d, hi = hi' + d := ⟨hi - hi', by omega⟩
    rw [Nat.add_mul, Nat.add_sub_cancel_left, Nat.sub_zero]
    omega

end Arithmetic

section Shifts

variable {w hi lo v : Nat}

/-- The bits that a shift to the left moves across, and those that stay. -/
theorem join_mul (hi lo : Nat) (small : v ≤ w) :
    join w hi lo * 2 ^ v = join w (hi * 2 ^ v + lo / 2 ^ (w - v)) (lo * 2 ^ v % 2 ^ w) := by
  have power : 2 ^ w = 2 ^ (w - v) * 2 ^ v := by rw [← pow_add, Nat.sub_add_cancel small]
  have split := Nat.div_add_mod lo (2 ^ (w - v))
  have cut : lo * 2 ^ v % 2 ^ w = lo % 2 ^ (w - v) * 2 ^ v := by rw [power, Nat.mul_mod_mul_right]
  unfold join
  rw [cut]
  conv_lhs => rw [← split]
  rw [power]
  ring

theorem join_shiftl (hi lo : Nat) (small : v ≤ w) :
    join w hi lo * 2 ^ v % 2 ^ (2 * w) =
      join w ((hi * 2 ^ v % 2 ^ w + lo / 2 ^ (w - v)) % 2 ^ w) (lo * 2 ^ v % 2 ^ w) := by
  rw [join_mul hi lo small, join_cut _ (Nat.mod_lt _ (Nat.two_pow_pos w)), Nat.mod_add_mod]

theorem join_shiftl_across (large : w ≤ v) :
    join w hi lo * 2 ^ v % 2 ^ (2 * w) = join w (lo * 2 ^ (v - w) % 2 ^ w) 0 := by
  have power : 2 ^ v = 2 ^ (v - w) * 2 ^ w := by rw [← pow_add, Nat.sub_add_cancel large]
  have moved : join w hi lo * 2 ^ v = join w (join w hi lo * 2 ^ (v - w)) 0 := by
    rw [power, ← Nat.mul_assoc]
    rfl
  have cut : join w hi lo * 2 ^ (v - w) % 2 ^ w = lo * 2 ^ (v - w) % 2 ^ w := by
    have parts : join w hi lo * 2 ^ (v - w) = 2 ^ w * (hi * 2 ^ (v - w)) + lo * 2 ^ (v - w) := by
      unfold join
      ring
    rw [parts, Nat.mul_add_mod_self_left]
  rw [moved, join_cut _ (Nat.two_pow_pos w), cut]

theorem join_shiftr (small : v ≤ w) (low : lo < 2 ^ w) :
    join w hi lo / 2 ^ v = join w (hi / 2 ^ v) ((hi * 2 ^ (w - v) % 2 ^ w + lo / 2 ^ v) % 2 ^ w) := by
  have power : 2 ^ w = 2 ^ (w - v) * 2 ^ v := by rw [← pow_add, Nat.sub_add_cancel small]
  have positive : 0 < 2 ^ v := Nat.two_pow_pos v
  have split := Nat.div_add_mod hi (2 ^ v)
  have cut : hi * 2 ^ (w - v) % 2 ^ w = hi % 2 ^ v * 2 ^ (w - v) := by
    rw [power, Nat.mul_comm (2 ^ (w - v)), Nat.mul_mod_mul_right]
  have below : lo / 2 ^ v < 2 ^ (w - v) := by
    rw [Nat.div_lt_iff_lt_mul positive, ← power]
    exact low
  have few : hi % 2 ^ v + 1 ≤ 2 ^ v := Nat.mod_lt _ positive
  have room : (hi % 2 ^ v + 1) * 2 ^ (w - v) ≤ 2 ^ v * 2 ^ (w - v) := Nat.mul_le_mul_right _ few
  rw [Nat.add_mul, Nat.one_mul, Nat.mul_comm (2 ^ v), ← power] at room
  rw [cut, Nat.mod_eq_of_lt (by omega)]
  have moved : join w hi lo / 2 ^ v = hi * 2 ^ (w - v) + lo / 2 ^ v := by
    have parts : join w hi lo = lo + 2 ^ v * (hi * 2 ^ (w - v)) := by
      unfold join
      rw [power]
      ring
    rw [parts, Nat.add_mul_div_left _ _ positive, Nat.add_comm]
  rw [moved]
  unfold join
  conv_lhs => rw [← split]
  rw [power]
  ring

theorem join_shiftr_across (large : w ≤ v) (low : lo < 2 ^ w) : join w hi lo / 2 ^ v = hi / 2 ^ (v - w) := by
  have power : 2 ^ v = 2 ^ w * 2 ^ (v - w) := by rw [← pow_add, Nat.add_sub_cancel' large]
  rw [power, ← Nat.div_div_eq_div_mul, join_div low]

end Shifts

section Bits

variable {w hi lo hi' lo' : Nat}

theorem testBit_join (low : lo < 2 ^ w) (i : Nat) :
    (join w hi lo).testBit i = if i < w then lo.testBit i else hi.testBit (i - w) := by
  rw [join, Nat.mul_comm]
  exact Nat.testBit_two_pow_mul_add hi low i

theorem join_or (low : lo < 2 ^ w) (low' : lo' < 2 ^ w) :
    join w hi lo ||| join w hi' lo' = join w (hi ||| hi') (lo ||| lo') := by
  apply Nat.eq_of_testBit_eq
  intro i
  rw [Nat.testBit_or, testBit_join low, testBit_join low', testBit_join (Nat.or_lt_two_pow low low')]
  split <;> rw [Nat.testBit_or]

theorem join_size (low : lo < 2 ^ w) :
    (join w hi lo).size = if hi = 0 then lo.size else w + hi.size := by
  split
  · rename_i none
    rw [join, none, Nat.zero_mul, Nat.zero_add]
  · rename_i some
    have lower : 2 ^ (hi.size - 1) ≤ hi := by
      by_contra below
      have small := Nat.size_le.mpr (Nat.lt_of_not_le below)
      have positive := Nat.size_pos.mpr (Nat.pos_of_ne_zero some)
      omega
    have positive := Nat.size_pos.mpr (Nat.pos_of_ne_zero some)
    apply Nat.le_antisymm
    · rw [Nat.size_le, pow_add]
      have above : hi + 1 ≤ 2 ^ hi.size := Nat.lt_size_self hi
      have room := Nat.mul_le_mul_left (2 ^ w) above
      rw [Nat.mul_add, Nat.mul_one, Nat.mul_comm] at room
      unfold join
      omega
    · rw [show w + hi.size = (w + (hi.size - 1)) + 1 by omega, Nat.succ_le_iff, Nat.lt_size, pow_add]
      have room := Nat.mul_le_mul_left (2 ^ w) lower
      rw [Nat.mul_comm _ hi] at room
      unfold join
      omega

end Bits

end TronLedger.Halves
