import TronLedger.Nanopb.Encode
import TronLedger.Nanopb.Wire

/-!
# What is written is read again

The writers of `pb_encode.c` against the readers of `pb_decode.c`: every number, tag, length
and string is written as one `pb_write` of its bytes in base 128, and read back from there.
-/

namespace TronLedger.Nanopb

section Streams

@[simp] theorem pbWrite_nil : pbWrite [] = some := by
  funext stream
  simp [pbWrite, Ostream.full]

/-- A stream with room for two writes has room for the first, and then for the second. -/
theorem full_append (stream : Ostream) (a b : Bytes) : stream.full (a ++ b).length =
    (stream.full a.length || Ostream.full { stream with written := stream.written ++ a } b.length) := by
  cases room : stream.maxSize with
  | none => simp [Ostream.full, room]
  | some max =>
    rw [Bool.eq_iff_iff]
    simp only [Ostream.full, room, Option.any_some, decide_eq_true_eq, Bool.or_eq_true, List.length_append]
    omega

/-- Two writes are one. -/
@[simp] theorem pbWrite_andThen (a b : Bytes) : (pbWrite a).andThen (pbWrite b) = pbWrite (a ++ b) := by
  funext stream
  simp only [Encoder.andThen, pbWrite, full_append]
  cases stream.full a.length <;> simp [pbWrite]

/-- What is written is determined by the writer. -/
theorem pbWrite_inj {a b : Bytes} (same : pbWrite a = pbWrite b) : a = b := by
  have counted (bs : Bytes) : pbWrite bs .sizing = some ⟨none, bs⟩ := by
    simp [pbWrite, Ostream.full, Ostream.sizing]
  have streams := congrFun same .sizing
  rw [counted, counted] at streams
  exact congrArg Ostream.written (Option.some.inj streams)

end Streams

section Words

theorem word_quotient (w : UInt32) : (w >>> 7).toNat = w.toNat / 128 := by
  simp [UInt32.toNat_shiftRight, Nat.shiftRight_eq_div_pow]

theorem word_digit (w : UInt32) : (w &&& 0x7F).toUInt8 = UInt8.ofNat (w.toNat % 128) := by
  apply UInt8.toNat_inj.mp
  have mask : (0x7F : UInt32).toNat = 2 ^ 7 - 1 := rfl
  rw [UInt32.toNat_toUInt8, UInt32.toNat_and, mask, Nat.and_two_pow_sub_one_eq_mod, UInt8.toNat_ofNat']

theorem word_pos {w : UInt32} (nonzero : w ≠ 0) : 0 < w.toNat := by
  rcases Nat.eq_zero_or_pos w.toNat with none | some
  · exact absurd (UInt32.toNat_inj.mp none) nonzero
  · exact some

end Words

section Varints

theorem varint32Low_last {room : Nat} {low : UInt32} {d : Nat} (small : d < 128)
    (bound : low.toNat < 128 ^ room) :
    (varint32Low room low 0 (UInt8.ofNat d)).1 ++ [(varint32Low room low 0 (UInt8.ofNat d)).2.2] =
      base128 (d + 128 * low.toNat) := by
  induction room generalizing low d with
  | zero =>
    have none : low.toNat = 0 := by simpa using bound
    rw [none, base128_last (by omega)]
    rfl
  | succ room ih =>
    by_cases zero : low = 0
    · subst zero
      simp only [varint32Low, ne_eq, not_true_eq_false, or_self, if_false]
      rw [base128_last (by simpa using small)]
      simp
    · have some := word_pos zero
      have left : (low >>> 7).toNat < 128 ^ room := by
        rw [word_quotient]
        rw [Nat.pow_succ] at bound
        exact Nat.div_lt_of_lt_mul (by omega)
      have rest := ih (Nat.mod_lt low.toNat (by decide : 0 < 128)) left
      rw [word_quotient, Nat.mod_add_div] at rest
      simp only [varint32Low, ne_eq, zero, not_false_eq_true, true_or, if_true, word_digit]
      rw [base128_more (by omega), moreDigit_or small, List.cons_append, rest]
      congr 2
      all_goals omega

/-- With a high word to come, every turn takes a digit from the low one. -/
theorem varint32Low_more {room : Nat} {low high : UInt32} {d : Nat} (small : d < 128) (more : high ≠ 0) :
    (varint32Low room low high (UInt8.ofNat d)).2.2 =
        UInt8.ofNat ((d + 128 * low.toNat) / 128 ^ room % 128) ∧
      ∀ n, 128 ^ room ≤ n → n % 128 ^ room = (d + 128 * low.toNat) % 128 ^ room →
        base128 n = (varint32Low room low high (UInt8.ofNat d)).1 ++ base128 (n / 128 ^ room) := by
  induction room generalizing low d with
  | zero =>
    refine ⟨?_, fun n _ _ => by simp [varint32Low]⟩
    simp only [varint32Low, Nat.pow_zero, Nat.div_one]
    congr 1
    omega
  | succ room ih =>
    obtain ⟨last, front⟩ := @ih (low >>> 7) (low.toNat % 128) (Nat.mod_lt low.toNat (by decide : 0 < 128))
    rw [word_quotient, Nat.mod_add_div] at last front
    have power : 128 ^ (room + 1) = 128 * 128 ^ room := by rw [Nat.pow_succ, Nat.mul_comm]
    have own : (d + 128 * low.toNat) / 128 = low.toNat := by omega
    simp only [varint32Low, ne_eq, more, not_false_eq_true, or_true, if_true, word_digit]
    refine ⟨?_, fun n large agree => ?_⟩
    · rw [last, power, ← Nat.div_div_eq_div_mul, own]
    · have low_digit : n % 128 = d := by
        have h := congrArg (· % 128) agree
        simp only [power, Nat.mod_mul_right_mod] at h
        omega
      have high_digits : n / 128 % 128 ^ room = low.toNat % 128 ^ room := by
        have h := congrArg (· / 128) agree
        simp only [power, Nat.mod_mul_right_div_self, own] at h
        exact h
      have pos : 0 < 128 ^ room := Nat.pow_pos (by decide)
      have quotient_large : 128 ^ room ≤ n / 128 := by
        rw [Nat.le_div_iff_mul_le (by decide)]
        omega
      rw [base128_more (by omega), low_digit, moreDigit_or small,
        front (n / 128) quotient_large high_digits, power, ← Nat.div_div_eq_div_mul, List.cons_append]

theorem varint32High_last {turns : Nat} {high : UInt32} {d : Nat} (small : d < 128)
    (bound : high.toNat < 128 ^ turns) :
    (varint32High turns high (UInt8.ofNat d)).1 ++ [(varint32High turns high (UInt8.ofNat d)).2] =
      base128 (d + 128 * high.toNat) := by
  induction turns generalizing high d with
  | zero =>
    have none : high.toNat = 0 := by simpa using bound
    rw [none, base128_last (by omega)]
    rfl
  | succ turns ih =>
    by_cases zero : high = 0
    · subst zero
      simp only [varint32High, ne_eq, not_true_eq_false, if_false]
      rw [base128_last (by simpa using small)]
      simp
    · have some := word_pos zero
      have left : (high >>> 7).toNat < 128 ^ turns := by
        rw [word_quotient]
        rw [Nat.pow_succ] at bound
        exact Nat.div_lt_of_lt_mul (by omega)
      have rest := ih (Nat.mod_lt high.toNat (by decide : 0 < 128)) left
      rw [word_quotient, Nat.mod_add_div] at rest
      simp only [varint32High, ne_eq, zero, not_false_eq_true, if_true, word_digit]
      rw [base128_more (by omega), moreDigit_or small, List.cons_append, rest]
      congr 2
      all_goals omega

/-- The pending byte takes the three lowest bits of the high word. -/
theorem joined_digit {d : Nat} (small : d < 16) (high : UInt32) :
    UInt8.ofNat d ||| ((high &&& 0x07) <<< 4).toUInt8 = UInt8.ofNat (d + 16 * (high.toNat % 8)) := by
  have all : ∀ d : Fin 16, ∀ h : Fin 8, UInt8.ofNat d.val ||| (UInt32.ofNat h.val <<< 4).toUInt8 =
      UInt8.ofNat (d.val + 16 * h.val) := by decide
  have bits : high &&& 0x07 = UInt32.ofNat (high.toNat % 8) := by
    apply UInt32.toNat_inj.mp
    have mask : (0x07 : UInt32).toNat = 2 ^ 3 - 1 := rfl
    rw [UInt32.toNat_and, mask, Nat.and_two_pow_sub_one_eq_mod, UInt32.toNat_ofNat']
    omega
  rw [bits]
  exact all ⟨d, small⟩ ⟨high.toNat % 8, Nat.mod_lt _ (by decide)⟩

theorem varint32Bytes_eq (low high : UInt32) :
    varint32Bytes low high = base128 (low.toNat + 2 ^ 32 * high.toNat) := by
  have lowBound := low.toNat_lt
  have digit : low.toNat % 128 < 128 := Nat.mod_lt _ (by decide)
  have whole : low.toNat % 128 + 128 * (low.toNat / 128) = low.toNat := by omega
  by_cases single : high = 0
  · subst single
    have turns : (low >>> 7).toNat < 128 ^ 4 := by
      rw [word_quotient]
      omega
    have written := varint32Low_last digit turns
    rw [word_quotient, whole] at written
    have zero : (0 : UInt32).toNat = 0 := rfl
    simp only [varint32Bytes, word_digit, ne_eq, not_true_eq_false, if_false, zero, Nat.mul_zero, Nat.add_zero]
    exact written
  · obtain ⟨last, front⟩ := @varint32Low_more 4 (low >>> 7) high _ digit single
    rw [word_quotient, whole] at last front
    have highPos := word_pos single
    have highBound := high.toNat_lt
    have eighth : (high >>> 3).toNat = high.toNat / 8 := by
      simp [UInt32.toNat_shiftRight, Nat.shiftRight_eq_div_pow]
    have pending : low.toNat / 128 ^ 4 % 128 = low.toNat / 2 ^ 28 := by omega
    -- the fifth digit has four bits of the low word and three of the high one
    have fifth : low.toNat / 2 ^ 28 + 16 * (high.toNat % 8) < 128 := by omega
    have turns : (high >>> 3).toNat < 128 ^ 5 := by
      rw [eighth]
      omega
    have rest := varint32High_last fifth turns
    have split : (low.toNat + 2 ^ 32 * high.toNat) / 128 ^ 4 =
        low.toNat / 2 ^ 28 + 16 * (high.toNat % 8) + 128 * (high.toNat / 8) := by omega
    have agree : (low.toNat + 2 ^ 32 * high.toNat) % 128 ^ 4 = low.toNat % 128 ^ 4 := by omega
    rw [front _ (by omega) agree, split, ← eighth, ← rest]
    simp only [varint32Bytes, ne_eq, single, not_false_eq_true, if_true, word_digit, last, pending,
      joined_digit (d := low.toNat / 2 ^ 28) (by omega), List.append_assoc]

/-- **A number is written in base 128.** -/
theorem pbEncodeVarint_eq (value : UInt64) : pbEncodeVarint value = pbWrite (base128 value.toNat) := by
  have bound := value.toNat_lt
  unfold pbEncodeVarint
  split
  · rename_i small
    have small' : value.toNat < 128 := by
      have := UInt64.le_iff_toNat_le.mp small
      simp only [UInt64.reduceToNat] at this
      omega
    rw [base128_last small']
    congr 2
  · have low : value.toUInt32.toNat = value.toNat % 2 ^ 32 := UInt64.toNat_toUInt32 value
    have high : (value >>> 32).toUInt32.toNat = value.toNat / 2 ^ 32 := by
      rw [UInt64.toNat_toUInt32, UInt64.toNat_shiftRight]
      simp only [UInt64.reduceToNat, Nat.reduceMod, Nat.shiftRight_eq_div_pow]
      omega
    rw [pbEncodeVarint32, varint32Bytes_eq, low, high]
    congr 2
    omega

end Varints

section Fields

variable {σ τ : Type}

def EncodedType.wireType : EncodedType → WireType
  | .varint => .varint
  | .string => .string

/-- The number a tag is written as. -/
def tagNumber (wiretype : EncodedType) (fieldNumber : UInt32) : Nat :=
  fieldNumber.toNat * 8 + wiretype.bits.toNat

theorem pbEncodeTag_eq (wiretype : EncodedType) (fieldNumber : UInt32) :
    pbEncodeTag wiretype fieldNumber = pbWrite (base128 (tagNumber wiretype fieldNumber)) := by
  have bound := fieldNumber.toNat_lt
  have bits : wiretype.bits.toNat < 2 ^ 3 := by cases wiretype <;> decide
  rw [pbEncodeTag, pbEncodeVarint_eq]
  congr 2
  rw [UInt64.toNat_or, UInt64.toNat_shiftLeft, UInt32.toNat_toUInt64]
  simp only [UInt64.reduceToNat, Nat.reduceMod]
  rw [Nat.shiftLeft_eq, Nat.mod_eq_of_lt (by omega), Nat.mul_comm, ← Nat.two_pow_add_eq_or_of_lt bits, tagNumber]
  omega

/-- A length and the bytes it counts. -/
def lengthPrefixed (content : Bytes) : Bytes := base128 content.length ++ content

theorem pbEncodeString_eq {content : Bytes} (short : content.length < 2 ^ 64) :
    pbEncodeString content = pbWrite (lengthPrefixed content) := by
  rw [pbEncodeString, pbEncodeVarint_eq, pbWrite_andThen, UInt64.toNat_ofNat', Nat.mod_eq_of_lt short, lengthPrefixed]

theorem pbEncodeSubmessage_eq {encode : Encoder} {content : Bytes} (written : encode = pbWrite content)
    (short : content.length < 2 ^ 64) :
    pbEncodeSubmessage encode = pbWrite (lengthPrefixed content) := by
  subst written
  funext stream
  have counted : pbWrite content .sizing = some ⟨none, content⟩ := by
    simp [pbWrite, Ostream.full, Ostream.sizing]
  have again : pbWrite content (pbOstreamFromBuffer content.length) = some ⟨some content.length, content⟩ := by
    simp [pbWrite, Ostream.full, pbOstreamFromBuffer]
  have prefixed : pbEncodeVarint (UInt64.ofNat content.length) = pbWrite (base128 content.length) := by
    rw [pbEncodeVarint_eq, UInt64.toNat_ofNat', Nat.mod_eq_of_lt short]
  simp only [pbEncodeSubmessage, counted, prefixed, again]
  rw [lengthPrefixed, ← pbWrite_andThen]
  simp only [Encoder.andThen]
  cases first : pbWrite (base128 content.length) stream with
  | none => rfl
  | some stream' =>
    simp only [pbWrite] at first
    split_ifs at first with fits
    obtain rfl := Option.some.inj first
    have pos := base128_length_pos content.length
    cases room : stream.maxSize with
    | none => simp [pbWrite, Ostream.full]
    | some max =>
      simp only [Ostream.full, room, Option.any_some, decide_eq_true_eq, not_and, Nat.not_lt] at fits
      have fits := fits pos
      simp only [pbWrite, Ostream.full, Option.bind_some, Option.any_some, List.length_append,
        ne_eq, not_true_eq_false, if_false, decide_eq_true_eq]
      by_cases exceeds : max < stream.written.length + (base128 content.length).length + content.length
      · have some : 0 < content.length := by omega
        simp [exceeds, some]
      · simp [exceeds]

end Fields

section Reading

/-- A digit goes above the bits that are already there. -/
theorem or_digit {acc d bitpos : Nat} (below : acc < 2 ^ bitpos) : acc ||| d * 2 ^ bitpos = acc + d * 2 ^ bitpos := by
  rw [Nat.or_comm, Nat.mul_comm, ← Nat.two_pow_add_eq_or_of_lt below, Nat.add_comm]

theorem or_digit64 {acc : UInt64} {byte : UInt8} {d bitpos : Nat} (small : d < 128)
    (value : byte &&& 0x7F = UInt8.ofNat d) (below : acc.toNat < 2 ^ bitpos) (inside : bitpos < 64)
    (fits : d * 2 ^ bitpos < 2 ^ 64) :
    (acc ||| ((byte &&& 0x7F).toUInt64 <<< UInt64.ofNat bitpos)).toNat = acc.toNat + d * 2 ^ bitpos := by
  rw [UInt64.toNat_or, UInt64.toNat_shiftLeft, UInt8.toNat_toUInt64, value, UInt8.toNat_ofNat',
    UInt64.toNat_ofNat', Nat.mod_eq_of_lt (a := bitpos) (by omega), Nat.mod_eq_of_lt inside,
    Nat.mod_eq_of_lt (a := d) (by omega), Nat.shiftLeft_eq, Nat.mod_eq_of_lt fits, or_digit below]

theorem or_digit32 {acc : UInt32} {byte : UInt8} {d bitpos : Nat} (small : d < 128)
    (value : byte &&& 0x7F = UInt8.ofNat d) (below : acc.toNat < 2 ^ bitpos) (inside : bitpos < 32)
    (fits : d * 2 ^ bitpos < 2 ^ 32) :
    (acc ||| ((byte &&& 0x7F).toUInt32 <<< UInt32.ofNat bitpos)).toNat = acc.toNat + d * 2 ^ bitpos := by
  rw [UInt32.toNat_or, UInt32.toNat_shiftLeft, UInt8.toNat_toUInt32, value, UInt8.toNat_ofNat',
    UInt32.toNat_ofNat', Nat.mod_eq_of_lt (a := bitpos) (by omega), Nat.mod_eq_of_lt inside,
    Nat.mod_eq_of_lt (a := d) (by omega), Nat.shiftLeft_eq, Nat.mod_eq_of_lt fits, or_digit below]

/-- A number that does not end at bit `bitpos` is a digit there and a number seven bits above. -/
theorem digit_split (n bitpos : Nat) :
    n * 2 ^ bitpos = n % 128 * 2 ^ bitpos + n / 128 * 2 ^ (bitpos + 7) := by
  have power : 2 ^ (bitpos + 7) = 128 * 2 ^ bitpos := by rw [Nat.pow_add, Nat.mul_comm]
  rw [power, ← Nat.mul_assoc, ← Nat.add_mul]
  congr 1
  omega

/-- It needs those bits. -/
theorem digit_inside {n bitpos width : Nat} (large : 128 ≤ n) (fits : n * 2 ^ bitpos < 2 ^ width) :
    bitpos + 7 < width := by
  have power : 2 ^ (bitpos + 7) = 128 * 2 ^ bitpos := by rw [Nat.pow_add, Nat.mul_comm]
  have least : 128 * 2 ^ bitpos ≤ n * 2 ^ bitpos := Nat.mul_le_mul_right _ large
  exact (Nat.pow_lt_pow_iff_right (by decide : 1 < 2)).mp (by omega)

theorem digit_below {acc d bitpos : Nat} (small : d < 128) (below : acc < 2 ^ bitpos) :
    acc + d * 2 ^ bitpos < 2 ^ (bitpos + 7) := by
  have power : 2 ^ (bitpos + 7) = 128 * 2 ^ bitpos := by rw [Nat.pow_add, Nat.mul_comm]
  have most : d * 2 ^ bitpos ≤ 127 * 2 ^ bitpos := Nat.mul_le_mul_right _ (by omega)
  omega

theorem varintLoop_base128 {n bitpos : Nat} {acc : UInt64} (below : acc.toNat < 2 ^ bitpos)
    (inside : bitpos < 64) (fits : n * 2 ^ bitpos < 2 ^ 64) (tail : Bytes) :
    varintLoop acc bitpos (base128 n ++ tail) = some (UInt64.ofNat (acc.toNat + n * 2 ^ bitpos), tail) := by
  induction n using Nat.strongRecOn generalizing bitpos acc with
  | ind n ih =>
    have room : ¬64 ≤ bitpos := by omega
    by_cases small : n < 128
    · rw [base128_last small, List.singleton_append, varintLoop]
      simp only [room, if_false, lastDigit_bit small, ne_eq, not_true_eq_false]
      have value := or_digit64 small (lastDigit_value small) below inside fits
      rw [← value, UInt64.ofNat_toNat]
    · have digit : n % 128 < 128 := Nat.mod_lt _ (by decide)
      have next := digit_inside (by omega) fits
      have split := digit_split n bitpos
      have value := or_digit64 digit (moreDigit_value digit) below inside (by omega)
      have grown : (acc ||| ((moreDigit (n % 128) &&& 0x7F).toUInt64 <<< UInt64.ofNat bitpos)).toNat <
          2 ^ (bitpos + 7) := by
        rw [value]
        exact digit_below digit below
      rw [base128_more (by omega), List.cons_append, varintLoop]
      simp only [room, if_false, moreDigit_bit digit, ne_eq, not_false_eq_true, if_true]
      rw [ih (n / 128) (by omega) grown next (by omega), value, split, Nat.add_assoc]

theorem pbDecodeVarint_base128 {n : Nat} (fits : n < 2 ^ 64) (tail : Bytes) :
    pbDecodeVarint (base128 n ++ tail) = some (UInt64.ofNat n, tail) := by
  have zero : (0 : UInt64).toNat = 0 := rfl
  have start : (0 : UInt64).toNat < 2 ^ 0 := by decide
  have whole : n * 2 ^ 0 < 2 ^ 64 := by simpa using fits
  have read := varintLoop_base128 start (by decide) whole tail
  rw [zero, Nat.pow_zero, Nat.mul_one, Nat.zero_add] at read
  exact read

/-- Four bits are left for the fifth byte. -/
theorem lastDigit_top {d : Nat} (small : d < 16) : UInt8.ofNat d &&& 0x70 = 0 := by
  have all : ∀ d : Fin 16, UInt8.ofNat d.val &&& 0x70 = 0 := by decide
  exact all ⟨d, small⟩

theorem varint32Loop_base128 {n bitpos : Nat} {acc : UInt32} (below : acc.toNat < 2 ^ bitpos)
    (inside : bitpos < 32) (fits : n * 2 ^ bitpos < 2 ^ 32) (tail : Bytes) :
    varint32Loop acc bitpos (base128 n ++ tail) = some (UInt32.ofNat (acc.toNat + n * 2 ^ bitpos), tail) := by
  induction n using Nat.strongRecOn generalizing bitpos acc with
  | ind n ih =>
    have room : ¬32 ≤ bitpos := by omega
    by_cases small : n < 128
    · have value := or_digit32 small (lastDigit_value small) below inside fits
      have top : ¬(bitpos + 7 = 35 ∧ UInt8.ofNat n &&& 0x70 ≠ 0) := by
        rintro ⟨last, exceeds⟩
        obtain rfl : bitpos = 28 := by omega
        exact exceeds (lastDigit_top (by omega))
      rw [base128_last small, List.singleton_append, varint32Loop]
      simp only [room, if_false, lastDigit_bit small, ne_eq, not_true_eq_false]
      rw [if_neg top, ← value, UInt32.ofNat_toNat]
    · have digit : n % 128 < 128 := Nat.mod_lt _ (by decide)
      have next := digit_inside (by omega) fits
      have split := digit_split n bitpos
      have value := or_digit32 digit (moreDigit_value digit) below inside (by omega)
      have grown : (acc ||| ((moreDigit (n % 128) &&& 0x7F).toUInt32 <<< UInt32.ofNat bitpos)).toNat <
          2 ^ (bitpos + 7) := by
        rw [value]
        exact digit_below digit below
      rw [base128_more (by omega), List.cons_append, varint32Loop]
      simp only [room, if_false, moreDigit_bit digit, ne_eq, not_false_eq_true, if_true]
      rw [ih (n / 128) (by omega) grown next (by omega), value, split, Nat.add_assoc]

theorem pbDecodeVarint32_base128 {n : Nat} (fits : n < 2 ^ 32) (tail : Bytes) :
    pbDecodeVarint32 (base128 n ++ tail) = some (UInt32.ofNat n, tail) := by
  by_cases small : n < 128
  · have value : (UInt8.ofNat n).toUInt32 = UInt32.ofNat n := by
      apply UInt32.toNat_inj.mp
      rw [UInt8.toNat_toUInt32, UInt8.toNat_ofNat', UInt32.toNat_ofNat']
      omega
    rw [base128_last small, List.singleton_append, pbDecodeVarint32, if_pos (lastDigit_bit small), value]
  · have digit : n % 128 < 128 := Nat.mod_lt _ (by decide)
    have value : (UInt8.ofNat (n % 128)).toUInt32.toNat = n % 128 := by
      rw [UInt8.toNat_toUInt32, UInt8.toNat_ofNat']
      omega
    have start : (UInt8.ofNat (n % 128)).toUInt32.toNat < 2 ^ 7 := by
      rw [value]
      exact digit
    have left : n / 128 * 2 ^ 7 < 2 ^ 32 := by omega
    have read := varint32Loop_base128 start (by decide) left tail
    rw [base128_more (by omega), List.cons_append, pbDecodeVarint32, if_neg (moreDigit_bit digit),
      moreDigit_value digit, read, value]
    congr 3
    omega

theorem pbSkipVarint_base128 (n : Nat) (tail : Bytes) : pbSkipVarint (base128 n ++ tail) = some tail := by
  induction n using Nat.strongRecOn with
  | ind n ih =>
    by_cases small : n < 128
    · simp [base128_last small, pbSkipVarint, lastDigit_bit small]
    · have digit : n % 128 < 128 := Nat.mod_lt _ (by decide)
      rw [base128_more (by omega), List.cons_append, pbSkipVarint, if_pos (moreDigit_bit digit),
        ih (n / 128) (by omega)]

theorem pbMakeStringSubstream_lengthPrefixed {content : Bytes} (short : content.length < 2 ^ 32) (tail : Bytes) :
    pbMakeStringSubstream (lengthPrefixed content ++ tail) = some (content, tail) := by
  have size : (UInt32.ofNat content.length).toNat = content.length := by
    rw [UInt32.toNat_ofNat', Nat.mod_eq_of_lt short]
  rw [lengthPrefixed, List.append_assoc, pbMakeStringSubstream, pbDecodeVarint32_base128 short]
  simp [size, pbRead]

theorem pbDecodeTag_base128 (wiretype : EncodedType) {fieldNumber : UInt32} (small : fieldNumber.toNat < 2 ^ 29)
    (tail : Bytes) : pbDecodeTag (base128 (tagNumber wiretype fieldNumber) ++ tail) =
      some ((fieldNumber.toNat, wiretype.wireType), tail) := by
  have bits : wiretype.bits.toNat < 8 := by cases wiretype <;> decide
  have fits : tagNumber wiretype fieldNumber < 2 ^ 32 := by
    rw [tagNumber]
    omega
  have number : (UInt32.ofNat (tagNumber wiretype fieldNumber) >>> 3).toNat = fieldNumber.toNat := by
    rw [UInt32.toNat_shiftRight, UInt32.toNat_ofNat', Nat.mod_eq_of_lt fits, tagNumber]
    simp only [UInt32.reduceToNat, Nat.reduceMod, Nat.shiftRight_eq_div_pow]
    omega
  have low : UInt32.ofNat (tagNumber wiretype fieldNumber) &&& 7 = UInt32.ofNat wiretype.bits.toNat := by
    apply UInt32.toNat_inj.mp
    have mask : (7 : UInt32).toNat = 2 ^ 3 - 1 := rfl
    rw [UInt32.toNat_and, mask, Nat.and_two_pow_sub_one_eq_mod, UInt32.toNat_ofNat', UInt32.toNat_ofNat',
      Nat.mod_eq_of_lt fits, tagNumber]
    omega
  rw [pbDecodeTag, pbDecodeVarint32_base128 fits]
  simp only [number, low]
  cases wiretype <;> rfl

end Reading

end TronLedger.Nanopb
