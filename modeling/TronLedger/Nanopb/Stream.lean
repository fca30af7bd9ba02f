import TronLedger.Lib.Buffer

/-!
# nanopb input streams

The readers of `pb_decode.c`. A stream over a buffer is the bytes it has left; `Mem` says
whether they lie in the buffer the caller handed to `pb_istream_from_buffer` or in the
ten-byte stack copy `decode_callback_field` makes of a scalar.

* A reader takes the bytes left and returns its value with the bytes that remain.
* `Splits` is what every reader satisfies: it consumes a prefix, and the value depends on
  that prefix only.
-/

namespace TronLedger.Nanopb

inductive Mem
  | caller
  | scratch
  deriving DecidableEq, Repr

/-- `pb_istream_t`; `bytes_left` is the length of `data`. -/
structure Istream where
  mem : Mem
  data : Bytes
  deriving DecidableEq

def pbIstreamFromBuffer (buf : Bytes) : Istream := ⟨.caller, buf⟩

/-- Three bits of a tag; 3, 4, 6 and 7 are not supported. -/
inductive WireType
  | varint
  | fixed64
  | string
  | fixed32
  | invalid (bits : UInt32)
  deriving DecidableEq, Repr

def WireType.ofBits (bits : UInt32) : WireType :=
  if bits = 0 then .varint
  else if bits = 1 then .fixed64
  else if bits = 2 then .string
  else if bits = 5 then .fixed32
  else .invalid bits

abbrev Reader (α : Type) := Bytes → Option (α × Bytes)

/-- `pb_read` into a buffer. -/
def pbRead (count : Nat) : Reader Bytes := fun bs =>
  if bs.length < count then none else some (bs.take count, bs.drop count)

/-- Bytes past the 32nd bit: 0x80 padding, or 0xFF for a negative value cast to 64 bits. -/
def validExtension (result : UInt32) (bitpos : Nat) (byte : UInt8) : Bool :=
  let signExtension : UInt8 := if bitpos < 63 then 0xFF else 0x01
  byte &&& 0x7F = 0 ∨ (result >>> 31 ≠ 0 ∧ byte = signExtension)

/-- The `do` loop of `pb_decode_varint32_eof`, entered with the next bit position. -/
def varint32Loop (result : UInt32) (bitpos : Nat) : Reader UInt32
  | [] => none
  | byte :: rest =>
    if 32 ≤ bitpos then
      if 64 ≤ bitpos ∨ ¬validExtension result bitpos byte then none
      else if byte &&& 0x80 ≠ 0 then varint32Loop result (bitpos + 7) rest
      else some (result, rest)
    else
      let result := result ||| ((byte &&& 0x7F).toUInt32 <<< UInt32.ofNat bitpos)
      if byte &&& 0x80 ≠ 0 then varint32Loop result (bitpos + 7) rest
      else if bitpos + 7 = 35 ∧ byte &&& 0x70 ≠ 0 then none
      else some (result, rest)

def pbDecodeVarint32 : Reader UInt32
  | [] => none
  | byte :: rest =>
    if byte &&& 0x80 = 0 then some (byte.toUInt32, rest)
    else varint32Loop (byte &&& 0x7F).toUInt32 7 rest

/-- The loop of `pb_decode_varint`. -/
def varintLoop (result : UInt64) (bitpos : Nat) : Reader UInt64
  | [] => none
  | byte :: rest =>
    if 64 ≤ bitpos then none
    else
      let result := result ||| ((byte &&& 0x7F).toUInt64 <<< UInt64.ofNat bitpos)
      if byte &&& 0x80 ≠ 0 then varintLoop result (bitpos + 7) rest
      else some (result, rest)

def pbDecodeVarint : Reader UInt64 := varintLoop 0 0

def pbSkipVarint : Bytes → Option Bytes
  | [] => none
  | byte :: rest => if byte &&& 0x80 ≠ 0 then pbSkipVarint rest else some rest

/-- `pb_make_string_substream`: the delimited bytes, and the parent behind them. -/
def pbMakeStringSubstream : Reader Bytes := fun bs =>
  match pbDecodeVarint32 bs with
  | none => none
  | some (size, rest) => pbRead size.toNat rest

def pbDecodeTag : Reader (Nat × WireType) := fun bs =>
  match pbDecodeVarint32 bs with
  | none => none
  | some (temp, rest) => some (((temp >>> 3).toNat, WireType.ofBits (temp &&& 7)), rest)

def pbSkipField (wireType : WireType) (bs : Bytes) : Option Bytes :=
  match wireType with
  | .varint => pbSkipVarint bs
  | .fixed64 => (pbRead 8 bs).map (·.2)
  | .string => (pbMakeStringSubstream bs).map (·.2)
  | .fixed32 => (pbRead 4 bs).map (·.2)
  | .invalid _ => none

/-- The varint case of `read_raw_value`: at most `room` bytes, continuation bits included. -/
def readRawVarint : Nat → Reader Bytes
  | 0, _ => none
  | _ + 1, [] => none
  | room + 1, byte :: rest =>
    if byte &&& 0x80 ≠ 0 then
      (readRawVarint room rest).map fun (raw, rest) => (byte :: raw, rest)
    else some ([byte], rest)

/-- `read_raw_value` into the ten-byte buffer of `decode_callback_field`. -/
def readRawValue (wireType : WireType) : Reader Bytes :=
  match wireType with
  | .varint => readRawVarint 10
  | .fixed64 => pbRead 8
  | .fixed32 => pbRead 4
  | .string | .invalid _ => fun _ => none

/-- A reader consumes a prefix, and its value depends on nothing behind it. -/
def Splits {α : Type} (r : Reader α) : Prop :=
  ∀ bs a rest, r bs = some (a, rest) →
    ∃ used, bs = used ++ rest ∧ ∀ tail, r (used ++ tail) = some (a, tail)

theorem pbRead_splits (count : Nat) : Splits (pbRead count) := by
  intro bs a rest h
  simp only [pbRead] at h
  split at h
  · simp at h
  · rename_i enough
    simp only [Option.some.injEq, Prod.mk.injEq] at h
    obtain ⟨rfl, rfl⟩ := h
    have len : (bs.take count).length = count := by simp; omega
    refine ⟨bs.take count, (List.take_append_drop count bs).symm, fun tail => ?_⟩
    simp [pbRead, len, List.take_left' len, List.drop_left' len]

theorem varint32Loop_splits (bs : Bytes) (result : UInt32) (bitpos : Nat) (a : UInt32)
    (rest : Bytes) (h : varint32Loop result bitpos bs = some (a, rest)) :
    ∃ used, bs = used ++ rest ∧ ∀ tail, varint32Loop result bitpos (used ++ tail) = some (a, tail) := by
  induction bs generalizing result bitpos with
  | nil => simp [varint32Loop] at h
  | cons byte more ih =>
    simp only [varint32Loop] at h
    split_ifs at h with wide bad cont cont top
    · obtain ⟨used, rfl, same⟩ := ih _ _ h
      exact ⟨byte :: used, rfl, fun tail => by
        simp only [List.cons_append, varint32Loop, if_pos wide, if_neg bad, if_pos cont, same]⟩
    · simp only [Option.some.injEq, Prod.mk.injEq] at h
      obtain ⟨rfl, rfl⟩ := h
      exact ⟨[byte], rfl, fun tail => by
        simp only [List.singleton_append, varint32Loop, if_pos wide, if_neg bad, if_neg cont]⟩
    · obtain ⟨used, rfl, same⟩ := ih _ _ h
      exact ⟨byte :: used, rfl, fun tail => by
        simp only [List.cons_append, varint32Loop, if_neg wide, if_pos cont, same]⟩
    · simp only [Option.some.injEq, Prod.mk.injEq] at h
      obtain ⟨rfl, rfl⟩ := h
      exact ⟨[byte], rfl, fun tail => by
        simp only [List.singleton_append, varint32Loop, if_neg wide, if_neg cont, if_neg top]⟩

theorem pbDecodeVarint32_splits : Splits pbDecodeVarint32 := by
  intro bs a rest h
  cases bs with
  | nil => simp [pbDecodeVarint32] at h
  | cons byte more =>
    simp only [pbDecodeVarint32] at h
    split_ifs at h with single
    · simp only [Option.some.injEq, Prod.mk.injEq] at h
      obtain ⟨rfl, rfl⟩ := h
      exact ⟨[byte], rfl, fun tail => by simp [pbDecodeVarint32, single]⟩
    · obtain ⟨used, rfl, same⟩ := varint32Loop_splits _ _ _ _ _ h
      exact ⟨byte :: used, rfl, fun tail => by
        simp only [List.cons_append, pbDecodeVarint32, if_neg single, same]⟩

theorem varintLoop_splits (bs : Bytes) (result : UInt64) (bitpos : Nat) (a : UInt64)
    (rest : Bytes) (h : varintLoop result bitpos bs = some (a, rest)) :
    ∃ used, bs = used ++ rest ∧ pbSkipVarint bs = some rest ∧
      ∀ tail, varintLoop result bitpos (used ++ tail) = some (a, tail) := by
  induction bs generalizing result bitpos with
  | nil => simp [varintLoop] at h
  | cons byte more ih =>
    simp only [varintLoop] at h
    split_ifs at h with wide cont
    · obtain ⟨used, rfl, skips, same⟩ := ih _ _ h
      exact ⟨byte :: used, rfl, by simp only [pbSkipVarint, if_pos cont, skips], fun tail => by
        simp only [List.cons_append, varintLoop, if_neg wide, if_pos cont, same]⟩
    · simp only [Option.some.injEq, Prod.mk.injEq] at h
      obtain ⟨rfl, rfl⟩ := h
      exact ⟨[byte], rfl, by simp only [pbSkipVarint, if_neg cont], fun tail => by
        simp only [List.singleton_append, varintLoop, if_neg wide, if_neg cont]⟩

theorem pbDecodeVarint_splits : Splits pbDecodeVarint := by
  intro bs a rest h
  obtain ⟨used, split, -, same⟩ := varintLoop_splits bs 0 0 a rest h
  exact ⟨used, split, same⟩

theorem pbMakeStringSubstream_splits : Splits pbMakeStringSubstream := by
  intro bs a rest h
  simp only [pbMakeStringSubstream] at h
  split at h
  · simp at h
  · rename_i size more decoded
    obtain ⟨used, rfl, same⟩ := pbDecodeVarint32_splits _ _ _ decoded
    obtain ⟨payload, rfl, samePayload⟩ := pbRead_splits _ _ _ _ h
    refine ⟨used ++ payload, by simp, fun tail => ?_⟩
    simp [pbMakeStringSubstream, List.append_assoc, same, samePayload]

theorem readRawVarint_splits (room : Nat) : Splits (readRawVarint room) := by
  induction room with
  | zero => intro bs a rest h; simp [readRawVarint] at h
  | succ room ih =>
    intro bs a rest h
    cases bs with
    | nil => simp [readRawVarint] at h
    | cons byte more =>
      simp only [readRawVarint] at h
      split_ifs at h with cont
      · simp only [Option.map_eq_some_iff, Prod.exists, Prod.mk.injEq] at h
        obtain ⟨raw, rest', read, rfl, rfl⟩ := h
        obtain ⟨used, rfl, same⟩ := ih _ _ _ read
        exact ⟨byte :: used, rfl, fun tail => by simp [readRawVarint, cont, same]⟩
      · simp only [Option.some.injEq, Prod.mk.injEq] at h
        obtain ⟨rfl, rfl⟩ := h
        exact ⟨[byte], rfl, fun tail => by simp [readRawVarint, cont]⟩

theorem readRawValue_splits (wireType : WireType) : Splits (readRawValue wireType) := by
  cases wireType with
  | varint => exact readRawVarint_splits 10
  | fixed64 => exact pbRead_splits 8
  | fixed32 => exact pbRead_splits 4
  | string | invalid _ => intro bs a rest h; simp [readRawValue] at h

/-- A scalar has at least one byte, and fits the ten it is copied to. -/
theorem readRawValue_length {wireType : WireType} {bs raw rest : Bytes}
    (read : readRawValue wireType bs = some (raw, rest)) : 0 < raw.length ∧ raw.length ≤ 10 := by
  have varint (room : Nat) : ∀ {bs raw rest : Bytes}, readRawVarint room bs = some (raw, rest) →
      0 < raw.length ∧ raw.length ≤ room := by
    induction room with
    | zero => simp [readRawVarint]
    | succ room ih =>
      intro bs raw rest read
      cases bs with
      | nil => simp [readRawVarint] at read
      | cons byte more =>
        simp only [readRawVarint] at read
        split_ifs at read
        · simp only [Option.map_eq_some_iff, Prod.exists, Prod.mk.injEq] at read
          obtain ⟨raw, _, read, rfl, -⟩ := read
          have := ih read
          simp only [List.length_cons]
          omega
        · simp only [Option.some.injEq, Prod.mk.injEq] at read
          simp [← read.1]
  have fixed (n : Nat) (h : pbRead n bs = some (raw, rest)) : raw.length = n := by
    simp only [pbRead] at h
    split_ifs at h
    simp only [Option.some.injEq, Prod.mk.injEq] at h
    rw [← h.1, List.length_take]
    omega
  cases wireType with
  | varint => exact varint 10 read
  | fixed64 =>
    have := fixed 8 read
    omega
  | fixed32 =>
    have := fixed 4 read
    omega
  | string | invalid => simp [readRawValue] at read

theorem pbDecodeTag_splits : Splits pbDecodeTag := by
  intro bs a rest h
  simp only [pbDecodeTag] at h
  split at h
  · simp at h
  · rename_i temp more decoded
    simp only [Option.some.injEq, Prod.mk.injEq] at h
    obtain ⟨rfl, rfl⟩ := h
    obtain ⟨used, rfl, same⟩ := pbDecodeVarint32_splits _ _ _ decoded
    exact ⟨used, rfl, fun tail => by simp [pbDecodeTag, same]⟩

end TronLedger.Nanopb
