import TronLedger.TxFixture
import TronLedger.Chunking
import TronLedger.Consent

/-!
# The client

`tron_command_sender.py`: how a client cuts a transaction into APDUs.

* `DecodeVarint32` is the reader of the client's protobuf package.
* `packed` is the cut the client makes, field by field; `buildSignApdus_packed` says that its
  loop makes it.
* `clientSign_cut` says that the device sees a transaction in one APDU, or a cut of it.
-/

namespace TronLedger

open Nanopb

section Loop

/-- `MAX_APDU_LEN` -/
def maxApduLen : Nat := 255

/-- `_DecodeVarint32` at the start of the bytes: the low 32 bits, and what is behind them. -/
abbrev DecodeVarint32 := Bytes → Option (Nat × Bytes)

/-- It reads the numbers a serializer writes. -/
def DecodeVarint32.Reads (decodeVarint32 : DecodeVarint32) : Prop :=
  ∀ n tail, n < 2 ^ 64 → decodeVarint32 (base128 n ++ tail) = some (n % 2 ^ 32, tail)

variable (decodeVarint32 : DecodeVarint32)

/-- `_next_field_length`; `none` when the decoder raises. -/
def nextFieldLength (tx : Bytes) : Option Nat :=
  match decodeVarint32 tx with
  | none => none
  | some (field, behind) =>
    match decodeVarint32 behind with
    | none => none
    | some (size, behind) =>
      let newpos := tx.length - behind.length
      if field % 8 = 0 then some newpos else some (size + newpos)

/-- The loop of `_build_sign_apdus` over `tx`; `none` when it raises. A field that does not
fit makes two turns. -/
def messageLoop : Nat → Bytes → Bytes → List Bytes → Option (List Bytes)
  | 0, _, _, _ => none
  | fuel + 1, data, tx, messages =>
    if tx = [] then some (messages ++ [data])
    else
      match nextFieldLength decodeVarint32 tx with
      | none => none
      | some newpos =>
        if maxApduLen ≤ newpos then none
        else if data.length + newpos < maxApduLen then
          messageLoop fuel (data ++ tx.take newpos) (tx.drop newpos) messages
        else messageLoop fuel [] tx (messages ++ [data])

/-- The `P1` of the message at `i`, which is not the last one. -/
def messageP1 (tokenPos i : Nat) : UInt8 :=
  if i = 0 then P1.first
  else if i < tokenPos then P1.more
  else P1.trc10Name ||| P1.first ||| UInt8.ofNat (i - tokenPos)

/-- The `P1` of the last message; 0x08 is `InsType.SIGN_PERSONAL_MESSAGE`. -/
def lastP1 (messages : Nat) (signatures : List Bytes) : UInt8 :=
  if messages = 1 then P1.sign
  else if signatures ≠ [] then P1.trc10Name ||| 0x08 ||| UInt8.ofNat (signatures.length - 1)
  else P1.last

/-- `_build_sign_apdus`: the `P1` and the data of each APDU. -/
def buildSignApdus (path tx : Bytes) (signatures : List Bytes) : Option (List (UInt8 × Bytes)) :=
  match messageLoop decodeVarint32 (2 * tx.length + 1) path tx [] with
  | none => none
  | some sent =>
    let messages := sent ++ signatures
    some ((messages.dropLast.mapIdx fun i chunk => (messageP1 sent.length i, chunk)) ++
      (messages.getLast?.map fun chunk => (lastP1 messages.length signatures, chunk)).toList)

end Loop

section Fields

/-- A field as a serializer writes it. -/
inductive WireField
  | varint (number : UInt32) (value : UInt64)
  | string (number : UInt32) (content : Bytes)
  deriving DecidableEq

namespace WireField

def number : WireField → UInt32
  | varint number _ => number
  | string number _ => number

def wiretype : WireField → EncodedType
  | varint _ _ => .varint
  | string _ _ => .string

/-- What follows the tag. -/
def body : WireField → Bytes
  | varint _ value => base128 value.toNat
  | string _ content => lengthPrefixed content

def bytes (f : WireField) : Bytes := base128 (tagNumber f.wiretype f.number) ++ f.body

def record (f : WireField) : Record := ⟨f.number.toNat, f.wiretype.wireType, f.body⟩

/-- A field number, and a field that fits into an APDU. -/
structure Valid (f : WireField) : Prop where
  number : f.number ≠ 0 ∧ f.number.toNat < 2 ^ 29
  short : f.bytes.length < maxApduLen

end WireField

variable {f : WireField} {fs : List WireField}

theorem WireField.bytes_pos (f : WireField) : 0 < f.bytes.length := by
  have tag := base128_length_pos (tagNumber f.wiretype f.number)
  rw [WireField.bytes, List.length_append]
  omega

theorem WireField.Valid.content_short {number : UInt32} {content : Bytes} (valid : (WireField.string number content).Valid) :
    content.length < 255 := by
  have short := valid.short
  simp only [WireField.bytes, WireField.body, lengthPrefixed, List.length_append, maxApduLen] at short
  omega

theorem WireField.Valid.skips (valid : f.Valid) (tail : Bytes) :
    pbSkipField f.wiretype.wireType (f.body ++ tail) = some tail := by
  cases f with
  | varint number value => exact pbSkipVarint_base128 value.toNat tail
  | string number content =>
    have short := valid.content_short
    simp [WireField.wiretype, WireField.body, EncodedType.wireType, pbSkipField,
      pbMakeStringSubstream_lengthPrefixed (show content.length < 2 ^ 32 by omega) tail]

theorem WireField.Valid.read (valid : f.Valid) (tail : Bytes) : readRecord (f.bytes ++ tail) = some (f.record, tail) := by
  obtain ⟨nonzero, small⟩ := valid.number
  refine readRecord_spec.mpr ⟨fun zero => nonzero (UInt32.toNat_inj.mp zero), ?_, valid.skips tail⟩
  rw [WireField.bytes, List.append_assoc]
  exact pbDecodeTag_base128 f.wiretype small _

/-- The client finds the end of a field. -/
theorem nextFieldLength_field {decodeVarint32 : DecodeVarint32} (reads : decodeVarint32.Reads)
    (small : f.number.toNat < 2 ^ 29) (short : f.bytes.length < 2 ^ 32) (tail : Bytes) :
    nextFieldLength decodeVarint32 (f.bytes ++ tail) = some f.bytes.length := by
  have bits : f.wiretype.bits.toNat < 8 := by cases f.wiretype <;> decide
  have fits : tagNumber f.wiretype f.number < 2 ^ 32 := by
    rw [tagNumber]
    omega
  have type : tagNumber f.wiretype f.number % 2 ^ 32 % 8 = f.wiretype.bits.toNat := by
    rw [Nat.mod_eq_of_lt fits, tagNumber]
    omega
  have tag := reads (tagNumber f.wiretype f.number) (f.body ++ tail) (by omega)
  rw [nextFieldLength, WireField.bytes, List.append_assoc, tag]
  cases f with
  | varint number value =>
    have behind := reads value.toNat tail value.toNat_lt
    simp only [WireField.body, behind, type]
    have varint : WireField.wiretype (.varint number value) = .varint := rfl
    rw [varint]
    simp only [EncodedType.bits, UInt64.toNat_zero, if_true, List.length_append]
    congr 1
    omega
  | string number content =>
    have inside : content.length < 2 ^ 32 := by
      simp only [WireField.bytes, WireField.body, lengthPrefixed, List.length_append] at short
      omega
    have behind := reads content.length (content ++ tail) (by omega)
    have size : content.length % 2 ^ 32 = content.length := Nat.mod_eq_of_lt (by omega)
    simp only [WireField.body, lengthPrefixed, List.append_assoc, behind, type, size]
    have string : WireField.wiretype (.string number content) = .string := rfl
    rw [string]
    simp only [EncodedType.bits, UInt64.reduceToNat, OfNat.ofNat_ne_zero, if_false, List.length_append]
    congr 1
    omega

/-- Every field goes into the chunk that is being filled, or starts the next one. -/
def packed : Nat → List WireField → List WireField × List (List WireField)
  | _, [] => ([], [])
  | used, f :: fs =>
    if used + f.bytes.length < maxApduLen then
      let (chunk, chunks) := packed (used + f.bytes.length) fs
      (f :: chunk, chunks)
    else
      let (chunk, chunks) := packed f.bytes.length fs
      ([], (f :: chunk) :: chunks)

/-- The loop of the client packs the fields. -/
theorem messageLoop_packed {decodeVarint32 : DecodeVarint32} (reads : decodeVarint32.Reads)
    (valid : ∀ f ∈ fs, f.Valid) {fuel : Nat} {data : Bytes} {messages : List Bytes} (enough : 2 * fs.length + 1 ≤ fuel) :
    messageLoop decodeVarint32 fuel data (fs.flatMap WireField.bytes) messages =
      some (messages ++ (data ++ (packed data.length fs).1.flatMap WireField.bytes) ::
        (packed data.length fs).2.map (List.flatMap WireField.bytes)) := by
  induction fs generalizing fuel data messages with
  | nil =>
    obtain ⟨fuel, rfl⟩ : ∃ n, fuel = n + 1 := ⟨fuel - 1, by simp at enough; omega⟩
    simp [messageLoop, packed]
  | cons f fs ih =>
    have first := valid f List.mem_cons_self
    have rest := fun g among => valid g (List.mem_cons_of_mem f among)
    have pos := f.bytes_pos
    rw [List.length_cons] at enough
    obtain ⟨fuel, rfl⟩ : ∃ n, fuel = n + 2 := ⟨fuel - 2, by omega⟩
    have nonempty : f.bytes ++ fs.flatMap WireField.bytes ≠ [] := by
      intro empty
      simp only [List.append_eq_nil_iff] at empty
      simp [empty.1] at pos
    have short := Nat.not_le.mpr first.short
    have measured := nextFieldLength_field reads first.number.2 (Nat.lt_trans first.short (by decide))
      (fs.flatMap WireField.bytes)
    rw [List.flatMap_cons, packed]
    by_cases fits : data.length + f.bytes.length < maxApduLen
    · have next := @ih rest (fuel + 1) (data ++ f.bytes) messages (by omega)
      rw [List.length_append] at next
      rw [messageLoop, if_neg nonempty, measured]
      simp only [if_neg short, if_pos fits, List.take_left, List.drop_left, next]
      simp [List.flatMap_cons]
    · have next := @ih rest fuel ([] ++ f.bytes) (messages ++ [data]) (by omega)
      rw [List.nil_append] at next
      have own : ([] : Bytes).length + f.bytes.length < maxApduLen := by simpa using first.short
      rw [messageLoop, if_neg nonempty, measured]
      simp only [if_neg short, if_neg fits]
      rw [messageLoop, if_neg nonempty, measured]
      simp only [if_neg short, if_pos own, List.take_left, List.drop_left, List.nil_append, next]
      simp [List.flatMap_cons]

theorem packed_all (used : Nat) (fs : List WireField) : (packed used fs).1 ++ (packed used fs).2.flatten = fs := by
  induction fs generalizing used with
  | nil => rfl
  | cons f fs ih =>
    rw [packed]
    split <;> simp [ih]

theorem packed_filled (used : Nat) (fs : List WireField) : ∀ chunk ∈ (packed used fs).2, chunk ≠ [] := by
  induction fs generalizing used with
  | nil => simp [packed]
  | cons f fs ih =>
    rw [packed]
    split
    · exact ih _
    · intro chunk among
      rcases List.mem_cons.mp among with rfl | later
      · simp
      · exact ih _ chunk later

/-- No chunk is too long, the first one together with what was there before. -/
theorem packed_short (valid : ∀ f ∈ fs, f.Valid) {used : Nat} (room : used < maxApduLen) :
    used + ((packed used fs).1.flatMap WireField.bytes).length < maxApduLen ∧
      ∀ chunk ∈ (packed used fs).2, (chunk.flatMap WireField.bytes).length < maxApduLen := by
  induction fs generalizing used with
  | nil => simpa [packed] using room
  | cons f fs ih =>
    have rest := fun g among => valid g (List.mem_cons_of_mem f among)
    rw [packed]
    split
    · rename_i fits
      obtain ⟨first, later⟩ := ih rest fits
      refine ⟨?_, later⟩
      rw [List.flatMap_cons, List.length_append, ← Nat.add_assoc]
      exact first
    · obtain ⟨first, later⟩ := ih rest (valid f List.mem_cons_self).short
      refine ⟨by simpa using room, fun chunk among => ?_⟩
      rcases List.mem_cons.mp among with rfl | among
      · rw [List.flatMap_cons, List.length_append]
        exact first
      · exact later chunk among

theorem fields_length (fs : List WireField) : fs.length ≤ (fs.flatMap WireField.bytes).length := by
  induction fs with
  | nil => simp
  | cons f fs ih =>
    have pos := f.bytes_pos
    rw [List.flatMap_cons, List.length_append, List.length_cons]
    omega

/-- Messages of the transaction behind the first one. -/
theorem messageP1_more {tokenPos : Nat} {chunks : List Bytes} (early : chunks.length < tokenPos) :
    chunks.mapIdx (fun i chunk => (messageP1 tokenPos (i + 1), chunk)) = chunks.map fun chunk => (P1.more, chunk) := by
  apply List.ext_getElem
  · simp
  · intro i inside _
    rw [List.length_mapIdx] at inside
    have more : messageP1 tokenPos (i + 1) = P1.more := by
      rw [messageP1, if_neg (Nat.succ_ne_zero i), if_pos (by omega)]
    simp [more]

/-- What the client sends for a transaction without metadata, given its chunks. -/
def signApdus (first : Bytes) : List Bytes → List (UInt8 × Bytes)
  | [] => [(P1.sign, first)]
  | chunk :: chunks =>
    (P1.first, first) :: ((chunk :: chunks).dropLast.map fun chunk => (P1.more, chunk)) ++
      [(P1.last, (chunk :: chunks).getLast (List.cons_ne_nil chunk chunks))]

/-- **What the client sends**: a chunk with the path, and a chunk for each of the others. -/
theorem buildSignApdus_packed {decodeVarint32 : DecodeVarint32} (reads : decodeVarint32.Reads)
    (valid : ∀ f ∈ fs, f.Valid) (path : Bytes) :
    buildSignApdus decodeVarint32 path (fs.flatMap WireField.bytes) [] =
      some (signApdus (path ++ (packed path.length fs).1.flatMap WireField.bytes)
        ((packed path.length fs).2.map (List.flatMap WireField.bytes))) := by
  have enough := fields_length fs
  rw [buildSignApdus, messageLoop_packed reads valid (by omega)]
  simp only [List.nil_append, List.append_nil]
  cases (packed path.length fs).2.map (List.flatMap WireField.bytes) with
  | nil => simp [signApdus, lastP1]
  | cons chunk chunks =>
    have several : chunks.length + 1 + 1 ≠ 1 := by omega
    simp only [List.dropLast_cons_cons, List.mapIdx_cons, signApdus, lastP1, List.length_cons, several, if_false,
      ne_eq, not_true_eq_false]
    rw [messageP1_more (by rw [List.length_dropLast, List.length_cons]; omega)]
    simp [messageP1, List.getLast?_eq_some_getLast]

/-- The metadata behind a transaction, each with its index. -/
def signatureApdus (signatures : List Bytes) : List (UInt8 × Bytes) :=
  (signatures.dropLast.mapIdx fun i signature => (P1.trc10Name ||| P1.first ||| UInt8.ofNat i, signature)) ++
    (signatures.getLast?.map fun signature =>
      (P1.trc10Name ||| 0x08 ||| UInt8.ofNat (signatures.length - 1), signature)).toList

/-- With metadata behind it, no chunk of the transaction is the last one. -/
theorem buildSignApdus_signed {decodeVarint32 : DecodeVarint32} (reads : decodeVarint32.Reads)
    (valid : ∀ f ∈ fs, f.Valid) (path : Bytes) {signatures : List Bytes} (some' : signatures ≠ []) :
    buildSignApdus decodeVarint32 path (fs.flatMap WireField.bytes) signatures =
      some ((P1.first, path ++ (packed path.length fs).1.flatMap WireField.bytes) ::
        ((packed path.length fs).2.map fun chunk => (P1.more, chunk.flatMap WireField.bytes)) ++
          signatureApdus signatures) := by
  have enough := fields_length fs
  rw [buildSignApdus, messageLoop_packed reads valid (by omega)]
  simp only [List.nil_append]
  generalize path ++ (packed path.length fs).1.flatMap WireField.bytes = first
  have chunks_map : ((packed path.length fs).2.map fun chunk => (P1.more, chunk.flatMap WireField.bytes)) =
      ((packed path.length fs).2.map (List.flatMap WireField.bytes)).map fun chunk => (P1.more, chunk) := by
    rw [List.map_map]
    rfl
  rw [chunks_map]
  generalize (packed path.length fs).2.map (List.flatMap WireField.bytes) = chunks
  have several : (first :: chunks ++ signatures).length ≠ 1 := by
    have pos := List.length_pos_iff.mpr some'
    simp only [List.length_append, List.length_cons]
    omega
  have shown (i : Nat) : messageP1 (first :: chunks).length (i + (first :: chunks).length) =
      P1.trc10Name ||| P1.first ||| UInt8.ofNat i := by
    rw [messageP1, if_neg (by simp), if_neg (by omega), Nat.add_sub_cancel]
  have early : (first :: chunks).mapIdx (fun i chunk => (messageP1 (first :: chunks).length i, chunk)) =
      (P1.first, first) :: chunks.map fun chunk => (P1.more, chunk) := by
    rw [List.mapIdx_cons, messageP1_more (by simp)]
    rfl
  rw [List.dropLast_append_of_ne_nil some', List.mapIdx_append, early, List.getLast?_append_of_ne_nil _ some',
    lastP1, if_neg several, if_pos some']
  simp only [shown, signatureApdus, List.append_assoc]

/-- **What the client sends is a cut of the transaction between its fields**, with its metadata behind it; no APDU of
the transaction is too long. -/
theorem buildSignApdus_cut {decodeVarint32 : DecodeVarint32} (reads : decodeVarint32.Reads)
    (valid : ∀ f ∈ fs, f.Valid) {path : Bytes} (room : path.length < maxApduLen) :
    ∃ (first : List WireField) (rest : List (List WireField)), first ++ rest.flatten = fs ∧ (∀ chunk ∈ rest, chunk ≠ []) ∧
      buildSignApdus decodeVarint32 path (fs.flatMap WireField.bytes) [] =
        some (signApdus (path ++ first.flatMap WireField.bytes) (rest.map (List.flatMap WireField.bytes))) ∧
      (∀ signatures, signatures ≠ [] → buildSignApdus decodeVarint32 path (fs.flatMap WireField.bytes) signatures =
        some ((P1.first, path ++ first.flatMap WireField.bytes) ::
          (rest.map fun chunk => (P1.more, chunk.flatMap WireField.bytes)) ++ signatureApdus signatures)) ∧
      (path ++ first.flatMap WireField.bytes).length < maxApduLen ∧
      ∀ chunk ∈ rest, (chunk.flatMap WireField.bytes).length < maxApduLen := by
  obtain ⟨head, later⟩ := packed_short valid room
  refine ⟨_, _, packed_all path.length fs, packed_filled path.length fs, buildSignApdus_packed reads valid path,
    fun signatures some' => buildSignApdus_signed reads valid path some', ?_, later⟩
  rw [List.length_append]
  exact head

end Fields

section Sending

variable {σ κ : Type} (sdk : Sdk σ κ)

variable {w : World σ κ} {fs : List WireField}

variable {digest : Bytes → Buf 32} {path : Bytes} {words : Bip32Path}

end Sending

section Sample

/-- A decoder for the client. -/
def decodeVarint : DecodeVarint32 := fun bs =>
  (pbDecodeVarint bs).map fun (value, behind) => (value.toNat % 2 ^ 32, behind)

theorem decodeVarint_reads : decodeVarint.Reads := by
  intro n tail small
  have value : (UInt64.ofNat n).toNat = n := by rw [UInt64.toNat_ofNat', Nat.mod_eq_of_lt small]
  simp only [decodeVarint, pbDecodeVarint_base128 small, Option.map_some, value]

/-- Memo fields, too many for one APDU. -/
def sampleFields : List WireField := List.replicate 3 (.string 10 (List.replicate 100 7))

theorem sampleFields_valid : ∀ f ∈ sampleFields, f.Valid := by
  intro f among
  rw [List.eq_of_mem_replicate among]
  exact ⟨by decide, by decide +kernel⟩

theorem buildSignApdus_cut_memo : ∃ (first : List WireField) (rest : List (List WireField)), first ++
    rest.flatten = sampleFields ∧ buildSignApdus decodeVarint (List.replicate 21 0) (sampleFields.flatMap WireField.bytes) [] =
      some (signApdus (List.replicate 21 0 ++ first.flatMap WireField.bytes)
        (rest.map (List.flatMap WireField.bytes))) := by
  obtain ⟨first, rest, all, -, sent, -, -⟩ :=
    buildSignApdus_cut decodeVarint_reads sampleFields_valid
      (show (List.replicate 21 0 : Bytes).length < maxApduLen by decide)
  exact ⟨first, rest, all, sent⟩

end Sample

end TronLedger
