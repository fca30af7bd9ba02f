import TronLedger.Nanopb.RoundTrip

/-!
# A message carries what it was written from

What `pb_encode` writes field by field, `pb_decode` reads field by field.

* `Carries` says that bytes are records which take one destination to another. Messages are
  put together by `Carries.append`, and `Carries.decode` is what `pb_decode` makes of them.
* `Writes` says that an encoder writes such bytes, and how many at most. There is one lemma
  for each field type, and `Writes.cons` for the layout of a message.
* `Refused` and `Refuses` are the same for bytes of which one record is refused.
* What the encoder takes is within its arrays, and within its buffer.
-/

namespace TronLedger.Nanopb

section Carries

variable {σ : Type} {fields : Descriptor σ} {mem : Mem}

/-- The bytes are records that take `dest` to `dest'`. -/
def Carries (fields : Descriptor σ) (mem : Mem) (bs : Bytes) (dest dest' : σ) : Prop :=
  ∃ rs, Framed bs rs ∧ decodeRecords fields mem rs dest = (true, dest')

theorem Carries.nil (dest : σ) : Carries fields mem [] dest dest := ⟨[], .nil, rfl⟩

theorem decodeRecords_append {rs qs : List Record} {dest dest' : σ}
    (first : decodeRecords fields mem rs dest = (true, dest')) :
    decodeRecords fields mem (rs ++ qs) dest = decodeRecords fields mem qs dest' := by
  induction rs generalizing dest with
  | nil =>
    obtain rfl := (Prod.mk.inj first).2
    rfl
  | cons r rs ih =>
    simp only [decodeRecords, List.cons_append] at first ⊢
    cases applied : applyRecord fields mem r dest with
    | mk ok behind =>
      cases ok with
      | false => simp [applied] at first
      | true =>
        simp only [applied] at first
        exact ih first

theorem Carries.append {a b : Bytes} {dest dest' dest'' : σ} (left : Carries fields mem a dest dest')
    (right : Carries fields mem b dest' dest'') : Carries fields mem (a ++ b) dest dest'' := by
  obtain ⟨rs, framed, decoded⟩ := left
  obtain ⟨qs, framed', decoded'⟩ := right
  exact ⟨rs ++ qs, framed.append framed', by rw [decodeRecords_append decoded, decoded']⟩

/-- What carries to a destination is decoded to it. -/
theorem Carries.decode (loc : fields.Local) {bs : Bytes} {dest dest' : σ}
    (carries : Carries fields mem bs dest dest') :
    pbDecode fields ⟨mem, bs⟩ dest = (some ⟨mem, []⟩, dest') := by
  obtain ⟨rs, framed, decoded⟩ := carries
  rw [pbDecode_framed loc framed, decoded]
  rfl

/-- A tag and what a field of its wire type takes are one record. -/
theorem readRecord_tagged {wiretype : EncodedType} {tag : UInt32} {body : Bytes} (number : tag ≠ 0 ∧ tag.toNat < 2 ^ 29)
    (skips : pbSkipField wiretype.wireType body = some []) :
    readRecord (base128 (tagNumber wiretype tag) ++ body) = some (⟨tag.toNat, wiretype.wireType, body⟩, []) := by
  obtain ⟨nonzero, small⟩ := number
  refine readRecord_spec.mpr ⟨fun zero => nonzero (UInt32.toNat_inj.mp zero), ?_, ?_⟩
  · rw [List.append_nil]
    exact pbDecodeTag_base128 wiretype small body
  · rw [List.append_nil]
    exact skips

/-- One record, and what its field decoder does with it. -/
theorem Carries.record {wiretype : EncodedType} {tag : UInt32} {body : Bytes} {field : FieldDecoder σ}
    {dest dest' : σ} {stream : Istream} (number : tag ≠ 0 ∧ tag.toNat < 2 ^ 29)
    (skips : pbSkipField wiretype.wireType body = some []) (known : fields tag.toNat = some field)
    (decoded : field wiretype.wireType ⟨mem, body⟩ dest = (some stream, dest')) :
    Carries fields mem (base128 (tagNumber wiretype tag) ++ body) dest dest' := by
  exact ⟨[⟨tag.toNat, wiretype.wireType, body⟩], .cons (readRecord_tagged number skips) .nil, by
    simp [decodeRecords, applyRecord, known, decoded]⟩

/-- The bytes are records of which one is refused; `dest'` is what is left then. -/
def Refused (fields : Descriptor σ) (mem : Mem) (bs : Bytes) (dest dest' : σ) : Prop :=
  ∃ rs, Framed bs rs ∧ decodeRecords fields mem rs dest = (false, dest')

theorem Refused.decode (loc : fields.Local) {bs : Bytes} {dest dest' : σ} (refused : Refused fields mem bs dest dest') :
    pbDecode fields ⟨mem, bs⟩ dest = (none, dest') := by
  obtain ⟨rs, framed, decoded⟩ := refused
  rw [pbDecode_framed loc framed, decoded]
  rfl

/-- What is read before counts for what is left. -/
theorem Refused.behind {a b : Bytes} {dest dest' dest'' : σ} (carries : Carries fields mem a dest dest')
    (refused : Refused fields mem b dest' dest'') : Refused fields mem (a ++ b) dest dest'' := by
  obtain ⟨rs, framed, decoded⟩ := carries
  obtain ⟨qs, framed', decoded'⟩ := refused
  exact ⟨rs ++ qs, framed.append framed', by rw [decodeRecords_append decoded, decoded']⟩

theorem decodeRecords_refused {rs qs : List Record} {dest dest' : σ}
    (first : decodeRecords fields mem rs dest = (false, dest')) :
    decodeRecords fields mem (rs ++ qs) dest = (false, dest') := by
  induction rs generalizing dest with
  | nil => simp [decodeRecords] at first
  | cons r rs ih =>
    simp only [decodeRecords, List.cons_append] at first ⊢
    cases applied : applyRecord fields mem r dest with
    | mk ok behind =>
      cases ok with
      | false =>
        simp only [applied] at first
        exact first
      | true =>
        simp only [applied] at first
        exact ih first

/-- What follows is not read any more. -/
theorem Refused.before {a b : Bytes} {dest dest' other other' : σ} (refused : Refused fields mem a dest dest')
    (carries : Carries fields mem b other other') : Refused fields mem (a ++ b) dest dest' := by
  obtain ⟨rs, framed, decoded⟩ := refused
  obtain ⟨qs, framed', -⟩ := carries
  exact ⟨rs ++ qs, framed.append framed', decodeRecords_refused decoded⟩

theorem Refused.record {wiretype : EncodedType} {tag : UInt32} {body : Bytes} {field : FieldDecoder σ}
    {dest dest' : σ} (number : tag ≠ 0 ∧ tag.toNat < 2 ^ 29)
    (skips : pbSkipField wiretype.wireType body = some []) (known : fields tag.toNat = some field)
    (decoded : field wiretype.wireType ⟨mem, body⟩ dest = (none, dest')) :
    Refused fields mem (base128 (tagNumber wiretype tag) ++ body) dest dest' := by
  exact ⟨[⟨tag.toNat, wiretype.wireType, body⟩], .cons (readRecord_tagged number skips) .nil, by
    simp [decodeRecords, applyRecord, known, decoded]⟩

end Carries

/-- The encoder writes at most `size` bytes, and they carry `dest` to `dest'`. -/
def Writes {σ : Type} (fields : Descriptor σ) (mem : Mem) (size : Nat) (encode : Encoder) (dest dest' : σ) : Prop :=
  ∃ bs, bs.length ≤ size ∧ encode = pbWrite bs ∧ Carries fields mem bs dest dest'

/-- The encoder writes at most `size` bytes, which are refused and leave `dest'`. -/
def Refuses {σ : Type} (fields : Descriptor σ) (mem : Mem) (size : Nat) (encode : Encoder) (dest dest' : σ) : Prop :=
  ∃ bs, bs.length ≤ size ∧ encode = pbWrite bs ∧ Refused fields mem bs dest dest'

section Layouts

variable {σ τ : Type} {fields : Descriptor σ} {mem : Mem}

theorem Writes.nothing (dest : σ) : Writes fields mem 0 some dest dest :=
  ⟨[], Nat.le_refl 0, pbWrite_nil.symm, .nil dest⟩

theorem Writes.andThen {a b : Nat} {first next : Encoder} {dest dest' dest'' : σ}
    (left : Writes fields mem a first dest dest') (right : Writes fields mem b next dest' dest'') :
    Writes fields mem (a + b) (first.andThen next) dest dest'' := by
  obtain ⟨bs, short, rfl, carries⟩ := left
  obtain ⟨bs', short', rfl, carries'⟩ := right
  exact ⟨bs ++ bs', by rw [List.length_append]; omega, pbWrite_andThen bs bs', carries.append carries'⟩

theorem Writes.nil {src : τ} (dest : σ) : Writes fields mem 0 (pbEncode [] src) dest dest := .nothing dest

theorem Writes.cons {a b : Nat} {field : τ → Encoder} {layout : Layout τ} {src : τ} {dest dest' dest'' : σ}
    (left : Writes fields mem a (field src) dest dest')
    (right : Writes fields mem b (pbEncode layout src) dest' dest'') :
    Writes fields mem (a + b) (pbEncode (field :: layout) src) dest dest'' :=
  left.andThen right

theorem Refuses.cons {a b : Nat} {field : τ → Encoder} {layout : Layout τ} {src : τ} {dest dest' dest'' : σ}
    (left : Writes fields mem a (field src) dest dest')
    (right : Refuses fields mem b (pbEncode layout src) dest' dest'') :
    Refuses fields mem (a + b) (pbEncode (field :: layout) src) dest dest'' := by
  obtain ⟨bs, short, written, carries⟩ := left
  obtain ⟨bs', short', written', refused⟩ := right
  refine ⟨bs ++ bs', by rw [List.length_append]; omega, ?_, .behind carries refused⟩
  rw [← pbWrite_andThen, ← written, ← written']
  rfl

theorem Refuses.head {a b : Nat} {field : τ → Encoder} {layout : Layout τ} {src : τ} {dest dest' other other' : σ}
    (left : Refuses fields mem a (field src) dest dest')
    (right : Writes fields mem b (pbEncode layout src) other other') :
    Refuses fields mem (a + b) (pbEncode (field :: layout) src) dest dest' := by
  obtain ⟨bs, short, written, refused⟩ := left
  obtain ⟨bs', short', written', carries⟩ := right
  refine ⟨bs ++ bs', by rw [List.length_append]; omega, ?_, .before refused carries⟩
  rw [← pbWrite_andThen, ← written, ← written']
  rfl

theorem Refuses.mono {a b : Nat} {encode : Encoder} {dest dest' : σ}
    (refuses : Refuses fields mem a encode dest dest') (le : a ≤ b) : Refuses fields mem b encode dest dest' := by
  obtain ⟨bs, short, written, refused⟩ := refuses
  exact ⟨bs, Nat.le_trans short le, written, refused⟩

theorem Writes.mono {a b : Nat} {encode : Encoder} {dest dest' : σ}
    (writes : Writes fields mem a encode dest dest') (le : a ≤ b) : Writes fields mem b encode dest dest' := by
  obtain ⟨bs, short, written, carries⟩ := writes
  exact ⟨bs, Nat.le_trans short le, written, carries⟩

end Layouts

section Sizes

theorem tag_length (wiretype : EncodedType) (tag : UInt32) : (base128 (tagNumber wiretype tag)).length ≤ 6 := by
  have bits : wiretype.bits.toNat < 8 := by cases wiretype <;> decide
  have bound := tag.toNat_lt
  exact base128_length_le (k := 5) (by rw [tagNumber]; omega)

theorem varint_length (value : UInt64) : (base128 value.toNat).length ≤ 10 := by
  have bound := value.toNat_lt
  exact base128_length_le (k := 9) (by omega)

theorem lengthPrefixed_length {content : Bytes} (short : content.length < 2 ^ 32) :
    (lengthPrefixed content).length ≤ 5 + content.length := by
  have prefixed : (base128 content.length).length ≤ 5 := base128_length_le (k := 4) (by omega)
  rw [lengthPrefixed, List.length_append]
  omega

end Sizes

section Fields

variable {σ τ : Type} {fields : Descriptor σ} {mem : Mem} {tag : UInt32} {src : τ} {dest dest' : σ}

/-- A number that is not the default is a tag and a varint. -/
theorem encodeVarint_writes {get : τ → UInt64} {field : FieldDecoder σ} (known : fields tag.toNat = some field)
    (number : tag ≠ 0 ∧ tag.toNat < 2 ^ 29) (blank : get src = 0 → dest' = dest)
    (decoded : field .varint ⟨mem, base128 (get src).toNat⟩ dest = (some ⟨mem, []⟩, dest')) :
    Writes fields mem 16 (encodeVarint tag get src) dest dest' := by
  by_cases zero : get src = 0
  · rw [blank zero, encodeVarint, if_pos zero]
    exact (Writes.nothing dest).mono (Nat.zero_le 16)
  · refine ⟨base128 (tagNumber .varint tag) ++ base128 (get src).toNat, ?_, ?_, ?_⟩
    · have first := tag_length .varint tag
      have second := varint_length (get src)
      rw [List.length_append]
      omega
    · rw [encodeVarint, if_neg zero, pbEncodeTag_eq, pbEncodeVarint_eq, pbWrite_andThen]
    · refine .record number ?_ known decoded
      have skips := pbSkipVarint_base128 (get src).toNat []
      rwa [List.append_nil] at skips

/-- What a varint reader makes of a number. -/
theorem scalar_base128 {α : Type} {read : Reader α} {store : α → σ → Bool × σ} {n : Nat} {value : α}
    (readable : read (base128 n ++ []) = some (value, [])) (stored : store value dest = (true, dest')) :
    scalar .varint read store .varint ⟨mem, base128 n⟩ dest = (some ⟨mem, []⟩, dest') := by
  rw [List.append_nil] at readable
  simp [scalar, readable, stored]

theorem encodeInt64_writes {get : τ → Int64} {set : Int64 → σ → σ} (known : fields tag.toNat = some (int64 set))
    (number : tag ≠ 0 ∧ tag.toNat < 2 ^ 29) (blank : set 0 dest = dest) :
    Writes fields mem 16 (encodeInt64 tag get src) dest (set (get src) dest) := by
  refine encodeVarint_writes known number (fun zero => ?_)
    (scalar_base128 (pbDecodeVarint_base128 (UInt64.toNat_lt _) []) (by simp))
  have none : get src = 0 := by simpa using congrArg UInt64.toInt64 zero
  rw [none, blank]

theorem encodeUint32_writes {get : τ → UInt32} {set : UInt32 → σ → σ} (known : fields tag.toNat = some (uint32 set))
    (number : tag ≠ 0 ∧ tag.toNat < 2 ^ 29) (blank : set 0 dest = dest) :
    Writes fields mem 16 (encodeUint32 tag get src) dest (set (get src) dest) := by
  refine encodeVarint_writes known number (fun zero => ?_)
    (scalar_base128 (pbDecodeVarint_base128 (UInt64.toNat_lt _) []) (by simp))
  have none : get src = 0 := by simpa using congrArg UInt64.toUInt32 zero
  rw [none, blank]

/-- A sign-extended number is cut to itself. -/
theorem int32_extended (v : Int32) : v.toInt64.toUInt64.toUInt32.toInt32 = v := by
  have cut : v.toInt64.toUInt64.toUInt32 = v.toUInt32 := by
    apply UInt32.toBitVec_inj.mp
    have low : (v.toBitVec.signExtend 64).setWidth 32 = v.toBitVec := by
      ext i inside
      have wide : i < 64 := by omega
      rw [BitVec.getElem_setWidth, BitVec.getLsbD_signExtend]
      simp [inside, wide]
    simpa using low
  rw [cut]
  rfl

theorem encodeInt32_writes {get : τ → Int32} {set : Int32 → σ → σ} (known : fields tag.toNat = some (int32 set))
    (number : tag ≠ 0 ∧ tag.toNat < 2 ^ 29) (blank : set 0 dest = dest) :
    Writes fields mem 16 (encodeInt32 tag get src) dest (set (get src) dest) := by
  refine encodeVarint_writes known number (fun zero => ?_)
    (scalar_base128 (pbDecodeVarint_base128 (UInt64.toNat_lt _) []) ?_)
  · have none : get src = 0 := by
      rw [← int32_extended (get src), zero]
      rfl
    rw [none, blank]
  · simp only [UInt64.ofNat_toNat, int32_extended]

theorem encodeBool_writes {get : τ → Bool} {set : Bool → σ → σ} (known : fields tag.toNat = some (bool set))
    (number : tag ≠ 0 ∧ tag.toNat < 2 ^ 29) (blank : set false dest = dest) :
    Writes fields mem 16 (encodeBool tag get src) dest (set (get src) dest) := by
  have bit : (if get src then (1 : UInt64) else 0).toNat < 2 ^ 32 := by split <;> decide
  refine encodeVarint_writes known number (fun zero => ?_) (scalar_base128 (pbDecodeVarint32_base128 bit []) ?_)
  · cases value : get src with
    | false => exact blank
    | true => simp [value] at zero
  · cases get src <;> rfl

theorem encodeString_bytes {content : Bytes} (short : content.length < 2 ^ 32) :
    (base128 (tagNumber .string tag) ++ lengthPrefixed content).length ≤ content.length + 11 ∧
      encodeString tag content = pbWrite (base128 (tagNumber .string tag) ++ lengthPrefixed content) ∧
      pbSkipField EncodedType.string.wireType (lengthPrefixed content) = some [] := by
  have first := tag_length .string tag
  have second := lengthPrefixed_length short
  have taken := pbMakeStringSubstream_lengthPrefixed short []
  rw [List.append_nil] at taken
  refine ⟨by rw [List.length_append]; omega, ?_, by simp [EncodedType.wireType, pbSkipField, taken]⟩
  rw [encodeString, pbEncodeTag_eq, pbEncodeString_eq (by omega), pbWrite_andThen]

/-- A string that is written is a tag, its length and its content. -/
theorem encodeString_writes {content : Bytes} {field : FieldDecoder σ} (known : fields tag.toNat = some field)
    (number : tag ≠ 0 ∧ tag.toNat < 2 ^ 29) (short : content.length < 2 ^ 32) {stream : Istream}
    (decoded : field .string ⟨mem, lengthPrefixed content⟩ dest = (some stream, dest')) :
    Writes fields mem (content.length + 11) (encodeString tag content) dest dest' := by
  obtain ⟨bound, written, skips⟩ := encodeString_bytes short
  exact ⟨_, bound, written, .record number skips known decoded⟩

theorem encodeString_refuses {content : Bytes} {field : FieldDecoder σ} (known : fields tag.toNat = some field)
    (number : tag ≠ 0 ∧ tag.toNat < 2 ^ 29) (short : content.length < 2 ^ 32)
    (decoded : field .string ⟨mem, lengthPrefixed content⟩ dest = (none, dest')) :
    Refuses fields mem (content.length + 11) (encodeString tag content) dest dest' := by
  obtain ⟨bound, written, skips⟩ := encodeString_bytes short
  exact ⟨_, bound, written, .record number skips known decoded⟩

/-- What a delimited reader makes of it. -/
theorem delimited_lengthPrefixed {accept : Nat → Bool} {prepare : Nat → σ → σ} {store : Bytes → σ → σ}
    {content : Bytes} (short : content.length < 2 ^ 32) (accepted : accept content.length = true) :
    delimited accept prepare store .string ⟨mem, lengthPrefixed content⟩ dest =
      (some ⟨mem, []⟩, store content (prepare content.length dest)) := by
  have size : (UInt32.ofNat content.length).toNat = content.length := by
    rw [UInt32.toNat_ofNat', Nat.mod_eq_of_lt short]
  simp [delimited, lengthPrefixed, pbDecodeVarint32_base128 short, size, accepted, pbRead]

theorem encodeFixedLengthBytes_writes {n : Nat} {get : τ → Buf n} {set : Buf n → σ → σ}
    (known : fields tag.toNat = some (fixedLengthBytes n set)) (number : tag ≠ 0 ∧ tag.toNat < 2 ^ 29)
    (short : n < 2 ^ 32) :
    Writes fields mem (n + 11) (encodeFixedLengthBytes tag get src) dest (set (get src) dest) := by
  have length := (get src).size
  have whole : Buf.ofBytes n (get src).bytes = get src := Buf.ext_bytes (Buf.bytes_ofBytes length)
  have writes : Writes fields mem _ (encodeString tag (get src).bytes) dest _ :=
    encodeString_writes known number (by rw [length]; exact short)
      (delimited_lengthPrefixed (by rw [length]; exact short) (by simp [length]))
  rw [length, whole] at writes
  exact writes

/-- A part of the destination that is modified twice, from its default on. -/
theorem modify_twice {α : Type} {modify : (α → α) → σ → σ} {blank : α}
    (fuse : ∀ f g, modify f (modify g dest) = modify (fun a => f (g a)) dest)
    (same : modify (fun _ => blank) dest = dest) (f g : α → α) :
    modify f (modify g dest) = modify (fun _ => f (g blank)) dest := by
  rw [← same, fuse g, fuse f, same]

/-- The bytes behind the content are zero, as in a structure that was cleared and filled once. -/
def PbBytes.Canonical {n : Nat} (b : PbBytes n) : Prop := b.size ≤ n ∧ b.bytes = Buf.ofBytes n b.content

theorem PbBytes.content_length {n : Nat} {b : PbBytes n} (fits : b.size ≤ n) : b.content.length = b.size := by
  rw [PbBytes.content, List.length_take, b.bytes.size]
  exact Nat.min_eq_left fits

theorem PbBytes.Canonical.empty {n : Nat} {b : PbBytes n} (canonical : b.Canonical) (empty : b.size = 0) :
    b = default := by
  have nothing : b.content = [] := List.length_eq_zero_iff.mp (by rw [content_length canonical.1, empty])
  have zeros : b.bytes = Buf.zero n := by
    rw [canonical.2, nothing]
    exact Buf.ext_bytes (overwrite_nil _ 0)
  cases b
  cases empty
  cases zeros
  rfl

/-- The content, in a structure that was cleared. -/
def PbBytes.cleared {n : Nat} (b : PbBytes n) : PbBytes n := { b with bytes := Buf.ofBytes n b.content }

theorem PbBytes.cleared_content {n : Nat} {b : PbBytes n} (fits : b.size ≤ n) : b.cleared.content = b.content := by
  have length := content_length fits
  have room : 0 + b.content.length ≤ n := by omega
  change ((Buf.zero n).write 0 b.content).bytes.take b.size = b.content
  rw [Buf.write_bytes _ _ _ room, List.take_zero, List.nil_append, ← length, List.take_left]

theorem PbBytes.cleared_canonical {n : Nat} {b : PbBytes n} (fits : b.size ≤ n) : b.cleared.Canonical :=
  ⟨fits, by rw [cleared_content fits]; rfl⟩

/-- Only the content is encoded. -/
theorem encodeBytes_cleared {n : Nat} {get : τ → PbBytes n} {src src' : τ} (cleared : get src' = (get src).cleared) :
    encodeBytes tag get src' = encodeBytes tag get src := by
  have size : (get src').size = (get src).size := by rw [cleared]; rfl
  unfold encodeBytes
  rw [size]
  split
  · rfl
  split
  · rfl
  · rename_i fits
    rw [cleared, PbBytes.cleared_content (Nat.not_lt.mp fits)]

theorem encodeBytes_writes {n : Nat} {get : τ → PbBytes n} {modify : (PbBytes n → PbBytes n) → σ → σ}
    (known : fields tag.toNat = some (bytes n modify)) (number : tag ≠ 0 ∧ tag.toNat < 2 ^ 29)
    (short : n < 2 ^ 32) (canonical : (get src).Canonical)
    (fuse : ∀ f g, modify f (modify g dest) = modify (fun b => f (g b)) dest)
    (blank : modify (fun _ => default) dest = dest) :
    Writes fields mem (n + 11) (encodeBytes tag get src) dest (modify (fun _ => get src) dest) := by
  have length := PbBytes.content_length canonical.1
  have fits := canonical.1
  by_cases empty : (get src).size = 0
  · rw [canonical.empty empty, blank, encodeBytes, if_pos empty]
    exact (Writes.nothing dest).mono (Nat.zero_le _)
  · have stored : (⟨(get src).content.length, Buf.ofBytes n (get src).content⟩ : PbBytes n) = get src := by
      rw [← canonical.2, length]
    have twice := (modify_twice fuse blank (fun b => { b with bytes := b.bytes.write 0 (get src).content })
      fun b => { b with size := (get src).content.length }).trans (congrArg (fun b => modify (fun _ => b) dest) stored)
    rw [encodeBytes, if_neg empty, if_neg (by omega), ← twice]
    exact (encodeString_writes known number (by rw [length]; omega)
      (delimited_lengthPrefixed (by rw [length]; omega) (by simp [length, fits]))).mono (by omega)

/-- A callback that is not set. -/
theorem encodeCallback_unset : Writes fields mem 0 (encodeCallback tag (fun _ => none) src) dest dest := .nothing dest

/-- A callback that takes its content, or is not called. -/
theorem encodeCallback_writes {content : τ → Option Bytes} {decode : Callback σ} {size : Nat}
    (known : fields tag.toNat = some (callback decode)) (number : tag ≠ 0 ∧ tag.toNat < 2 ^ 29)
    (short : size < 2 ^ 32) (fits : ∀ bs, content src = some bs → bs.length ≤ size)
    (absent : content src = none → dest' = dest)
    (taken : ∀ bs, content src = some bs → callbackLoop decode (bs.length + 1) ⟨mem, bs⟩ dest = (true, dest')) :
    Writes fields mem (size + 11) (encodeCallback tag content src) dest dest' := by
  cases given : content src with
  | none =>
    rw [absent given, encodeCallback, given]
    exact (Writes.nothing dest).mono (Nat.zero_le _)
  | some bs =>
    have bound := fits bs given
    have substream := pbMakeStringSubstream_lengthPrefixed (show bs.length < 2 ^ 32 by omega) []
    rw [List.append_nil] at substream
    have decoded : callback decode .string ⟨mem, lengthPrefixed bs⟩ dest = (some ⟨mem, []⟩, dest') := by
      simp [callback, substream, taken bs given]
    simp only [encodeCallback, given]
    exact (encodeString_writes known number (by omega) decoded).mono (Nat.add_le_add_right bound 11)

/-- A callback that refuses its content. -/
theorem encodeCallback_refuses {content : τ → Option Bytes} {decode : Callback σ} {bs : Bytes}
    (known : fields tag.toNat = some (callback decode)) (number : tag ≠ 0 ∧ tag.toNat < 2 ^ 29)
    (given : content src = some bs) (short : bs.length < 2 ^ 32)
    (refused : callbackLoop decode (bs.length + 1) ⟨mem, bs⟩ dest = (false, dest')) :
    Refuses fields mem (bs.length + 11) (encodeCallback tag content src) dest dest' := by
  have substream := pbMakeStringSubstream_lengthPrefixed short []
  rw [List.append_nil] at substream
  have decoded : callback decode .string ⟨mem, lengthPrefixed bs⟩ dest = (none, dest') := by
    simp [callback, substream, refused]
  simp only [encodeCallback, given]
  exact encodeString_refuses known number short decoded

/-- The message in it carries a destination to another. -/
theorem submessage_writes {ρ : Type} {enter : σ → Bool × σ} {sub : Descriptor ρ} {get : σ → ρ}
    {set : ρ → σ → σ} {entered : σ} {inner : Encoder} {size : Nat} {after : ρ}
    (known : fields tag.toNat = some (submessage enter sub get set)) (number : tag ≠ 0 ∧ tag.toNat < 2 ^ 29)
    (enters : enter dest = (true, entered)) (loc : sub.Local) (short : size < 2 ^ 32)
    (writes : Writes sub mem size inner (get entered) after) :
    Writes fields mem (size + 11) ((pbEncodeTag .string tag).andThen (pbEncodeSubmessage inner)) dest
      (set after entered) := by
  obtain ⟨content, bound, written, carries⟩ := writes
  have fits : content.length < 2 ^ 32 := by omega
  have taken := pbMakeStringSubstream_lengthPrefixed fits []
  rw [List.append_nil] at taken
  have decoded : submessage enter sub get set .string ⟨mem, lengthPrefixed content⟩ dest =
      (some ⟨mem, []⟩, set after entered) := by
    simp [submessage, enters, taken, carries.decode loc]
  refine Writes.mono ?_ (Nat.add_le_add_right bound 11)
  rw [pbEncodeSubmessage_eq written (by omega), ← pbEncodeString_eq (by omega)]
  exact encodeString_writes known number fits decoded

theorem encodeOptional_writes {ρ υ : Type} {mark : σ → σ} {sub : Descriptor ρ} {get : σ → ρ} {set : ρ → σ → σ}
    {has : τ → Bool} {layout : Layout υ} {getSub : τ → υ} {size : Nat} {after : ρ}
    (known : fields tag.toNat = some (optional mark sub get set)) (number : tag ≠ 0 ∧ tag.toNat < 2 ^ 29)
    (loc : sub.Local) (short : size < 2 ^ 32)
    (writes : Writes sub mem size (pbEncode layout (getSub src)) (get (mark dest)) after)
    (absent : has src = false → dest' = dest) (present : has src = true → dest' = set after (mark dest)) :
    Writes fields mem (size + 11) (encodeOptional tag has layout getSub src) dest dest' := by
  cases marked : has src with
  | false =>
    rw [absent marked]
    simp only [encodeOptional, marked, Bool.false_eq_true, if_false]
    exact (Writes.nothing dest).mono (Nat.zero_le _)
  | true =>
    rw [present marked]
    simp only [encodeOptional, marked, if_true]
    exact submessage_writes known number rfl loc short writes

section Repeated

variable {ρ : Type} [Inhabited ρ] {max size : Nat} {entries : σ → List ρ} {setEntries : List ρ → σ → σ}
  {sub : Descriptor ρ} {layout : Layout ρ}

/-- The entries behind those that are already there. -/
theorem encodeEntries_writes (known : fields tag.toNat = some (repeated max entries setEntries sub))
    (number : tag ≠ 0 ∧ tag.toNat < 2 ^ 29) (loc : sub.Local) (short : size < 2 ^ 32)
    (reads : ∀ es, entries (setEntries es dest) = es)
    (sets : ∀ es fs, setEntries fs (setEntries es dest) = setEntries fs dest) {before behind : List ρ}
    (writes : ∀ entry ∈ behind, Writes sub mem size (pbEncode layout entry) default entry)
    (room : before.length + behind.length ≤ max) :
    Writes fields mem (behind.length * (size + 11)) (encodeEntries tag layout behind) (setEntries before dest)
      (setEntries (before ++ behind) dest) := by
  induction behind generalizing before with
  | nil =>
    rw [List.append_nil, List.length_nil, Nat.zero_mul]
    exact .nothing _
  | cons entry behind ih =>
    rw [List.length_cons] at room
    have enters : (decide ((entries (setEntries before dest)).length < max), setEntries before dest) =
        (true, setEntries before dest) := by
      rw [reads, decide_eq_true (by omega)]
    have first := submessage_writes known number enters loc short (writes entry List.mem_cons_self)
    rw [reads, sets] at first
    have left : (before ++ [entry]).length + behind.length ≤ max := by
      rw [List.length_append, List.length_singleton]
      omega
    have rest := ih (fun e among => writes e (List.mem_cons_of_mem entry among)) left
    rw [List.append_assoc, List.singleton_append] at rest
    rw [List.length_cons, Nat.succ_mul, Nat.add_comm]
    exact first.andThen rest

theorem encodeRepeated_writes {get : τ → List ρ}
    (known : fields tag.toNat = some (repeated max entries setEntries sub))
    (number : tag ≠ 0 ∧ tag.toNat < 2 ^ 29) (loc : sub.Local) (short : size < 2 ^ 32)
    (writes : ∀ entry ∈ get src, Writes sub mem size (pbEncode layout entry) default entry)
    (room : (get src).length ≤ max) (reads : ∀ es, entries (setEntries es dest) = es)
    (sets : ∀ es fs, setEntries fs (setEntries es dest) = setEntries fs dest) (blank : setEntries [] dest = dest) :
    Writes fields mem (max * (size + 11)) (encodeRepeated tag max layout get src) dest
      (setEntries (get src) dest) := by
  have all : ([] : List ρ).length + (get src).length ≤ max := by simpa using room
  have written := encodeEntries_writes known number loc short reads sets writes all
  rw [blank, List.nil_append] at written
  rw [encodeRepeated, if_neg (by omega)]
  exact written.mono (Nat.mul_le_mul_right _ room)

end Repeated

end Fields

section Taken

variable {σ τ : Type} {tag : UInt32} {src : σ} {layout : Layout σ} {stream stream' : Ostream}

/-- Two values that no field tells apart. -/
theorem pbEncode_congr {src' : σ} (same : ∀ field ∈ layout, field src = field src') :
    pbEncode layout src = pbEncode layout src' := by
  induction layout with
  | nil => rfl
  | cons field layout ih =>
    rw [pbEncode, pbEncode, same field List.mem_cons_self, ih fun f among => same f (List.mem_cons_of_mem field among)]

/-- A message is taken field by field. -/
theorem pbEncode_takes (encoded : pbEncode layout src stream = some stream') :
    ∀ field ∈ layout, ∃ before after, field src before = some after := by
  induction layout generalizing stream with
  | nil => simp
  | cons field layout ih =>
    obtain ⟨between, first, rest⟩ := Option.bind_eq_some_iff.mp encoded
    intro f among
    rcases List.mem_cons.mp among with rfl | among
    · exact ⟨stream, between, first⟩
    · exact ih rest f among

theorem encodeBytes_takes {n : Nat} {get : σ → PbBytes n} (encoded : encodeBytes tag get src stream = some stream') :
    (get src).size ≤ n := by
  unfold encodeBytes at encoded
  split at encoded
  · omega
  split at encoded
  · simp at encoded
  · omega

theorem pbEncodeSubmessage_takes {encode : Encoder} (encoded : pbEncodeSubmessage encode stream = some stream') :
    ∃ counted, encode .sizing = some counted := by
  unfold pbEncodeSubmessage at encoded
  cases sized : encode .sizing with
  | none => simp [sized] at encoded
  | some counted => exact ⟨counted, rfl⟩

theorem encodeOptional_takes {has : σ → Bool} {fields : Layout τ} {get : σ → τ} (present : has src = true)
    (encoded : encodeOptional tag has fields get src stream = some stream') :
    ∃ counted, pbEncode fields (get src) .sizing = some counted := by
  rw [encodeOptional, if_pos present] at encoded
  obtain ⟨between, -, rest⟩ := Option.bind_eq_some_iff.mp encoded
  exact pbEncodeSubmessage_takes rest

theorem encodeEntries_takes {fields : Layout τ} {entries : List τ}
    (encoded : encodeEntries tag fields entries stream = some stream') :
    ∀ entry ∈ entries, ∃ counted, pbEncode fields entry .sizing = some counted := by
  induction entries generalizing stream with
  | nil => simp
  | cons entry entries ih =>
    obtain ⟨between, first, rest⟩ := Option.bind_eq_some_iff.mp encoded
    obtain ⟨_, -, sub⟩ := Option.bind_eq_some_iff.mp first
    intro e among
    rcases List.mem_cons.mp among with rfl | among
    · exact pbEncodeSubmessage_takes sub
    · exact ih rest e among

theorem encodeRepeated_takes {max : Nat} {fields : Layout τ} {get : σ → List τ}
    (encoded : encodeRepeated tag max fields get src stream = some stream') :
    (get src).length ≤ max ∧ ∀ entry ∈ get src, ∃ counted, pbEncode fields entry .sizing = some counted := by
  unfold encodeRepeated at encoded
  split at encoded
  · simp at encoded
  · exact ⟨by omega, encodeEntries_takes encoded⟩

/-- What is written fits into the buffer. -/
theorem pbWrite_takes {bs : Bytes} {max : Nat} (room : stream.maxSize = some max)
    (written : pbWrite bs stream = some stream') : stream'.maxSize = some max ∧ bs.length ≤ max := by
  simp only [pbWrite, Ostream.full, room] at written
  split at written
  · simp at written
  · rename_i fits
    obtain rfl := Option.some.inj written
    simp at fits
    exact ⟨rfl, by omega⟩

theorem encodeString_takes {content : Bytes} {max : Nat} (room : stream.maxSize = some max)
    (encoded : encodeString tag content stream = some stream') : stream'.maxSize = some max ∧ content.length ≤ max := by
  obtain ⟨tagged, first, rest⟩ := Option.bind_eq_some_iff.mp encoded
  obtain ⟨sized, second, last⟩ := Option.bind_eq_some_iff.mp rest
  rw [pbEncodeTag_eq] at first
  rw [pbEncodeVarint_eq] at second
  exact pbWrite_takes (pbWrite_takes (pbWrite_takes room first).1 second).1 last

theorem encodeVarint_takes {get : σ → UInt64} {max : Nat} (room : stream.maxSize = some max)
    (encoded : encodeVarint tag get src stream = some stream') : stream'.maxSize = some max := by
  unfold encodeVarint at encoded
  split at encoded
  · obtain rfl := Option.some.inj encoded
    exact room
  · obtain ⟨tagged, first, rest⟩ := Option.bind_eq_some_iff.mp encoded
    rw [pbEncodeTag_eq] at first
    rw [pbEncodeVarint_eq] at rest
    exact (pbWrite_takes (pbWrite_takes room first).1 rest).1

end Taken

end TronLedger.Nanopb
