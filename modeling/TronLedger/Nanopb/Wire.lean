import TronLedger.Nanopb.Decode

/-!
# The records of a message

A message on the wire is a sequence of records: a tag, and behind it as many bytes as the
wire type asks for.

* `Framed` says that bytes are a sequence of records; `records` computes them.
* A `Local` field decoder takes exactly its record, so decoding a message is decoding its
  records one after the other (`pbDecode_framed`), and messages decode piece by piece.
-/

namespace TronLedger.Nanopb

/-- A field on the wire; `body` is what follows the tag. -/
structure Record where
  number : Nat
  wireType : WireType
  body : Bytes
  deriving DecidableEq

/-- The content of a length-delimited record. -/
def Record.content (r : Record) : Bytes := ((pbMakeStringSubstream r.body).map (·.1)).getD []

def readRecord : Reader Record := fun bs =>
  match pbDecodeTag bs with
  | none => none
  | some ((number, wireType), rest) =>
    if number = 0 then none
    else
      match pbSkipField wireType rest with
      | none => none
      | some behind => some (⟨number, wireType, rest.take (rest.length - behind.length)⟩, behind)

/-- The bytes are the records, one after the other. -/
inductive Framed : Bytes → List Record → Prop
  | nil : Framed [] []
  | cons {bs rest : Bytes} {r : Record} {rs : List Record} (read : readRecord bs = some (r, rest))
      (more : Framed rest rs) : Framed bs (r :: rs)

/-- The records of the bytes, at most `fuel` of them. -/
def recordsWithin : Nat → Bytes → Option (List Record)
  | 0, bs => if bs = [] then some [] else none
  | fuel + 1, bs =>
    if bs = [] then some []
    else
      match readRecord bs with
      | none => none
      | some (r, rest) => (recordsWithin fuel rest).map (r :: ·)

def records (bs : Bytes) : Option (List Record) := recordsWithin bs.length bs

theorem pbSkipVarint_splits (bs rest : Bytes) (h : pbSkipVarint bs = some rest) :
    ∃ used, bs = used ++ rest ∧ ∀ tail, pbSkipVarint (used ++ tail) = some tail := by
  induction bs with
  | nil => simp [pbSkipVarint] at h
  | cons byte more ih =>
    simp only [pbSkipVarint] at h
    split_ifs at h with cont
    · obtain ⟨used, rfl, same⟩ := ih h
      exact ⟨byte :: used, rfl, fun tail => by simp only [List.cons_append, pbSkipVarint, if_pos cont, same]⟩
    · obtain rfl := Option.some.inj h
      exact ⟨[byte], rfl, fun tail => by simp only [List.singleton_append, pbSkipVarint, if_neg cont]⟩

theorem Splits.skip {α : Type} {r : Reader α} (splits : Splits r) {bs rest : Bytes}
    (h : (r bs).map (·.2) = some rest) :
    ∃ used, bs = used ++ rest ∧ ∀ tail, (r (used ++ tail)).map (·.2) = some tail := by
  simp only [Option.map_eq_some_iff, Prod.exists, exists_eq_right] at h
  obtain ⟨a, read⟩ := h
  obtain ⟨used, rfl, same⟩ := splits _ _ _ read
  exact ⟨used, rfl, fun tail => by simp [same]⟩

theorem pbSkipField_splits {wireType : WireType} {bs rest : Bytes}
    (h : pbSkipField wireType bs = some rest) :
    ∃ body, bs = body ++ rest ∧ ∀ tail, pbSkipField wireType (body ++ tail) = some tail := by
  cases wireType with
  | varint => exact pbSkipVarint_splits bs rest h
  | fixed64 => exact (pbRead_splits 8).skip h
  | string => exact pbMakeStringSubstream_splits.skip h
  | fixed32 => exact (pbRead_splits 4).skip h
  | invalid bits => simp [pbSkipField] at h

theorem readRecord_spec {bs rest : Bytes} {r : Record} : readRecord bs = some (r, rest) ↔
    r.number ≠ 0 ∧ pbDecodeTag bs = some ((r.number, r.wireType), r.body ++ rest) ∧
      pbSkipField r.wireType (r.body ++ rest) = some rest := by
  unfold readRecord
  constructor
  · intro h
    split at h
    · simp at h
    rename_i number wireType behindTag tag
    split_ifs at h with zero
    split at h
    · simp at h
    · rename_i behind skips
      obtain ⟨body, rfl, same⟩ := pbSkipField_splits skips
      have body_eq : (body ++ behind).take ((body ++ behind).length - behind.length) = body := by simp
      simp only [body_eq, Option.some.injEq, Prod.mk.injEq] at h
      obtain ⟨rfl, rfl⟩ := h
      exact ⟨zero, tag, skips⟩
  · rintro ⟨nonzero, tag, skips⟩
    simp [tag, nonzero, skips]

theorem readRecord_splits : Splits readRecord := by
  intro bs r rest h
  obtain ⟨nonzero, tag, skips⟩ := readRecord_spec.mp h
  obtain ⟨used, rfl, sameTag⟩ := pbDecodeTag_splits _ _ _ tag
  obtain ⟨body, split, sameBody⟩ := pbSkipField_splits skips
  obtain rfl : r.body = body := List.append_cancel_right split
  refine ⟨used ++ r.body, by simp, fun tail => readRecord_spec.mpr ⟨nonzero, ?_, sameBody tail⟩⟩
  rw [List.append_assoc, sameTag]

theorem pbDecodeTag_shortens {bs rest : Bytes} {a : Nat × WireType}
    (h : pbDecodeTag bs = some (a, rest)) : rest.length < bs.length := by
  obtain ⟨used, rfl, same⟩ := pbDecodeTag_splits _ _ _ h
  cases used with
  | nil =>
    have empty := same []
    simp [pbDecodeTag, pbDecodeVarint32] at empty
  | cons byte used =>
    rw [List.length_append, List.length_cons]
    omega

theorem readRecord_shortens {bs rest : Bytes} {r : Record} (h : readRecord bs = some (r, rest)) :
    rest.length < bs.length := by
  have shorter := pbDecodeTag_shortens (readRecord_spec.mp h).2.1
  simp only [List.length_append] at shorter
  omega

theorem Framed.append {a b : Bytes} {rs qs : List Record} (left : Framed a rs) (right : Framed b qs) :
    Framed (a ++ b) (rs ++ qs) := by
  induction left with
  | nil => exact right
  | @cons bs rest r rs read _ ih =>
    obtain ⟨used, rfl, same⟩ := readRecord_splits _ _ _ read
    exact .cons (by rw [List.append_assoc]; exact same _) ih

/-- What a reader returns of a string lies in it. -/
theorem pbMakeStringSubstream_within {bs content rest : Bytes}
    (taken : pbMakeStringSubstream bs = some (content, rest)) : content <:+: bs := by
  simp only [pbMakeStringSubstream] at taken
  split at taken
  · simp at taken
  rename_i size behind prefixed
  obtain ⟨used, rfl, -⟩ := pbDecodeVarint32_splits _ _ _ prefixed
  simp only [pbRead] at taken
  split_ifs at taken
  obtain ⟨rfl, -⟩ := Prod.mk.inj (Option.some.inj taken)
  have first := List.take_prefix size.toNat behind
  exact first.isInfix.trans (List.suffix_append used behind).isInfix

/-- The content of a delimited record lies in the bytes it is read from. -/
theorem readRecord_within {bs rest : Bytes} {r : Record} (read : readRecord bs = some (r, rest)) :
    r.content <:+: bs := by
  obtain ⟨-, tag, -⟩ := readRecord_spec.mp read
  obtain ⟨head, rfl, -⟩ := pbDecodeTag_splits _ _ _ tag
  cases taken : pbMakeStringSubstream r.body with
  | none => simp [Record.content, taken]
  | some found =>
    have own : r.content = found.1 := by rw [Record.content, taken, Option.map_some, Option.getD_some]
    rw [own]
    exact (pbMakeStringSubstream_within taken).trans ⟨head, rest, List.append_assoc _ _ _⟩

/-- So does that of every record of a message. -/
theorem Framed.within {bs : Bytes} {rs : List Record} (framed : Framed bs rs) {r : Record}
    (among : r ∈ rs) : r.content <:+: bs := by
  induction framed with
  | nil => simp at among
  | @cons bs rest first more read _ ih =>
    rcases List.mem_cons.mp among with rfl | behind
    · exact readRecord_within read
    · obtain ⟨used, rfl, -⟩ := readRecord_splits _ _ _ read
      exact (ih behind).trans (List.suffix_append used rest).isInfix

theorem framed_of_recordsWithin {fuel : Nat} {bs : Bytes} {rs : List Record}
    (h : recordsWithin fuel bs = some rs) : Framed bs rs := by
  induction fuel generalizing bs rs with
  | zero =>
    simp only [recordsWithin] at h
    split_ifs at h with empty
    obtain rfl := Option.some.inj h
    exact empty ▸ .nil
  | succ fuel ih =>
    simp only [recordsWithin] at h
    split_ifs at h with empty
    · obtain rfl := Option.some.inj h
      exact empty ▸ .nil
    · split at h
      · simp at h
      · rename_i r rest read
        obtain ⟨rs, more, rfl⟩ := Option.map_eq_some_iff.mp h
        exact .cons read (ih more)

theorem Framed.recordsWithin {bs : Bytes} {rs : List Record} (framed : Framed bs rs) {fuel : Nat}
    (enough : bs.length ≤ fuel) : recordsWithin fuel bs = some rs := by
  induction framed generalizing fuel with
  | nil => cases fuel <;> simp [Nanopb.recordsWithin]
  | @cons bs rest r rs read _ ih =>
    have shorter := readRecord_shortens read
    cases fuel with
    | zero => omega
    | succ fuel =>
      have nonempty : bs ≠ [] := by rintro rfl; simp at shorter
      have more := @ih fuel (by omega)
      simp [Nanopb.recordsWithin, nonempty, read, more]

theorem records_eq_some {bs : Bytes} {rs : List Record} : records bs = some rs ↔ Framed bs rs :=
  ⟨framed_of_recordsWithin, fun framed => framed.recordsWithin (Nat.le_refl _)⟩

section Locality

variable {σ τ α : Type}

/-- A reader takes what `pbSkipField` skips. -/
structure Frames (wireType : WireType) (r : Reader α) : Prop where
  splits : Splits r
  skips : ∀ {bs : Bytes} {a : α} {rest : Bytes}, r bs = some (a, rest) →
    pbSkipField wireType bs = some rest

theorem Frames.tail {wireType : WireType} {r : Reader α} (frames : Frames wireType r) {body : Bytes}
    (whole : pbSkipField wireType body = some []) (tail : Bytes) :
    r (body ++ tail) = (r body).map fun (a, _) => (a, tail) := by
  have skips : pbSkipField wireType (body ++ tail) = some tail := by
    obtain ⟨used, split, same⟩ := pbSkipField_splits whole
    obtain rfl : body = used := by simpa using split
    exact same tail
  cases read : r body with
  | some found =>
    obtain ⟨a, rest⟩ := found
    obtain rfl : rest = [] := by
      have := frames.skips read
      rw [whole] at this
      exact (Option.some.inj this).symm
    obtain ⟨used, split, same⟩ := frames.splits _ _ _ read
    obtain rfl : body = used := by simpa using split
    simpa using same tail
  | none =>
    -- a value behind `body` would be read from `body` alone
    cases read' : r (body ++ tail) with
    | none => rfl
    | some found =>
      obtain ⟨a, rest⟩ := found
      obtain rfl : rest = tail := by
        have := frames.skips read'
        rw [skips] at this
        exact (Option.some.inj this).symm
      obtain ⟨used, split, same⟩ := frames.splits _ _ _ read'
      obtain rfl : body = used := List.append_cancel_right split
      have again := same []
      rw [List.append_nil, read] at again
      simp at again

theorem frames_substream : Frames .string pbMakeStringSubstream where
  splits := pbMakeStringSubstream_splits
  skips read := by simp [pbSkipField, read]

theorem frames_varint : Frames .varint pbDecodeVarint where
  splits := pbDecodeVarint_splits
  skips read := by
    obtain ⟨_, _, skips, _⟩ := varintLoop_splits _ 0 0 _ _ read
    exact skips

/-- A decimal varint of 32 bits takes what is skipped. -/
theorem varint32Loop_skips (bs : Bytes) (result : UInt32) (bitpos : Nat) {a : UInt32} {rest : Bytes}
    (read : varint32Loop result bitpos bs = some (a, rest)) : pbSkipVarint bs = some rest := by
  induction bs generalizing result bitpos with
  | nil => simp [varint32Loop] at read
  | cons byte more ih =>
    simp only [varint32Loop] at read
    split_ifs at read with wide bad cont cont top
    · simp only [pbSkipVarint, if_pos cont, ih _ _ read]
    · simp only [pbSkipVarint, if_neg cont, (Prod.mk.inj (Option.some.inj read)).2]
    · simp only [pbSkipVarint, if_pos cont, ih _ _ read]
    · simp only [pbSkipVarint, if_neg cont, (Prod.mk.inj (Option.some.inj read)).2]

theorem frames_varint32 : Frames .varint pbDecodeVarint32 where
  splits := pbDecodeVarint32_splits
  skips := by
    intro bs a rest read
    cases bs with
    | nil => simp [pbDecodeVarint32] at read
    | cons byte more =>
      simp only [pbDecodeVarint32] at read
      split_ifs at read with single
      · have cont : ¬byte &&& 0x80 ≠ 0 := by simpa using single
        simp only [pbSkipField, pbSkipVarint, if_neg cont, (Prod.mk.inj (Option.some.inj read)).2]
      · simp only [pbSkipField, pbSkipVarint, if_pos single, varint32Loop_skips _ _ _ read]

theorem readRawVarint_skips {room : Nat} {bs raw rest : Bytes}
    (read : readRawVarint room bs = some (raw, rest)) : pbSkipVarint bs = some rest := by
  induction room generalizing bs raw with
  | zero => simp [readRawVarint] at read
  | succ room ih =>
    cases bs with
    | nil => simp [readRawVarint] at read
    | cons byte more =>
      simp only [readRawVarint] at read
      split_ifs at read with cont
      · simp only [Option.map_eq_some_iff, Prod.exists, Prod.mk.injEq] at read
        obtain ⟨raw', rest', read, rfl, rfl⟩ := read
        simp only [pbSkipVarint, if_pos cont, ih read]
      · simp only [Option.some.injEq, Prod.mk.injEq] at read
        simp only [pbSkipVarint, if_neg cont, read.2]

theorem frames_rawValue (wireType : WireType) : Frames wireType (readRawValue wireType) where
  splits := readRawValue_splits wireType
  skips read := by
    cases wireType with
    | varint => exact readRawVarint_skips read
    | fixed64 | fixed32 =>
      simp only [readRawValue] at read
      simp [pbSkipField, read]
    | string | invalid => simp [readRawValue] at read

/-- A field decoder takes exactly its record, and looks at nothing behind it. -/
structure FieldDecoder.Local (field : FieldDecoder σ) : Prop where
  framed : ∀ {wireType : WireType} {mem : Mem} {bs : Bytes} {dest dest' : σ} {stream : Istream},
    field wireType ⟨mem, bs⟩ dest = (some stream, dest') →
      stream.mem = mem ∧ pbSkipField wireType bs = some stream.data
  tail : ∀ (wireType : WireType) (mem : Mem) (body tail : Bytes) (dest : σ),
    pbSkipField wireType body = some [] →
      field wireType ⟨mem, body ++ tail⟩ dest =
        ((field wireType ⟨mem, body⟩ dest).1.map fun _ => ⟨mem, tail⟩,
          (field wireType ⟨mem, body⟩ dest).2)

theorem scalar_local {expected : WireType} {read : Reader α} (frames : Frames expected read)
    (store : α → σ → Bool × σ) : (scalar expected read store).Local where
  framed := by
    intro wireType mem bs dest dest' stream h
    simp only [scalar] at h
    split at h
    · rename_i same
      split at h
      · simp at h
      · rename_i value rest found
        split at h
        · obtain ⟨rfl, -⟩ := Prod.mk.inj h |>.imp Option.some.inj id
          exact ⟨rfl, same ▸ frames.skips found⟩
        · simp at h
    · simp at h
  tail := by
    intro wireType mem body tail dest whole
    simp only [scalar]
    split
    · rename_i same
      subst same
      rw [frames.tail whole tail]
      cases read body with
      | none => rfl
      | some found =>
        simp only [Option.map_some]
        cases store found.1 dest with
        | mk ok dest => cases ok <;> rfl
    · rfl

theorem delimited_local (accept : Nat → Bool) (prepare : Nat → σ → σ) (store : Bytes → σ → σ) :
    (delimited accept prepare store).Local where
  framed := by
    intro wireType mem bs dest dest' stream h
    simp only [delimited] at h
    split at h
    · rename_i same
      split at h
      · simp at h
      rename_i size rest prefixed
      split at h
      · split at h
        · simp at h
        · rename_i content behind read
          obtain ⟨rfl, -⟩ := Prod.mk.inj h |>.imp Option.some.inj id
          refine ⟨rfl, same ▸ frames_substream.skips (a := content) ?_⟩
          simp [pbMakeStringSubstream, prefixed, read]
      · simp at h
    · simp at h
  tail := by
    intro wireType mem body tail dest whole
    simp only [delimited]
    split
    · rename_i same
      subst same
      simp only [pbSkipField, pbMakeStringSubstream] at whole
      cases prefixed : pbDecodeVarint32 body with
      | none => simp [prefixed] at whole
      | some found =>
        obtain ⟨size, rest⟩ := found
        obtain ⟨used, rfl, sameSize⟩ := pbDecodeVarint32_splits _ _ _ prefixed
        rw [prefixed] at whole
        rw [List.append_assoc, sameSize]
        dsimp only at whole ⊢
        split
        · cases read : pbRead size.toNat rest with
          | none => simp [read] at whole
          | some found =>
            obtain ⟨content, behind⟩ := found
            obtain rfl : behind = [] := by simpa [read] using whole
            obtain ⟨taken, split, sameContent⟩ := pbRead_splits _ _ _ _ read
            obtain rfl : rest = taken := by simpa using split
            rw [sameContent]
            rfl
        · rfl
    · rfl

@[simp] theorem submessage_local (enter : σ → Bool × σ) (fields : Descriptor τ) (get : σ → τ)
    (set : τ → σ → σ) : (submessage enter fields get set).Local where
  framed := by
    intro wireType mem bs dest dest' stream h
    simp only [submessage] at h
    split at h
    · simp at h
    split at h
    · rename_i same
      split at h
      · simp at h
      · rename_i content rest found
        split at h
        · simp at h
        · obtain ⟨rfl, -⟩ := Prod.mk.inj h |>.imp Option.some.inj id
          exact ⟨rfl, same ▸ frames_substream.skips found⟩
    · simp at h
  tail := by
    intro wireType mem body tail dest whole
    simp only [submessage]
    split
    · rfl
    split
    · rename_i same
      subst same
      rw [frames_substream.tail whole tail]
      cases pbMakeStringSubstream body with
      | none => rfl
      | some found =>
        simp only [Option.map_some]
        split <;> rfl
    · rfl

@[simp] theorem callback_local (decode : Callback σ) : (callback decode).Local where
  framed := by
    intro wireType mem bs dest dest' stream h
    simp only [callback] at h
    split at h
    · rename_i same
      split at h
      · simp at h
      · rename_i content rest found
        split at h
        · simp at h
        · obtain ⟨rfl, -⟩ := Prod.mk.inj h |>.imp Option.some.inj id
          exact ⟨rfl, same ▸ frames_substream.skips found⟩
    · split at h
      · simp at h
      · rename_i raw rest found
        split at h
        · simp at h
        · obtain ⟨rfl, -⟩ := Prod.mk.inj h |>.imp Option.some.inj id
          exact ⟨rfl, (frames_rawValue wireType).skips found⟩
  tail := by
    intro wireType mem body tail dest whole
    simp only [callback]
    split
    · rename_i same
      subst same
      rw [frames_substream.tail whole tail]
      cases pbMakeStringSubstream body with
      | none => rfl
      | some found =>
        simp only [Option.map_some]
        split <;> rfl
    · rw [(frames_rawValue wireType).tail whole tail]
      cases readRawValue wireType body with
      | none => rfl
      | some found =>
        simp only [Option.map_some]
        split <;> rfl

@[simp] theorem int64_local (set : Int64 → σ → σ) : (int64 set).Local := scalar_local frames_varint _

@[simp] theorem int32_local (set : Int32 → σ → σ) : (int32 set).Local := scalar_local frames_varint _

@[simp] theorem uint32_local (set : UInt32 → σ → σ) : (uint32 set).Local := scalar_local frames_varint _

@[simp] theorem bool_local (set : Bool → σ → σ) : (bool set).Local := scalar_local frames_varint32 _

@[simp] theorem fixedLengthBytes_local (n : Nat) (set : Buf n → σ → σ) : (fixedLengthBytes n set).Local :=
  delimited_local _ _ _

@[simp] theorem bytes_local (n : Nat) (modify : (PbBytes n → PbBytes n) → σ → σ) : (bytes n modify).Local :=
  delimited_local _ _ _

@[simp] theorem optional_local (mark : σ → σ) (fields : Descriptor τ) (get : σ → τ) (set : τ → σ → σ) :
    (optional mark fields get set).Local := submessage_local _ _ _ _

@[simp] theorem repeated_local [Inhabited τ] (max : Nat) (entries : σ → List τ) (setEntries : List τ → σ → σ)
    (fields : Descriptor τ) : (repeated max entries setEntries fields).Local := submessage_local _ _ _ _

@[simp] theorem unusedCallback_local : (unusedCallback : FieldDecoder σ).Local := callback_local _

end Locality

section Decoding

variable {σ : Type} {fields : Descriptor σ}

/-- Every field decoder of the message is local. -/
def Descriptor.Local (fields : Descriptor σ) : Prop :=
  ∀ number field, fields number = some field → field.Local

theorem Descriptor.Local.table {entries : List (Nat × FieldDecoder σ)} (each : ∀ entry ∈ entries, entry.2.Local) :
    (Descriptor.table entries).Local := forall_table each

/-- Decode one record into `dest`. -/
def applyRecord (fields : Descriptor σ) (mem : Mem) (r : Record) (dest : σ) : Bool × σ :=
  match fields r.number with
  | none => (true, dest)
  | some field =>
    ((field r.wireType ⟨mem, r.body⟩ dest).1.isSome, (field r.wireType ⟨mem, r.body⟩ dest).2)

/-- Decode records one after the other, up to the first that fails. -/
def decodeRecords (fields : Descriptor σ) (mem : Mem) : List Record → σ → Bool × σ
  | [], dest => (true, dest)
  | r :: rs, dest =>
    match applyRecord fields mem r dest with
    | (false, dest) => (false, dest)
    | (true, dest) => decodeRecords fields mem rs dest

theorem pbDecodeInner_framed (loc : fields.Local) {bs : Bytes} {rs : List Record}
    (framed : Framed bs rs) {fuel : Nat} (enough : bs.length ≤ fuel) (mem : Mem) (dest : σ) :
    pbDecodeInner fields fuel ⟨mem, bs⟩ dest =
      (if (decodeRecords fields mem rs dest).1 then some ⟨mem, []⟩ else none,
        (decodeRecords fields mem rs dest).2) := by
  induction framed generalizing fuel dest with
  | nil => cases fuel <;> simp [pbDecodeInner, decodeRecords]
  | @cons bs rest r rs read _ ih =>
    have shorter := readRecord_shortens read
    obtain ⟨nonzero, tag, skips⟩ := readRecord_spec.mp read
    obtain ⟨body, split, sameBody⟩ := pbSkipField_splits skips
    obtain rfl : r.body = body := List.append_cancel_right split
    have whole : pbSkipField r.wireType r.body = some [] := by simpa using sameBody []
    cases fuel with
    | zero => omega
    | succ fuel =>
      have nonempty : bs.isEmpty = false := by cases bs <;> simp_all
      have more := @ih fuel (by omega)
      simp only [pbDecodeInner, nonempty, Bool.false_eq_true, if_false, tag, nonzero, decodeRecords]
      split
      · rename_i unknown
        simp only [applyRecord, unknown, skips, more]
      · rename_i field known
        rw [(loc _ _ known).tail _ _ _ _ _ whole]
        simp only [applyRecord, known]
        cases decoded : field r.wireType ⟨mem, r.body⟩ dest with
        | mk stream dest => cases stream <;> simp [more]

/-- **A message of local fields is decoded record by record.** -/
theorem pbDecode_framed (loc : fields.Local) {bs : Bytes} {rs : List Record} (framed : Framed bs rs)
    (mem : Mem) (dest : σ) :
    pbDecode fields ⟨mem, bs⟩ dest =
      (if (decodeRecords fields mem rs dest).1 then some ⟨mem, []⟩ else none,
        (decodeRecords fields mem rs dest).2) :=
  pbDecodeInner_framed loc framed (Nat.le_refl _) mem dest

theorem framed_of_pbDecodeInner (loc : fields.Local) {fuel : Nat} {bs : Bytes} {mem : Mem}
    {dest dest' : σ} {stream : Istream} (enough : bs.length ≤ fuel)
    (h : pbDecodeInner fields fuel ⟨mem, bs⟩ dest = (some stream, dest')) : ∃ rs, Framed bs rs := by
  induction fuel generalizing bs dest with
  | zero =>
    obtain rfl := List.length_eq_zero_iff.mp (Nat.le_zero.mp enough)
    exact ⟨[], .nil⟩
  | succ fuel ih =>
    simp only [pbDecodeInner] at h
    split at h
    · rename_i empty
      obtain rfl := List.isEmpty_iff.mp empty
      exact ⟨[], .nil⟩
    split at h
    · simp at h
    rename_i number wireType rest tag
    have shorter := pbDecodeTag_shortens tag
    -- the rest behind a record is decoded in turn
    have behind {body tail : Bytes} {dest : σ} (nonzero : number ≠ 0) (split : rest = body ++ tail)
        (skips : pbSkipField wireType rest = some tail)
        (more : pbDecodeInner fields fuel ⟨mem, tail⟩ dest = (some stream, dest')) :
        ∃ rs, Framed bs rs := by
      obtain ⟨rs, framed⟩ := ih (by simp only [split, List.length_append] at shorter; omega) more
      subst split
      exact ⟨⟨number, wireType, body⟩ :: rs, .cons (readRecord_spec.mpr ⟨nonzero, tag, skips⟩) framed⟩
    split at h
    · simp at h
    rename_i nonzero
    split at h
    · split at h
      · simp at h
      · rename_i tail skips
        obtain ⟨body, split, -⟩ := pbSkipField_splits skips
        exact behind nonzero split skips h
    · rename_i field known
      split at h
      · simp at h
      · rename_i next dest decoded
        obtain ⟨rfl, skips⟩ := (loc _ _ known).framed decoded
        obtain ⟨body, split, -⟩ := pbSkipField_splits skips
        exact behind nonzero split skips h

/-- What is decoded is a sequence of records. -/
theorem framed_of_pbDecode (loc : fields.Local) {bs : Bytes} {mem : Mem} {dest dest' : σ}
    {stream : Istream} (h : pbDecode fields ⟨mem, bs⟩ dest = (some stream, dest')) :
    ∃ rs, Framed bs rs ∧ decodeRecords fields mem rs dest = (true, dest') := by
  obtain ⟨rs, framed⟩ := framed_of_pbDecodeInner loc (Nat.le_refl _) h
  refine ⟨rs, framed, ?_⟩
  rw [pbDecode_framed loc framed] at h
  obtain ⟨ok, rfl⟩ := Prod.mk.inj h
  split_ifs at ok with decoded
  exact Prod.ext decoded rfl

end Decoding

end TronLedger.Nanopb
