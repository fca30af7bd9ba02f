import TronLedger.Nanopb.Wire

/-!
# The last occurrence of a field wins

What a decoded message holds in a singular field, read from its records alone.

* `recordsOf` are the records of a message, `fieldValue` is the value of the last one of a field.
* `decodeRecords_field` is the rule for a field that no other field of the message writes, which
  `KeepsElsewhere.table` reads off the table of the message.
-/

namespace TronLedger.Nanopb

/-- The records of a message; bytes that are no message have none. -/
def recordsOf (bs : Bytes) : List Record := (records bs).getD []

theorem recordsOf_eq {bs : Bytes} {rs : List Record} (framed : Framed bs rs) : recordsOf bs = rs := by
  rw [recordsOf, records_eq_some.mpr framed, Option.getD_some]

/-- The value of a field: that of its last record of the wire type. -/
def fieldValue {α : Type} (number : Nat) (wireType : WireType) (value : Record → α) (absent : α)
    (rs : List Record) : α :=
  rs.foldl (fun last r => if r.number = number ∧ r.wireType = wireType then value r else last) absent

/-- The number a varint record holds. -/
def Record.int64 (r : Record) : Int64 := ((pbDecodeVarint r.body).map (·.1.toInt64)).getD 0

/-- The value of an `int64` field. -/
def int64Value (number : Nat) (rs : List Record) : Int64 := fieldValue number .varint Record.int64 0 rs

def Record.uint32 (r : Record) : UInt32 := ((pbDecodeVarint r.body).map (·.1.toUInt32)).getD 0

/-- The value of a `uint32` field, or of an enumeration. -/
def uint32Value (number : Nat) (rs : List Record) : UInt32 := fieldValue number .varint Record.uint32 0 rs

section Values

variable {α : Type} {number : Nat} {wireType : WireType} {value : Record → α} {absent : α}

@[simp] theorem fieldValue_nil : fieldValue number wireType value absent [] = absent := rfl

theorem fieldValue_cons (r : Record) (rs : List Record) :
    fieldValue number wireType value absent (r :: rs) = fieldValue number wireType value
      (if r.number = number ∧ r.wireType = wireType then value r else absent) rs := rfl

end Values

section Locality

variable {σ τ α : Type}

/-- The field decoder keeps a property. -/
def FieldDecoder.Preserves (P : σ → Prop) (field : FieldDecoder σ) : Prop :=
  ∀ wireType stream dest, P dest → P (field wireType stream dest).2

variable {P : σ → Prop}

theorem scalar_preserves {β : Type} {expected : WireType} {read : Reader β} {store : β → σ → Bool × σ}
    (kept : ∀ value dest, P dest → P (store value dest).2) : (scalar expected read store).Preserves P := by
  intro wireType stream dest before
  simp only [scalar]
  split
  · cases read stream.data with
    | none => exact before
    | some found =>
      have after := kept found.1 dest before
      dsimp only
      split <;> rename_i stored <;> rw [stored] at after <;> exact after
  · exact before

theorem delimited_preserves {accept : Nat → Bool} {prepare : Nat → σ → σ} {store : Bytes → σ → σ}
    (prepares : ∀ size dest, accept size = true → P dest → P (prepare size dest))
    (stores : ∀ content dest, accept content.length = true → P dest → P (store content dest)) :
    (delimited accept prepare store).Preserves P := by
  intro wireType stream dest before
  simp only [delimited]
  split
  · cases pbDecodeVarint32 stream.data with
    | none => exact before
    | some found =>
      dsimp only
      split
      · rename_i fits
        have ready := prepares _ dest fits before
        cases read : pbRead found.1.toNat found.2 with
        | none => exact ready
        | some taken =>
          have length : taken.1.length = found.1.toNat := by
            simp only [pbRead] at read
            split_ifs at read with short
            rw [← (Option.some.inj read)]
            simp only [List.length_take]
            omega
          exact stores taken.1 _ (by rw [length]; exact fits) ready
      · exact before
  · exact before

theorem callbackLoop_preserves {decode : Callback σ} (kept : ∀ stream dest, P dest → P (decode stream dest).2)
    (fuel : Nat) (stream : Istream) {dest : σ} (before : P dest) :
    P (callbackLoop decode fuel stream dest).2 := by
  induction fuel generalizing stream dest with
  | zero => exact before
  | succ fuel ih =>
    have after := kept stream dest before
    simp only [callbackLoop]
    split
    · rename_i stopped
      rw [stopped] at after
      exact after
    · rename_i rest dest' decoded
      rw [decoded] at after
      split
      · exact ih _ after
      · exact after

theorem callback_preserves {decode : Callback σ} (kept : ∀ stream dest, P dest → P (decode stream dest).2) :
    (callback decode).Preserves P := by
  intro wireType stream dest before
  simp only [callback]
  split
  · cases pbMakeStringSubstream stream.data with
    | none => exact before
    | some found =>
      have after := callbackLoop_preserves kept (found.1.length + 1) ⟨stream.mem, found.1⟩ before
      dsimp only
      split <;> rename_i looped <;> rw [looped] at after <;> exact after
  · cases readRawValue wireType stream.data with
    | none => exact before
    | some found =>
      have after := kept ⟨.scratch, found.1⟩ dest before
      dsimp only
      split <;> rename_i decoded <;> rw [decoded] at after <;> exact after

/-- What every field keeps, a message keeps. -/
theorem pbDecode_preserves {fields : Descriptor σ}
    (kept : ∀ number field, fields number = some field → field.Preserves P) (stream : Istream) {dest : σ}
    (before : P dest) : P (pbDecode fields stream dest).2 := by
  unfold pbDecode
  generalize stream.data.length = fuel
  induction fuel generalizing stream dest with
  | zero => exact before
  | succ fuel ih =>
    simp only [pbDecodeInner]
    split
    · exact before
    split
    · exact before
    split
    · exact before
    split
    · split
      · exact before
      · exact ih _ before
    · rename_i tag wireType rest _ _ _ field known
      have after := kept _ field known wireType ⟨stream.mem, rest⟩ dest before
      split <;> rename_i decoded <;> rw [decoded] at after
      · exact after
      · exact ih _ after

/-- A submessage whose fields keep `Q` keeps `P` where storing it does. -/
theorem submessage_preserves {τ : Type} {Q : τ → Prop} {enter : σ → Bool × σ} {fields : Descriptor τ}
    {get : σ → τ} {set : τ → σ → σ} (enters : ∀ dest, P dest → P (enter dest).2)
    (kept : ∀ number field, fields number = some field → field.Preserves Q)
    (held : ∀ dest, P dest → Q (get (enter dest).2))
    (stores : ∀ sub dest, (enter dest).1 = true → P dest → Q sub → P (set sub (enter dest).2)) :
    (submessage enter fields get set).Preserves P := by
  intro wireType stream dest before
  have ready := enters dest before
  have sub := held dest before
  have store := fun sub => stores sub dest
  unfold submessage
  cases entered : enter dest with
  | mk accepted dest' =>
    rw [entered] at ready sub store
    cases accepted with
    | false => exact ready
    | true =>
      dsimp only
      split
      · split
        · exact ready
        · rename_i content rest taken
          have after := pbDecode_preserves kept ⟨stream.mem, content⟩ sub
          split <;> rename_i decoded <;> rw [decoded] at after <;> exact store _ rfl before after
      · exact ready

/-- The field decoder leaves what `get` reads. -/
def FieldDecoder.Keeps (get : σ → α) (field : FieldDecoder σ) : Prop :=
  ∀ wireType stream dest, get (field wireType stream dest).2 = get dest

variable {get : σ → α}

theorem FieldDecoder.keeps_iff {field : FieldDecoder σ} :
    field.Keeps get ↔ ∀ x, field.Preserves fun dest => get dest = x := by
  constructor
  · intro keeps x wireType stream dest before
    exact (keeps wireType stream dest).trans before
  · intro preserves wireType stream dest
    exact preserves _ wireType stream dest rfl

theorem scalar_keeps {β : Type} {expected : WireType} {read : Reader β} {store : β → σ → Bool × σ}
    (same : ∀ value dest, get (store value dest).2 = get dest) :
    (scalar expected read store).Keeps get :=
  FieldDecoder.keeps_iff.mpr fun _ => scalar_preserves fun value dest before =>
    (same value dest).trans before

theorem delimited_keeps {accept : Nat → Bool} {prepare : Nat → σ → σ} {store : Bytes → σ → σ}
    (prepares : ∀ size dest, get (prepare size dest) = get dest)
    (stores : ∀ content dest, get (store content dest) = get dest) :
    (delimited accept prepare store).Keeps get :=
  FieldDecoder.keeps_iff.mpr fun _ => delimited_preserves
    (fun size dest _ before => (prepares size dest).trans before)
    fun content dest _ before => (stores content dest).trans before

@[simp] theorem callback_keeps {decode : Callback σ} (same : ∀ stream dest, get (decode stream dest).2 = get dest) :
    (callback decode).Keeps get :=
  FieldDecoder.keeps_iff.mpr fun _ => callback_preserves fun stream dest before =>
    (same stream dest).trans before

@[simp] theorem int64_keeps {set : Int64 → σ → σ} (same : ∀ value dest, get (set value dest) = get dest) :
    (int64 set).Keeps get := scalar_keeps fun value => same value.toInt64

@[simp] theorem int32_keeps {set : Int32 → σ → σ} (same : ∀ value dest, get (set value dest) = get dest) :
    (int32 set).Keeps get := scalar_keeps fun value => same value.toUInt32.toInt32

@[simp] theorem uint32_keeps {set : UInt32 → σ → σ} (same : ∀ value dest, get (set value dest) = get dest) :
    (uint32 set).Keeps get := scalar_keeps fun value => same value.toUInt32

@[simp] theorem bool_keeps {set : Bool → σ → σ} (same : ∀ value dest, get (set value dest) = get dest) :
    (bool set).Keeps get := scalar_keeps fun value => same (value ≠ 0)

@[simp] theorem fixedLengthBytes_keeps {n : Nat} {set : Buf n → σ → σ}
    (same : ∀ value dest, get (set value dest) = get dest) : (fixedLengthBytes n set).Keeps get :=
  delimited_keeps (fun _ _ => rfl) fun content => same (Buf.ofBytes n content)

@[simp] theorem string_keeps {n : Nat} {modify : (Buf n → Buf n) → σ → σ}
    (same : ∀ f dest, get (modify f dest) = get dest) : (string n modify).Keeps get :=
  delimited_keeps (fun _ => same _) fun _ => same _

@[simp] theorem uint64_keeps {set : UInt64 → σ → σ} (same : ∀ value dest, get (set value dest) = get dest) :
    (uint64 set).Keeps get := scalar_keeps same

@[simp] theorem bytes_keeps {n : Nat} {modify : (PbBytes n → PbBytes n) → σ → σ}
    (same : ∀ f dest, get (modify f dest) = get dest) : (bytes n modify).Keeps get :=
  delimited_keeps (fun _ => same _) fun _ => same _

@[simp] theorem unusedCallback_keeps : (unusedCallback : FieldDecoder σ).Keeps get := callback_keeps fun _ _ => rfl

/-- What no field writes, a message leaves. -/
theorem pbDecode_keeps {fields : Descriptor σ}
    (keeps : ∀ number field, fields number = some field → field.Keeps get) (stream : Istream) (dest : σ) :
    get (pbDecode fields stream dest).2 = get dest :=
  pbDecode_preserves (fun number field known => FieldDecoder.keeps_iff.mp (keeps number field known) _)
    stream rfl

end Locality

section Fields

variable {σ α : Type} {fields : Descriptor σ} {number : Nat} {get : σ → α}

/-- No field but `number` writes what `get` reads. -/
def Descriptor.KeepsElsewhere (fields : Descriptor σ) (number : Nat) (get : σ → α) : Prop :=
  ∀ other field, other ≠ number → fields other = some field → field.Keeps get

theorem Descriptor.KeepsElsewhere.table {entries : List (Nat × FieldDecoder σ)}
    (each : ∀ entry ∈ entries, entry.1 ≠ number → entry.2.Keeps get) :
    (Descriptor.table entries).KeepsElsewhere number get := by
  intro other field ne known
  exact forall_table (P := fun other field => other ≠ number → field.Keeps get) each other field known ne

/-- What one field writes keeps a property when that field does. -/
theorem Descriptor.KeepsElsewhere.preserves {P : α → Prop} {own : FieldDecoder σ}
    (elsewhere : fields.KeepsElsewhere number get) (known : fields number = some own)
    (kept : own.Preserves fun dest => P (get dest)) (other : Nat) (field : FieldDecoder σ)
    (found : fields other = some field) : field.Preserves fun dest => P (get dest) := by
  by_cases same : other = number
  · rw [same, known] at found
    rw [← Option.some.inj found]
    exact kept
  · intro wireType stream dest before
    rw [elsewhere other field same found wireType stream dest]
    exact before

theorem Descriptor.KeepsElsewhere.record (elsewhere : fields.KeepsElsewhere number get) {mem : Mem} {r : Record}
    {dest dest' : σ} (other : r.number ≠ number) (applied : applyRecord fields mem r dest = (true, dest')) :
    get dest' = get dest := by
  unfold applyRecord at applied
  split at applied
  · rw [(Prod.mk.inj applied).2]
  · rename_i field known
    rw [← (Prod.mk.inj applied).2]
    exact elsewhere _ field other known r.wireType ⟨mem, r.body⟩ dest

/-- **A field that nothing else writes holds the value of its last record.** -/
theorem decodeRecords_field {wireType : WireType} {value : Record → α} {mem : Mem}
    (elsewhere : fields.KeepsElsewhere number get)
    (own : ∀ r dest dest', r.number = number → applyRecord fields mem r dest = (true, dest') →
      r.wireType = wireType ∧ get dest' = value r)
    (rs : List Record) {dest dest' : σ} (done : decodeRecords fields mem rs dest = (true, dest')) :
    get dest' = fieldValue number wireType value (get dest) rs := by
  induction rs generalizing dest with
  | nil => rw [(Prod.mk.inj done).2, fieldValue_nil]
  | cons r rs ih =>
    simp only [decodeRecords] at done
    split at done
    · simp at done
    rename_i next applied
    rw [ih done, fieldValue_cons]
    congr 1
    by_cases same : r.number = number
    · obtain ⟨type, stored⟩ := own r dest next same applied
      rw [if_pos ⟨same, type⟩, stored]
    · rw [if_neg (fun h => same h.1)]
      exact elsewhere.record same applied

/-- **A field that nothing else writes holds the fold of its records.** -/
theorem decodeRecords_fold {next : α → Record → α} {mem : Mem}
    (elsewhere : fields.KeepsElsewhere number get)
    (own : ∀ r dest dest', r.number = number → applyRecord fields mem r dest = (true, dest') →
      get dest' = next (get dest) r)
    (rs : List Record) {dest dest' : σ} (done : decodeRecords fields mem rs dest = (true, dest')) :
    get dest' = (rs.filter fun r => r.number = number).foldl next (get dest) := by
  induction rs generalizing dest with
  | nil =>
    rw [(Prod.mk.inj done).2]
    rfl
  | cons r rs ih =>
    simp only [decodeRecords] at done
    split at done
    · simp at done
    rename_i behind applied
    rw [ih done]
    by_cases same : r.number = number
    · rw [List.filter_cons_of_pos (by simp [same]), List.foldl_cons, own r dest behind same applied]
    · rw [List.filter_cons_of_neg (by simp [same]), elsewhere.record same applied]

/-- The last record of a field, whatever its wire type. -/
def lastRecord (number : Nat) (rs : List Record) : Option Record :=
  (rs.filter fun r => r.number = number).getLast?

/-- **What nothing else writes is what the last record of its field left.** -/
theorem decodeRecords_last {P : Record → α → Prop} {mem : Mem} (elsewhere : fields.KeepsElsewhere number get)
    (own : ∀ r dest dest', r.number = number → applyRecord fields mem r dest = (true, dest') → P r (get dest'))
    (rs : List Record) {dest dest' : σ} (done : decodeRecords fields mem rs dest = (true, dest')) :
    (lastRecord number rs = none → get dest' = get dest) ∧
      ∀ r, lastRecord number rs = some r → P r (get dest') := by
  induction rs generalizing dest with
  | nil =>
    rw [(Prod.mk.inj done).2]
    simp [lastRecord]
  | cons r rs ih =>
    simp only [decodeRecords] at done
    split at done
    · simp at done
    rename_i next applied
    obtain ⟨none, last⟩ := ih done
    unfold lastRecord at none last ⊢
    by_cases same : r.number = number
    · rw [List.filter_cons_of_pos (by simpa using same)]
      cases behind : rs.filter fun r => r.number = number with
      | nil =>
        rw [behind] at none
        have kept := none rfl
        constructor
        · simp
        · intro q found
          obtain rfl : r = q := by simpa using found
          rw [kept]
          exact own r dest next same applied
      | cons q qs =>
        rw [behind] at last
        rw [List.getLast?_cons_cons]
        exact ⟨fun none => by simp at none, last⟩
    · rw [List.filter_cons_of_neg (by simpa using same)]
      exact ⟨fun nothing => (none nothing).trans (elsewhere.record same applied), last⟩

end Fields

section Kinds

variable {σ : Type} {fields : Descriptor σ} {number : Nat} {bs : Bytes} {mem : Mem} {dest dest' : σ}
  {stream : Istream}

/-- **A number field holds the number of its last record.** -/
theorem pbDecode_varint {α : Type} {get : σ → α} {accept : UInt64 → Bool} {value : UInt64 → α}
    {set : α → σ → σ} (loc : fields.Local)
    (known : fields number = some (scalar .varint pbDecodeVarint fun v dest =>
      (accept v, set (value v) dest)))
    (own : ∀ value dest, get (set value dest) = value) (elsewhere : fields.KeepsElsewhere number get)
    (decoded : pbDecode fields ⟨mem, bs⟩ dest = (some stream, dest')) (absent : α) :
    get dest' = fieldValue number .varint
      (fun r => ((pbDecodeVarint r.body).map fun found => value found.1).getD absent) (get dest)
      (recordsOf bs) := by
  obtain ⟨rs, framed, done⟩ := framed_of_pbDecode loc decoded
  have record (r : Record) (dest dest' : σ) (same : r.number = number)
      (applied : applyRecord fields mem r dest = (true, dest')) : r.wireType = .varint ∧
      get dest' = ((pbDecodeVarint r.body).map fun found => value found.1).getD absent := by
    rw [applyRecord, same, known] at applied
    simp only [scalar] at applied
    split at applied
    · rename_i type
      refine ⟨type, ?_⟩
      cases read : pbDecodeVarint r.body with
      | none => simp [read] at applied
      | some found =>
        simp only [read] at applied
        split at applied
        · rename_i stored
          obtain ⟨-, rfl⟩ := Prod.mk.inj stored
          rw [← (Prod.mk.inj applied).2, own]
          rfl
        · simp at applied
    · simp at applied
  rw [recordsOf_eq framed, decodeRecords_field elsewhere record rs done]

theorem pbDecode_int64 {get : σ → Int64} {set : Int64 → σ → σ} (loc : fields.Local)
    (known : fields number = some (int64 set)) (own : ∀ value dest, get (set value dest) = value)
    (elsewhere : fields.KeepsElsewhere number get) (zero : get dest = 0)
    (decoded : pbDecode fields ⟨mem, bs⟩ dest = (some stream, dest')) :
    get dest' = int64Value number (recordsOf bs) := by
  have last := pbDecode_varint loc known own elsewhere decoded 0
  rw [zero] at last
  exact last

theorem pbDecode_uint32 {get : σ → UInt32} {set : UInt32 → σ → σ} (loc : fields.Local)
    (known : fields number = some (uint32 set)) (own : ∀ value dest, get (set value dest) = value)
    (elsewhere : fields.KeepsElsewhere number get) (zero : get dest = 0)
    (decoded : pbDecode fields ⟨mem, bs⟩ dest = (some stream, dest')) :
    get dest' = uint32Value number (recordsOf bs) := by
  have last := pbDecode_varint loc known own elsewhere decoded 0
  rw [zero] at last
  exact last

/-- The bytes of a length-delimited field. -/
def bytesValue (number : Nat) (rs : List Record) : Bytes := fieldValue number .string Record.content [] rs

theorem PbBytes.content_write {n : Nat} (buffer : Buf n) {src : Bytes} (fits : src.length ≤ n) :
    PbBytes.content ⟨src.length, buffer.write 0 src⟩ = src := by
  rw [PbBytes.content, Buf.write_bytes buffer 0 src (by omega)]
  simp

/-- What one record does to a length-delimited field. -/
theorem applyRecord_delimited {accept : Nat → Bool} {prepare : Nat → σ → σ} {store : Bytes → σ → σ}
    (known : fields number = some (delimited accept prepare store)) (r : Record) (dest dest' : σ)
    (same : r.number = number) (applied : applyRecord fields mem r dest = (true, dest')) :
    r.wireType = .string ∧ accept r.content.length = true ∧
      dest' = store r.content (prepare r.content.length dest) := by
  rw [applyRecord, same, known] at applied
  simp only [delimited] at applied
  split at applied
  · rename_i type
    refine ⟨type, ?_⟩
    cases prefixed : pbDecodeVarint32 r.body with
    | none => simp [prefixed] at applied
    | some found =>
      obtain ⟨size, rest⟩ := found
      simp only [prefixed] at applied
      split at applied
      · rename_i fits
        cases read : pbRead size.toNat rest with
        | none => simp [read] at applied
        | some found =>
          obtain ⟨content, behind⟩ := found
          have length : content.length = size.toNat := by
            simp only [pbRead] at read
            split_ifs at read with short
            simp only [Option.some.injEq, Prod.mk.injEq] at read
            rw [← read.1, List.length_take]
            omega
          have whole : r.content = content := by
            simp [Record.content, pbMakeStringSubstream, prefixed, read]
          simp only [read, Prod.mk.injEq, Option.isSome_some, true_and] at applied
          rw [← applied, whole, length]
          exact ⟨fits, rfl⟩
      · simp at applied
  · simp at applied

/-- What one record does to a `bytes` field. -/
theorem applyRecord_bytes {n : Nat} {get : σ → PbBytes n} {modify : (PbBytes n → PbBytes n) → σ → σ}
    (known : fields number = some (bytes n modify)) (own : ∀ f dest, get (modify f dest) = f (get dest))
    (r : Record) (dest dest' : σ) (same : r.number = number)
    (applied : applyRecord fields mem r dest = (true, dest')) :
    r.wireType = .string ∧ r.content.length ≤ n ∧
      get dest' = ⟨r.content.length, (get dest).bytes.write 0 r.content⟩ := by
  obtain ⟨type, fits, stored⟩ := applyRecord_delimited known r dest dest' same applied
  rw [stored, own, own]
  exact ⟨type, of_decide_eq_true fits, rfl⟩

/-- The bytes of a field of a fixed length; without records they are zeros. -/
def fixedValue (n number : Nat) (rs : List Record) : Buf n :=
  fieldValue number .string (fun r => Buf.ofBytes n r.content) default rs

/-- **A field of a fixed length holds the content of its last record.** -/
theorem pbDecode_fixed {n : Nat} {get : σ → Buf n} {set : Buf n → σ → σ} (loc : fields.Local)
    (known : fields number = some (fixedLengthBytes n set)) (own : ∀ value dest, get (set value dest) = value)
    (elsewhere : fields.KeepsElsewhere number get) (empty : get dest = default)
    (decoded : pbDecode fields ⟨mem, bs⟩ dest = (some stream, dest')) :
    get dest' = fixedValue n number (recordsOf bs) := by
  obtain ⟨rs, framed, done⟩ := framed_of_pbDecode loc decoded
  have record (r : Record) (dest dest' : σ) (same : r.number = number)
      (applied : applyRecord fields mem r dest = (true, dest')) :
      r.wireType = .string ∧ get dest' = Buf.ofBytes n r.content := by
    obtain ⟨type, -, stored⟩ := applyRecord_delimited known r dest dest' same applied
    exact ⟨type, by rw [stored, own]⟩
  rw [recordsOf_eq framed, decodeRecords_field elsewhere record rs done, empty]
  rfl

/-- **A `bytes` field holds the content of its last record.** -/
theorem pbDecode_bytes {n : Nat} {get : σ → PbBytes n} {modify : (PbBytes n → PbBytes n) → σ → σ}
    (loc : fields.Local) (known : fields number = some (bytes n modify))
    (own : ∀ f dest, get (modify f dest) = f (get dest)) (elsewhere : fields.KeepsElsewhere number get)
    (empty : get dest = default) (decoded : pbDecode fields ⟨mem, bs⟩ dest = (some stream, dest')) :
    (get dest').content = bytesValue number (recordsOf bs) := by
  obtain ⟨rs, framed, done⟩ := framed_of_pbDecode loc decoded
  have record (r : Record) (dest dest' : σ) (same : r.number = number)
      (applied : applyRecord fields mem r dest = (true, dest')) :
      r.wireType = .string ∧ (get dest').content = r.content := by
    obtain ⟨type, fits, stored⟩ := applyRecord_bytes known own r dest dest' same applied
    refine ⟨type, ?_⟩
    rw [stored]
    exact PbBytes.content_write _ fits
  have kept : fields.KeepsElsewhere number fun dest => (get dest).content :=
    fun other field ne found wireType stream dest =>
      congrArg PbBytes.content (elsewhere other field ne found wireType stream dest)
  rw [recordsOf_eq framed, decodeRecords_field kept record rs done, empty]
  rfl

/-- The byte at place `i` of the last record of a field that reaches so far. -/
def byteReached (number i : Nat) (rs : List Record) : UInt8 :=
  (rs.filter fun r => r.number = number).foldl
    (fun b r => if i < r.content.length then r.content.getD i 0 else b) 0

/-- **Behind the content of a `bytes` field stands what an earlier, longer one has left.** -/
theorem pbDecode_byteReached {n : Nat} {get : σ → PbBytes n} {modify : (PbBytes n → PbBytes n) → σ → σ}
    (loc : fields.Local) (known : fields number = some (bytes n modify))
    (own : ∀ f dest, get (modify f dest) = f (get dest)) (elsewhere : fields.KeepsElsewhere number get)
    (empty : get dest = default) (decoded : pbDecode fields ⟨mem, bs⟩ dest = (some stream, dest'))
    (i : Nat) : (get dest').bytes.bytes.getD i 0 = byteReached number i (recordsOf bs) := by
  obtain ⟨rs, framed, done⟩ := framed_of_pbDecode loc decoded
  have record (r : Record) (dest dest' : σ) (same : r.number = number)
      (applied : applyRecord fields mem r dest = (true, dest')) :
      (get dest').bytes.bytes.getD i 0 =
        if i < r.content.length then r.content.getD i 0 else (get dest).bytes.bytes.getD i 0 := by
    obtain ⟨-, fits, stored⟩ := applyRecord_bytes known own r dest dest' same applied
    rw [stored]
    exact Buf.getD_write _ _ fits
  have kept : fields.KeepsElsewhere number fun dest => (get dest).bytes.bytes.getD i 0 :=
    fun other field ne found wireType stream dest =>
      congrArg (fun b : PbBytes n => b.bytes.bytes.getD i 0)
        (elsewhere other field ne found wireType stream dest)
  have zero : (default : PbBytes n).bytes.bytes.getD i 0 = 0 := by
    change (List.replicate n (0 : UInt8)).getD i 0 = 0
    rw [List.getD_eq_getElem?_getD, List.getElem?_replicate]
    split <;> rfl
  have folded : (get dest').bytes.bytes.getD i 0 = (rs.filter fun r => r.number = number).foldl
      (fun b r => if i < r.content.length then r.content.getD i 0 else b)
      ((get dest).bytes.bytes.getD i 0) := decodeRecords_fold kept record rs done
  rw [recordsOf_eq framed, folded, empty, zero]
  rfl

end Kinds

end TronLedger.Nanopb
