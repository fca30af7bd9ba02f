import TronLedger.Nanopb.Stream

/-!
# nanopb message decoding

`pb_decode_inner` over a message descriptor: a table from field numbers to field decoders.
A field decoder gets the wire type, the stream behind the tag and the destination; it
returns the destination in any case, and the stream when it succeeds.

* `scalar`, `delimited`, `submessage` and `callback` are the four ways a field is decoded;
  the field types of the generated descriptors are instances of them.
* Only field kinds that occur in the generated descriptors are modelled: no packed or
  fixed-count arrays, no oneofs, no extensions, no required fields, no default values.
-/

namespace TronLedger.Nanopb

abbrev FieldDecoder (σ : Type) := WireType → Istream → σ → Option Istream × σ

/-- `pb_msgdesc_t`: the decoder of each field number of the message. -/
abbrev Descriptor (σ : Type) := Nat → Option (FieldDecoder σ)

/-- The fields of a message, by their numbers. -/
def Descriptor.table {σ : Type} (entries : List (Nat × FieldDecoder σ)) : Descriptor σ :=
  fun number => entries.lookup number

theorem Descriptor.table_nil {σ : Type} (number : Nat) :
    Descriptor.table ([] : List (Nat × FieldDecoder σ)) number = none := rfl

theorem Descriptor.table_cons {σ : Type} (n : Nat) (field : FieldDecoder σ) (entries : List (Nat × FieldDecoder σ))
    (number : Nat) : Descriptor.table ((n, field) :: entries) number =
      if number = n then some field else Descriptor.table entries number := by
  simp only [Descriptor.table, List.lookup_cons]
  split <;> rename_i same <;> simp at same <;> simp [same]

/-- What holds of every entry holds of every field. -/
theorem Descriptor.forall_table {σ : Type} {P : Nat → FieldDecoder σ → Prop} {entries : List (Nat × FieldDecoder σ)}
    (each : ∀ entry ∈ entries, P entry.1 entry.2) (number : Nat) (field : FieldDecoder σ)
    (known : Descriptor.table entries number = some field) : P number field := by
  obtain ⟨before, behind, rfl, -⟩ := List.lookup_eq_some_iff.mp known
  exact each (number, field) (by simp)

section Fields

variable {σ τ α : Type}

/-- The loop of `pb_decode_inner`; `fuel` bounds the number of fields. -/
def pbDecodeInner (fields : Descriptor σ) : Nat → Istream → σ → Option Istream × σ
  | 0, stream, dest => (some stream, dest)
  | fuel + 1, stream, dest =>
    if stream.data.isEmpty then (some stream, dest)
    else
      match pbDecodeTag stream.data with
      | none => (none, dest)
      | some ((tag, wireType), rest) =>
        if tag = 0 then (none, dest)
        else
          match fields tag with
          | none =>
            match pbSkipField wireType rest with
            | none => (none, dest)
            | some rest => pbDecodeInner fields fuel ⟨stream.mem, rest⟩ dest
          | some field =>
            match field wireType ⟨stream.mem, rest⟩ dest with
            | (none, dest) => (none, dest)
            | (some stream, dest) => pbDecodeInner fields fuel stream dest

/-- `pb_decode`, into a destination already set to its defaults. Every field takes at least
one byte, so the bytes left bound their number. -/
def pbDecode (fields : Descriptor σ) (stream : Istream) (dest : σ) : Option Istream × σ :=
  pbDecodeInner fields stream.data.length stream dest

/-- A field with one expected wire type, read whole and then stored; `store` may refuse. -/
def scalar (expected : WireType) (read : Reader α) (store : α → σ → Bool × σ) :
    FieldDecoder σ := fun wireType stream dest =>
  if wireType = expected then
    match read stream.data with
    | none => (none, dest)
    | some (value, rest) =>
      match store value dest with
      | (true, dest) => (some ⟨stream.mem, rest⟩, dest)
      | (false, dest) => (none, dest)
  else (none, dest)

/-- INT64 -/
def int64 (set : Int64 → σ → σ) : FieldDecoder σ :=
  scalar .varint pbDecodeVarint fun value dest => (true, set value.toInt64 dest)

/-- INT32: the varint is cast to 32 bits before the range check, which cannot fail then. -/
def int32 (set : Int32 → σ → σ) : FieldDecoder σ :=
  scalar .varint pbDecodeVarint fun value dest => (true, set value.toUInt32.toInt32 dest)

/-- UINT64 -/
def uint64 (set : UInt64 → σ → σ) : FieldDecoder σ :=
  scalar .varint pbDecodeVarint fun value dest => (true, set value dest)

/-- UINT32, and UENUM with its 32-bit storage -/
def uint32 (set : UInt32 → σ → σ) : FieldDecoder σ :=
  scalar .varint pbDecodeVarint fun value dest =>
    (value.toUInt32.toUInt64 = value, set value.toUInt32 dest)

/-- BOOL -/
def bool (set : Bool → σ → σ) : FieldDecoder σ :=
  scalar .varint pbDecodeVarint32 fun value dest => (true, set (value ≠ 0) dest)

/-- A length-delimited field: `accept` checks the size, `prepare` writes the destination
before the content is read. -/
def delimited (accept : Nat → Bool) (prepare : Nat → σ → σ) (store : Bytes → σ → σ) :
    FieldDecoder σ := fun wireType stream dest =>
  if wireType = .string then
    match pbDecodeVarint32 stream.data with
    | none => (none, dest)
    | some (size, rest) =>
      if accept size.toNat then
        match pbRead size.toNat rest with
        | none => (none, prepare size.toNat dest)
        | some (content, rest) => (some ⟨stream.mem, rest⟩, store content (prepare size.toNat dest))
      else (none, dest)
  else (none, dest)

/-- FIXED_LENGTH_BYTES of `n` bytes; an empty string stands for zeros. -/
def fixedLengthBytes (n : Nat) (set : Buf n → σ → σ) : FieldDecoder σ :=
  delimited (fun size => size = 0 ∨ size = n) (fun _ dest => dest)
    (fun content dest => set (Buf.ofBytes n content) dest)

/-- `PB_BYTES_ARRAY_T(n)` -/
structure PbBytes (n : Nat) where
  size : Nat
  bytes : Buf n
  deriving DecidableEq

instance {n : Nat} : Inhabited (PbBytes n) := ⟨0, default⟩

def PbBytes.content {n : Nat} (b : PbBytes n) : Bytes := b.bytes.bytes.take b.size

/-- BYTES with room for `n`; the bytes behind a shorter content stay. -/
def bytes (n : Nat) (modify : (PbBytes n → PbBytes n) → σ → σ) : FieldDecoder σ :=
  delimited (fun size => size ≤ n) (fun size => modify fun dest => { dest with size := size })
    (fun content => modify fun dest => { dest with bytes := dest.bytes.write 0 content })

/-- STRING in `n` bytes, the terminating NUL included -/
def string (n : Nat) (modify : (Buf n → Buf n) → σ → σ) : FieldDecoder σ :=
  delimited (fun size => size + 1 ≤ n) (fun size => modify fun dest => dest.write size [0])
    (fun content => modify fun dest => dest.write 0 content)

/-- MESSAGE. `enter` marks the field present, or counts the array entry and refuses when the
array is full; `get` is the submessage the fields are merged into. -/
def submessage (enter : σ → Bool × σ) (fields : Descriptor τ) (get : σ → τ) (set : τ → σ → σ) :
    FieldDecoder σ := fun wireType stream dest =>
  match enter dest with
  | (false, dest) => (none, dest)
  | (true, dest) =>
    if wireType = .string then
      match pbMakeStringSubstream stream.data with
      | none => (none, dest)
      | some (content, rest) =>
        match pbDecode fields ⟨stream.mem, content⟩ (get dest) with
        | (none, sub) => (none, set sub dest)
        | (some _, sub) => (some ⟨stream.mem, rest⟩, set sub dest)
    else (none, dest)

/-- OPTIONAL MESSAGE: repeated occurrences merge. -/
def optional (mark : σ → σ) (fields : Descriptor τ) (get : σ → τ) (set : τ → σ → σ) :
    FieldDecoder σ :=
  submessage (fun dest => (true, mark dest)) fields get set

/-- REPEATED MESSAGE with room for `max` entries, each decoded from its defaults. -/
def repeated [Inhabited τ] (max : Nat) (entries : σ → List τ) (setEntries : List τ → σ → σ)
    (fields : Descriptor τ) : FieldDecoder σ :=
  submessage (fun dest => (decide ((entries dest).length < max), dest)) fields (fun _ => default)
    (fun entry dest => setEntries (entries dest ++ [entry]) dest)

/-- The callback of a field reads from the stream of its content. -/
abbrev Callback (σ : Type) := Istream → σ → Option Istream × σ

/-- The `do` loop of `decode_callback_field`: the callback runs again while it makes progress. -/
def callbackLoop (decode : Callback σ) : Nat → Istream → σ → Bool × σ
  | 0, _, dest => (true, dest)
  | fuel + 1, substream, dest =>
    match decode substream dest with
    | (none, dest) => (false, dest)
    | (some rest, dest) =>
      if 0 < rest.data.length ∧ rest.data.length < substream.data.length then
        callbackLoop decode fuel rest dest
      else (true, dest)

/-- `decode_callback_field`: a scalar is copied to the stack and handed over from there. -/
def callback (decode : Callback σ) : FieldDecoder σ := fun wireType stream dest =>
  if wireType = .string then
    match pbMakeStringSubstream stream.data with
    | none => (none, dest)
    | some (content, rest) =>
      match callbackLoop decode (content.length + 1) ⟨stream.mem, content⟩ dest with
      | (false, dest) => (none, dest)
      | (true, dest) => (some ⟨stream.mem, rest⟩, dest)
  else
    match readRawValue wireType stream.data with
    | none => (none, dest)
    | some (raw, rest) =>
      match decode ⟨.scratch, raw⟩ dest with
      | (none, dest) => (none, dest)
      | (some _, dest) => (some ⟨stream.mem, rest⟩, dest)

/-- A callback field whose `funcs.decode` is NULL. -/
def unusedCallback : FieldDecoder σ := callback fun stream dest => (some stream, dest)

end Fields

section Maps

variable {σ α : Type}

/-- The field decoder does the same to a destination changed by `φ`. -/
def FieldDecoder.Commutes (φ : σ → σ) (field : FieldDecoder σ) : Prop :=
  ∀ wireType stream dest, field wireType stream (φ dest) =
    ((field wireType stream dest).1, φ (field wireType stream dest).2)

variable {φ : σ → σ}

theorem scalar_commutes {expected : WireType} {read : Reader α} {store : α → σ → Bool × σ}
    (same : ∀ value dest, store value (φ dest) = ((store value dest).1, φ (store value dest).2)) :
    (scalar expected read store).Commutes φ := by
  intro wireType stream dest
  simp only [scalar]
  split
  · cases read stream.data with
    | none => rfl
    | some found =>
      simp only [same]
      cases store found.1 dest with
      | mk ok dest => cases ok <;> rfl
  · rfl

theorem delimited_commutes {accept : Nat → Bool} {prepare : Nat → σ → σ} {store : Bytes → σ → σ}
    (prepares : ∀ size dest, prepare size (φ dest) = φ (prepare size dest))
    (stores : ∀ content dest, store content (φ dest) = φ (store content dest)) :
    (delimited accept prepare store).Commutes φ := by
  intro wireType stream dest
  simp only [delimited]
  split
  · cases pbDecodeVarint32 stream.data with
    | none => rfl
    | some found =>
      dsimp only
      split
      · cases pbRead found.1.toNat found.2 <;> simp only [prepares, stores]
      · rfl
  · rfl

theorem callbackLoop_commutes {decode : Callback σ}
    (same : ∀ stream dest, decode stream (φ dest) = ((decode stream dest).1, φ (decode stream dest).2))
    (fuel : Nat) (stream : Istream) (dest : σ) :
    callbackLoop decode fuel stream (φ dest) =
      ((callbackLoop decode fuel stream dest).1, φ (callbackLoop decode fuel stream dest).2) := by
  induction fuel generalizing stream dest with
  | zero => rfl
  | succ fuel ih =>
    simp only [callbackLoop, same]
    cases decode stream dest with
    | mk rest dest =>
      cases rest with
      | none => rfl
      | some rest =>
        dsimp only
        split
        · exact ih _ _
        · rfl

theorem callback_commutes {decode : Callback σ}
    (same : ∀ stream dest, decode stream (φ dest) = ((decode stream dest).1, φ (decode stream dest).2)) :
    (callback decode).Commutes φ := by
  intro wireType stream dest
  simp only [callback]
  split
  · cases pbMakeStringSubstream stream.data with
    | none => rfl
    | some found =>
      simp only [callbackLoop_commutes same]
      cases callbackLoop decode (found.1.length + 1) ⟨stream.mem, found.1⟩ dest with
      | mk ok dest => cases ok <;> rfl
  · cases readRawValue wireType stream.data with
    | none => rfl
    | some found =>
      simp only [same]
      cases decode ⟨.scratch, found.1⟩ dest with
      | mk rest dest => cases rest <;> rfl

/-- Decoding into a destination changed by `φ`. -/
theorem pbDecodeInner_commutes {fields : Descriptor σ}
    (same : ∀ number field, fields number = some field → field.Commutes φ) (fuel : Nat)
    (stream : Istream) (dest : σ) :
    pbDecodeInner fields fuel stream (φ dest) =
      ((pbDecodeInner fields fuel stream dest).1, φ (pbDecodeInner fields fuel stream dest).2) := by
  induction fuel generalizing stream dest with
  | zero => rfl
  | succ fuel ih =>
    simp only [pbDecodeInner]
    split
    · rfl
    split
    · rfl
    rename_i tag wireType rest _
    split
    · rfl
    cases known : fields tag with
    | none =>
      dsimp only
      cases pbSkipField wireType rest with
      | none => rfl
      | some rest => exact ih _ _
    | some field =>
      simp only [same _ _ known _ _ dest]
      cases field wireType ⟨stream.mem, rest⟩ dest with
      | mk next dest =>
        cases next with
        | none => rfl
        | some next => exact ih _ _

theorem pbDecode_commutes {fields : Descriptor σ}
    (same : ∀ number field, fields number = some field → field.Commutes φ) (stream : Istream)
    (dest : σ) : pbDecode fields stream (φ dest) =
      ((pbDecode fields stream dest).1, φ (pbDecode fields stream dest).2) :=
  pbDecodeInner_commutes same _ stream dest

end Maps

end TronLedger.Nanopb
