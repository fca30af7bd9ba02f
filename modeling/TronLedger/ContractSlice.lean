import TronLedger.ProcessSteps
import TronLedger.Nanopb.LastWins

/-!
# Where a contract is decoded from

The contract of a chunk is decoded from what the callback of its parameter has captured: a
place and a length, which the decoder may have taken from the chunk or from the stack.

* `chunkValues` are the value records of the contract's parameter, `contractPayload` the
  payload a contract can be decoded from. Both are read from the records of the chunk.
* `processTxTraced` is `processTx` with the region it hands to the decoder of the contract.
* `contract_slice` says that this region is the payload, and so a part of the chunk.
-/

namespace TronLedger

open Nanopb

/-- The parameter in a contract entry, and the value in the parameter. -/
def parameterTag : Nat := 2
def valueTag : Nat := 2

def ofField (number : Nat) (rs : List Record) : List Record := rs.filter (·.number = number)

/-- The records of submessages, one after the other: they merge. `none` when one is no message. -/
def mergedRecords : List Record → Option (List Record)
  | [] => some []
  | r :: rs =>
    if r.wireType = .string then
      match records r.content, mergedRecords rs with
      | some own, some more => some (own ++ more)
      | _, _ => none
    else none

/-- The value records of the parameter of a contract entry. -/
def entryValues (entry : Record) : Option (List Record) :=
  if entry.wireType = .string then
    match records entry.content with
    | none => none
    | some es => (mergedRecords (ofField parameterTag es)).map (ofField valueTag)
  else none

/-- The value records of the contract of a chunk. -/
def chunkValues (chunk : Bytes) : Option (List Record) :=
  match records chunk with
  | none => none
  | some rs =>
    match contractEntries rs with
    | [entry] => entryValues entry
    | _ => none

/-- The payload of the one value of a chunk, delimited and not empty. -/
def contractPayload (chunk : Bytes) : Option Bytes :=
  match chunkValues chunk with
  | some [v] => if v.wireType = .string ∧ v.content ≠ [] then some v.content else none
  | _ => none

/-- The entry is a message without a parameter. -/
def lacksParameter (entry : Record) : Bool :=
  decide (entry.wireType = .string) && (records entry.content).any fun es => (ofField parameterTag es).isEmpty

/-- No contract of the chunk has a parameter. -/
def withoutParameter (chunk : Bytes) : Bool :=
  (records chunk).any fun rs => (contractEntries rs).all lacksParameter

/-- `processContract`, with the captured region it decodes the contract from. -/
def processContractTraced (raw : TransactionRaw) (content : TxContent) (msg : Msg) :
    (ParserStatus × TxContent × Msg) × Option Istream :=
  if raw.contract.hasParameter then
    if content.contractSeen then ((.fault, content, msg), none)
    else
      let content := { content with contractSeen := true }
      match raw.contractBuffer.buf with
      | none => ((.fault, content, msg), none)
      | some stream =>
        if stream.data.length = 0 then ((.fault, content, msg), none)
        else if stream.mem ≠ .caller then ((.fault, content, msg), none)
        else
          let content := { content with
            permissionId := raw.contract.permissionId
            contractType := ContractType.ofCode raw.contract.type }
          match readByType raw.contract.type content (pbIstreamFromBuffer stream.data) msg with
          | (true, content, msg) => ((.processing, content, msg), some stream)
          | (false, content, msg) => ((.fault, content, msg), some stream)
  else ((.processing, content, msg), none)

/-- `processTx`, with the captured region it decodes the contract from. -/
def processTxTraced (dataAllowed : Bool) (buffer : Bytes) (content : TxContent) (msg : Msg) :
    (ParserStatus × TxContent × Msg) × Option Istream :=
  if buffer.length = 0 then ((.finished, content, msg), none)
  else
    match pbDecode TransactionRaw.fields (pbIstreamFromBuffer buffer)
        (TransactionRaw.initial content.dataBytes) with
    | (none, raw) => ((.fault, { content with dataBytes := raw.dataBytes }, default), none)
    | (some _, raw) =>
      let content := { content with dataBytes := raw.dataBytes }
      match content.applyFeeLimit raw.feeLimit.toUInt64 with
      | none => ((.fault, content, default), none)
      | some content =>
        if !dataAllowed ∧ content.dataBytes ≠ 0 then
          ((.missingSettingDataAllowed, content, default), none)
        else processContractTraced raw content default

/-- The place a callback gets for a record: the content in the chunk, or a copy of a scalar. -/
def regionOf (r : Record) : Istream :=
  if r.wireType = .string then ⟨.caller, r.content⟩
  else ⟨.scratch, ((readRawValue r.wireType r.body).map (·.1)).getD []⟩

/-- The callback has seen the value records `vs`: none, or one, whose place it has captured. -/
inductive Captures : List Record → ContractBuffer → Prop
  | nothing : Captures [] ⟨none, false⟩
  | one (v : Record) : Captures [v] ⟨some (regionOf v), true⟩

section Values

variable {mem : Mem} {es ps vs : List Record} {buffer buffer' : ContractBuffer}

theorem any_local : (Any.fields pbDecodeContractParameter).Local := .table (by simp)

theorem transactionContract_local : (TransactionContract.fields pbDecodeContractParameter).Local :=
  .table (by simp)

theorem ofField_cons_same {number : Nat} {r : Record} (same : r.number = number) (rs : List Record) :
    ofField number (r :: rs) = r :: ofField number rs :=
  List.filter_cons_of_pos (by simpa using same)

theorem ofField_cons_other {number : Nat} {r : Record} (other : r.number ≠ number) (rs : List Record) :
    ofField number (r :: rs) = ofField number rs :=
  List.filter_cons_of_neg (by simpa using other)

theorem ofField_append (number : Nat) (rs qs : List Record) :
    ofField number (rs ++ qs) = ofField number rs ++ ofField number qs := List.filter_append ..

/-- A value record is the first, and its place is captured. -/
theorem applyRecord_value {r : Record} (same : r.number = valueTag) (before : Captures vs buffer)
    (applied : applyRecord (Any.fields pbDecodeContractParameter) .caller r buffer = (true, buffer')) :
    Captures (vs ++ [r]) buffer' := by
  simp only [applyRecord, same, valueTag, Any.fields, Descriptor.table_cons, Nat.reduceEqDiff, reduceIte,
    callback] at applied
  cases before with
  | one v =>
    -- the callback fails when it runs again
    split at applied
    · split at applied
      · simp at applied
      · rename_i content rest _
        simp [callbackLoop, pbDecodeContractParameter] at applied
    · split at applied
      · simp at applied
      · simp [pbDecodeContractParameter] at applied
  | nothing =>
    have region : buffer' = ⟨some (regionOf r), true⟩ := by
      split at applied
      · rename_i delimited
        cases taken : pbMakeStringSubstream r.body with
        | none => simp [taken] at applied
        | some found =>
          simp only [taken, callbackLoop, pbDecodeContractParameter, Bool.false_eq_true, if_false,
            Nat.lt_irrefl, and_false] at applied
          obtain ⟨-, rfl⟩ := Prod.mk.inj applied
          simp [regionOf, delimited, Record.content, taken]
      · rename_i scalar
        cases read : readRawValue r.wireType r.body with
        | none => simp [read] at applied
        | some found =>
          simp only [read, pbDecodeContractParameter, Bool.false_eq_true, if_false] at applied
          obtain ⟨-, rfl⟩ := Prod.mk.inj applied
          simp [regionOf, scalar, read]
    rw [region]
    exact .one r

theorem applyRecord_any_other {r : Record} (other : r.number ≠ valueTag)
    (applied : applyRecord (Any.fields pbDecodeContractParameter) .caller r buffer = (true, buffer')) :
    buffer' = buffer := by
  have elsewhere : (Any.fields pbDecodeContractParameter).KeepsElsewhere valueTag id := .table (by simp [valueTag])
  exact elsewhere.record other applied

/-- A parameter adds its value records. -/
theorem decodeRecords_any (before : Captures vs buffer)
    (done : decodeRecords (Any.fields pbDecodeContractParameter) .caller ps buffer = (true, buffer')) :
    Captures (vs ++ ofField valueTag ps) buffer' := by
  induction ps generalizing vs buffer with
  | nil =>
    obtain ⟨-, rfl⟩ := Prod.mk.inj done
    simpa [ofField] using before
  | cons r rs ih =>
    simp only [decodeRecords] at done
    split at done
    · simp at done
    rename_i next applied
    by_cases same : r.number = valueTag
    · have after := ih (applyRecord_value same before applied) done
      rw [List.append_assoc] at after
      rw [ofField_cons_same same]
      exact after
    · obtain rfl := applyRecord_any_other same applied
      rw [ofField_cons_other same]
      exact ih before done

/-- A record that is decoded as a parameter is a message, and adds its value records. -/
theorem applyRecord_parameter {r : Record} {contract contract' : TransactionContract}
    (same : r.number = parameterTag) (before : Captures vs buffer)
    (applied : applyRecord (TransactionContract.fields pbDecodeContractParameter) .caller r
      (contract, buffer) = (true, (contract', buffer'))) :
    contract'.hasParameter = true ∧ r.wireType = .string ∧
      ∃ own, records r.content = some own ∧ Captures (vs ++ ofField valueTag own) buffer' := by
  simp only [applyRecord, same, parameterTag, TransactionContract.fields, Descriptor.table_cons, Nat.reduceEqDiff,
    reduceIte, Nanopb.optional, submessage] at applied
  split at applied
  · rename_i delimited
    cases taken : pbMakeStringSubstream r.body with
    | none => simp [taken] at applied
    | some found =>
      obtain ⟨inner, behind⟩ := found
      have own : r.content = inner := by rw [Record.content, taken, Option.map_some, Option.getD_some]
      simp only [taken] at applied
      split at applied
      · simp at applied
      rename_i stream sub decoded
      obtain ⟨rfl, rfl⟩ := Prod.mk.inj (Prod.mk.inj applied).2
      obtain ⟨rs, framed, done⟩ := framed_of_pbDecode any_local decoded
      exact ⟨rfl, delimited, rs, own ▸ records_eq_some.mpr framed, decodeRecords_any before done⟩
  · simp at applied

/-- A record of another field touches neither. -/
theorem applyRecord_contract_other {r : Record} {contract contract' : TransactionContract}
    (other : r.number ≠ parameterTag)
    (applied : applyRecord (TransactionContract.fields pbDecodeContractParameter) .caller r
      (contract, buffer) = (true, (contract', buffer'))) :
    contract'.hasParameter = contract.hasParameter ∧ buffer' = buffer := by
  have elsewhere : (TransactionContract.fields pbDecodeContractParameter).KeepsElsewhere parameterTag
      fun dest => (dest.1.hasParameter, dest.2) := .table (by simp [parameterTag])
  exact Prod.mk.inj (elsewhere.record other applied)

/-- The records of a contract: its parameters merge. -/
theorem decodeRecords_contract {contract contract' : TransactionContract} (before : Captures vs buffer)
    (done : decodeRecords (TransactionContract.fields pbDecodeContractParameter) .caller es
      (contract, buffer) = (true, (contract', buffer'))) :
    (∃ own, mergedRecords (ofField parameterTag es) = some own ∧
        Captures (vs ++ ofField valueTag own) buffer') ∧
      (contract'.hasParameter = true ↔ contract.hasParameter = true ∨ ofField parameterTag es ≠ []) := by
  induction es generalizing vs contract buffer with
  | nil =>
    obtain ⟨rfl, rfl⟩ := Prod.mk.inj (Prod.mk.inj done).2
    refine ⟨⟨[], rfl, by simpa [ofField] using before⟩, by simp [ofField]⟩
  | cons r rs ih =>
    simp only [decodeRecords] at done
    split at done
    · simp at done
    rename_i next applied
    obtain ⟨middle, captured⟩ := next
    by_cases same : r.number = parameterTag
    · obtain ⟨marked, delimited, own, read, after⟩ := applyRecord_parameter same before applied
      obtain ⟨⟨more, merged, captures⟩, present⟩ := ih after done
      refine ⟨⟨own ++ more, ?_, ?_⟩, ?_⟩
      · rw [ofField_cons_same same, mergedRecords, if_pos delimited, read, merged]
      · rw [ofField_append, ← List.append_assoc]
        exact captures
      · rw [ofField_cons_same same, present]
        simp [marked]
    · obtain ⟨flag, rfl⟩ := applyRecord_contract_other same applied
      rw [ofField_cons_other same, ← flag]
      exact ih before done

end Values

section Entries

/-- What is captured from a contract entry. -/
theorem contractOf_values {entry : Record} {contract : TransactionContract} {buffer : ContractBuffer}
    (found : contractOf entry = some (contract, buffer)) :
    (∃ vs, entryValues entry = some vs ∧ Captures vs buffer) ∧
      (contract.hasParameter = false → lacksParameter entry = true) := by
  unfold contractOf at found
  split at found
  · rename_i delimited
    cases taken : pbMakeStringSubstream entry.body with
    | none => simp [taken] at found
    | some inner =>
      have own : entry.content = inner.1 := by
        rw [Record.content, taken, Option.map_some, Option.getD_some]
      simp only [taken] at found
      split at found
      · simp at found
      rename_i stream decoded result
      obtain rfl := Option.some.inj found
      obtain ⟨es, framed, done⟩ := framed_of_pbDecode transactionContract_local result
      have read : records entry.content = some es := own ▸ records_eq_some.mpr framed
      obtain ⟨⟨rs, merged, captures⟩, present⟩ := decodeRecords_contract .nothing done
      refine ⟨⟨ofField valueTag rs, ?_, captures⟩, fun bare => ?_⟩
      · simp only [entryValues, if_pos delimited, read, merged, Option.map_some]
      · have none : ofField parameterTag es = [] := by
          by_contra some
          exact absurd (present.mpr (.inr some)) (by simp [bare])
        simp [lacksParameter, delimited, read, none]
  · simp at found

/-- A decoded chunk has no parameter, or has captured from the value records of its contract. -/
theorem chunk_captures {chunk : Bytes} {dataBytes : UInt64} {stream : Istream} {raw : TransactionRaw}
    (decoded : pbDecode TransactionRaw.fields (pbIstreamFromBuffer chunk)
      (TransactionRaw.initial dataBytes) = (some stream, raw)) :
    (raw.contract.hasParameter = false → withoutParameter chunk = true) ∧
      (raw.contract.hasParameter = true →
        ∃ vs, chunkValues chunk = some vs ∧ Captures vs raw.contractBuffer) := by
  obtain ⟨rs, framed, done, rfl⟩ := pbDecode_raw decoded
  have read := records_eq_some.mpr framed
  rcases decodeRecords_entries rfl (.initial dataBytes) (by rw [done]) with ⟨none, contract⟩ |
    ⟨entry, ⟨contract, buffer⟩, single, found, sameContract, sameBuffer⟩
  · rw [contract]
    exact ⟨fun _ => by simp [withoutParameter, read, none], fun present => absurd present (by decide)⟩
  · obtain ⟨⟨vs, values, captures⟩, lacks⟩ := contractOf_values found
    constructor
    · intro bare
      rw [sameContract] at bare
      simp [withoutParameter, read, single, lacks bare]
    · intro present
      refine ⟨vs, ?_, by rw [sameBuffer]; exact captures⟩
      simp only [chunkValues, read, single, values]

theorem mergedRecords_within {ps vs : List Record} (merged : mergedRecords ps = some vs) {v : Record}
    (among : v ∈ vs) : ∃ p ∈ ps, v.content <:+: p.content := by
  induction ps generalizing vs with
  | nil =>
    obtain rfl := Option.some.inj merged
    simp at among
  | cons p ps ih =>
    simp only [mergedRecords] at merged
    split at merged
    · split at merged
      · rename_i own more read rest
        obtain rfl := Option.some.inj merged
        rcases List.mem_append.mp among with first | behind
        · exact ⟨p, List.mem_cons_self .., (records_eq_some.mp read).within first⟩
        · obtain ⟨q, later, inside⟩ := ih rest behind
          exact ⟨q, List.mem_cons_of_mem p later, inside⟩
      · simp at merged
    · simp at merged

/-- A value is a part of the chunk. -/
theorem chunkValues_within {chunk : Bytes} {vs : List Record} (values : chunkValues chunk = some vs)
    {v : Record} (among : v ∈ vs) : v.content <:+: chunk := by
  unfold chunkValues at values
  split at values
  · simp at values
  rename_i rs read
  split at values
  · rename_i entry single
    have inside : entry.content <:+: chunk := by
      apply (records_eq_some.mp read).within
      exact (List.mem_filter.mp (single ▸ List.mem_singleton_self entry : entry ∈ contractEntries rs)).1
    unfold entryValues at values
    split at values
    · split at values
      · simp at values
      rename_i es entryRead
      obtain ⟨merged, found, rfl⟩ := Option.map_eq_some_iff.mp values
      obtain ⟨p, parameter, valueInside⟩ := mergedRecords_within found (List.mem_filter.mp among).1
      have parameterInside := (records_eq_some.mp entryRead).within (List.mem_filter.mp parameter).1
      exact valueInside.trans (parameterInside.trans inside)
    · simp at values
  · simp at values

/-- The payload is a part of the chunk, and not empty. -/
theorem contractPayload_within {chunk payload : Bytes} (found : contractPayload chunk = some payload) :
    payload <:+: chunk ∧ payload ≠ [] := by
  unfold contractPayload at found
  split at found
  · rename_i v values
    split_ifs at found with usable
    obtain rfl := Option.some.inj found
    exact ⟨chunkValues_within values (List.mem_singleton_self v), usable.2⟩
  · simp at found

/-- A captured place in the chunk that is not empty is the payload. -/
theorem contractPayload_captured {chunk : Bytes} {vs : List Record} {buffer : ContractBuffer}
    {stream : Istream} (values : chunkValues chunk = some vs) (captures : Captures vs buffer)
    (region : buffer.buf = some stream) (caller : stream.mem = .caller) (nonempty : stream.data ≠ []) :
    contractPayload chunk = some stream.data := by
  cases captures with
  | nothing => simp at region
  | one v =>
    obtain rfl := Option.some.inj region
    by_cases delimited : v.wireType = .string
    · simp only [regionOf, if_pos delimited] at nonempty ⊢
      simp only [contractPayload, values, delimited, ne_eq, nonempty, not_false_eq_true, and_self,
        if_true]
    · simp [regionOf, delimited] at caller

end Entries

section Chunks

variable {allowed : Bool} {chunk : Bytes} {raw : TransactionRaw} {content : TxContent} {msg : Msg}

theorem processContractTraced_result (raw : TransactionRaw) (content : TxContent) (msg : Msg) :
    (processContractTraced raw content msg).1 = processContract raw content msg := by
  unfold processContractTraced processContract
  split
  · split
    · rfl
    cases raw.contractBuffer.buf with
    | none => rfl
    | some stream =>
      dsimp only
      split
      · rfl
      split
      · rfl
      generalize readByType _ _ _ _ = read
      obtain ⟨ok, content, msg⟩ := read
      cases ok <;> rfl
  · rfl

/-- The traced run is the run. -/
theorem processTxTraced_result (allowed : Bool) (chunk : Bytes) (content : TxContent) (msg : Msg) :
    (processTxTraced allowed chunk content msg).1 = processTx allowed chunk content msg := by
  unfold processTxTraced processTx
  split
  · rfl
  generalize pbDecode TransactionRaw.fields (pbIstreamFromBuffer chunk)
    (TransactionRaw.initial content.dataBytes) = decoded
  obtain ⟨rest, raw⟩ := decoded
  cases rest with
  | none => rfl
  | some rest =>
    dsimp only
    cases TxContent.applyFeeLimit _ raw.feeLimit.toUInt64 with
    | none => rfl
    | some limited =>
      dsimp only
      split
      · rfl
      · exact processContractTraced_result raw limited default

/-- A contract is decoded from a captured place in the chunk, or the chunk is refused. -/
theorem processContractTraced_cases (raw : TransactionRaw) (content : TxContent) (msg : Msg) :
    (∃ stream, (processContractTraced raw content msg).2 = some stream ∧
        raw.contract.hasParameter = true ∧ raw.contractBuffer.buf = some stream ∧
        stream.mem = .caller ∧ stream.data ≠ []) ∨
      ((processContractTraced raw content msg).2 = none ∧
        (raw.contract.hasParameter = false ∨ (processContractTraced raw content msg).1.1 = .fault)) := by
  unfold processContractTraced
  split
  · rename_i bears
    split
    · exact .inr ⟨rfl, .inr rfl⟩
    cases region : raw.contractBuffer.buf with
    | none => exact .inr ⟨rfl, .inr rfl⟩
    | some stream =>
      dsimp only
      split
      · exact .inr ⟨rfl, .inr rfl⟩
      rename_i nonempty
      split
      · exact .inr ⟨rfl, .inr rfl⟩
      rename_i caller
      left
      refine ⟨stream, ?_, bears, rfl, not_not.mp caller, by simpa [List.length_eq_zero_iff] using nonempty⟩
      split <;> rfl
  · rename_i bare
    exact .inr ⟨rfl, .inl (by simpa using bare)⟩

/-- The contract is decoded from the payload, which is a part of the chunk. -/
theorem processTxTraced_payload {stream : Istream}
    (traced : (processTxTraced allowed chunk content msg).2 = some stream) :
    stream.mem = .caller ∧ contractPayload chunk = some stream.data := by
  unfold processTxTraced at traced
  split at traced
  · simp at traced
  split at traced
  · simp at traced
  rename_i raw decoded
  dsimp only at traced
  split at traced
  · simp at traced
  split at traced
  · simp at traced
  rename_i applied _ _
  rcases processContractTraced_cases raw applied default with
    ⟨region, same, bears, captured, caller, nonempty⟩ | ⟨none, -⟩
  · obtain rfl := Option.some.inj (same.symm.trans traced)
    obtain ⟨vs, values, captures⟩ := (chunk_captures decoded).2 bears
    exact ⟨caller, contractPayload_captured values captures captured caller nonempty⟩
  · simp [none] at traced

/-- A chunk with a parameter and no payload is refused. -/
theorem processTx_refuses (nonempty : chunk ≠ []) (bears : withoutParameter chunk = false)
    (unusable : contractPayload chunk = none) :
    (processTx allowed chunk content msg).1 = .fault ∨
      ((processTx allowed chunk content msg).1 = .missingSettingDataAllowed ∧ allowed = false ∧
        (processTx allowed chunk content msg).2.1.dataBytes ≠ 0) := by
  unfold processTx
  rw [if_neg (by simpa [List.length_eq_zero_iff] using nonempty)]
  split
  · exact .inl rfl
  rename_i raw decoded
  dsimp only
  split
  · exact .inl rfl
  rename_i applied limit
  split
  · rename_i gate
    exact .inr ⟨rfl, by simpa using gate⟩
  · left
    obtain ⟨lacks, values⟩ := chunk_captures decoded
    have present : raw.contract.hasParameter = true := by
      by_contra bare
      rw [lacks (by simpa using bare)] at bears
      simp at bears
    rw [← processContractTraced_result]
    rcases processContractTraced_cases raw applied default with
      ⟨region, -, -, captured, caller, filled⟩ | ⟨-, bare | fault⟩
    · obtain ⟨vs, found, captures⟩ := values present
      rw [contractPayload_captured found captures captured caller filled] at unusable
      simp at unusable
    · rw [present] at bare
      simp at bare
    · exact fault

/-- **The contract is a part of the chunk.** What is decoded as a contract is the payload of the
one value of its parameter. A chunk whose parameter is encoded otherwise is refused, by the
setting check when that comes first. -/
theorem contract_slice (allowed : Bool) (chunk : Bytes) (content : TxContent) (msg : Msg) :
    (processTxTraced allowed chunk content msg).1 = processTx allowed chunk content msg ∧
      (∀ region, (processTxTraced allowed chunk content msg).2 = some region →
        region.mem = .caller ∧ contractPayload chunk = some region.data ∧ region.data <:+: chunk) ∧
      (chunk ≠ [] → withoutParameter chunk = false → contractPayload chunk = none →
        (processTx allowed chunk content msg).1 = .fault ∨
          ((processTx allowed chunk content msg).1 = .missingSettingDataAllowed ∧ allowed = false ∧
            (processTx allowed chunk content msg).2.1.dataBytes ≠ 0)) := by
  refine ⟨processTxTraced_result allowed chunk content msg, fun region traced => ?_, processTx_refuses⟩
  obtain ⟨caller, payload⟩ := processTxTraced_payload traced
  exact ⟨caller, payload, (contractPayload_within payload).1⟩

/-- A transfer of one sun, and one whose value comes twice. -/
def transferChunk : Bytes := [0x5A, 8, 8, 1, 0x12, 4, 0x12, 2, 0x18, 1]
def repeatedValue : Bytes := [0x5A, 12, 8, 1, 0x12, 8, 0x12, 2, 0x18, 1, 0x12, 2, 0x18, 1]

theorem contract_slice_transfer :
    contractPayload transferChunk = some [0x18, 1] ∧
      (processTx true repeatedValue .empty default).1 = .fault := by
  have transfer := (contract_slice true transferChunk .empty default).2.1 ⟨.caller, [0x18, 1]⟩
    (by decide +kernel)
  have refused := (contract_slice true repeatedValue .empty default).2.2 (by decide) (by decide +kernel)
    (by decide +kernel)
  refine ⟨transfer.2.1, ?_⟩
  rcases refused with fault | ⟨-, off, -⟩
  · exact fault
  · simp at off

/-- Custom data before a parameter without a value, and a contract without a parameter. -/
def dataBeforeParameter : Bytes := [0x52, 1, 0, 0x5A, 4, 8, 1, 0x12, 0]
def bareContract : Bytes := [0x5A, 2, 8, 1]

/-- The setting check comes first, and a contract without a parameter is passed over. -/
theorem contract_slice_unfaulted :
    (withoutParameter dataBeforeParameter = false ∧ contractPayload dataBeforeParameter = none ∧
        (processTx false dataBeforeParameter .empty default).1 = .missingSettingDataAllowed) ∧
      contractPayload bareContract = none ∧
        (processTx false bareContract .empty default).1 = .processing := by
  refine ⟨⟨?_, ?_, ?_⟩, ?_, ?_⟩ <;> decide +kernel

end Chunks

end TronLedger
