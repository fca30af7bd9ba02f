import TronLedger.ProcessTx
import TronLedger.Nanopb.Wire

/-!
# The records of a transaction

What the records of `Transaction.raw` do to the message a chunk is decoded into. Everything
that is said about the bytes of a transaction is said about its records.

* `customData`, `contractEntries` and `feeLimitOf` read a transaction from its records.
* `applyRecord_*` say what each record does, `decodeRecords_*` what a chunk does.
-/

namespace TronLedger

open Nanopb

/-- The number of a field of `Transaction.raw` that is decoded. -/
def customDataTag : Nat := 10
def contractTag : Nat := 11
def feeLimitTag : Nat := 18

/-- The custom data of a transaction: the last occurrence wins. -/
def customStep (data : Bytes) (r : Record) : Bytes :=
  if r.number = customDataTag ∧ r.wireType = .string then r.content else data

def customData (rs : List Record) : Bytes := rs.foldl customStep []

/-- The entries of the repeated contract field. -/
def contractEntries (rs : List Record) : List Record := rs.filter (·.number = contractTag)

/-- The contract of an entry, with the parameter captured from it. -/
def contractOf (entry : Record) : Option (TransactionContract × ContractBuffer) :=
  if entry.wireType = .string then
    match pbMakeStringSubstream entry.body with
    | none => none
    | some (content, _) =>
      match pbDecode (TransactionContract.fields pbDecodeContractParameter) ⟨.caller, content⟩
          (default, ⟨none, false⟩) with
      | (none, _) => none
      | (some _, decoded) => some decoded
  else none

/-- The entry carries a parameter. -/
def bearsParameter (entry : Record) : Bool := (contractOf entry).any (·.1.hasParameter)

/-- The bytes a callback gets from a record: the content, or the raw scalar. -/
def callbackBytes (r : Record) : Option Bytes :=
  if r.wireType = .string then (pbMakeStringSubstream r.body).map (·.1)
  else (readRawValue r.wireType r.body).map (·.1)

/-- The value of a fee limit record. -/
def feeLimitOf (r : Record) : Option Int64 :=
  if r.wireType = .varint then (pbDecodeVarint r.body).map (·.1.toInt64) else none

/-- The record can be decoded into `raw`. -/
def recordReads (raw : TransactionRaw) (r : Record) : Bool :=
  if r.number = customDataTag then (callbackBytes r).isSome
  else if r.number = contractTag then raw.contractCount = 0 ∧ (contractOf r).isSome
  else if r.number = feeLimitTag then (feeLimitOf r).isSome
  else true

def dataStep (size : UInt64) (r : Record) : UInt64 :=
  if r.number = customDataTag then
    match callbackBytes r with
    | none => size
    | some bs => UInt64.ofNat bs.length
  else size

def feeStep (fee : Int64) (r : Record) : Int64 :=
  if r.number = feeLimitTag then (feeLimitOf r).getD 0 else fee

/-- The message behind a record that is decoded into it. -/
def rawAfter (raw : TransactionRaw) (r : Record) : TransactionRaw where
  dataBytes := dataStep raw.dataBytes r
  contractCount := if r.number = contractTag then raw.contractCount + 1 else raw.contractCount
  contract := if r.number = contractTag then ((contractOf r).getD (default, ⟨none, false⟩)).1 else raw.contract
  contractBuffer :=
    if r.number = contractTag then ((contractOf r).getD (default, ⟨none, false⟩)).2 else raw.contractBuffer
  feeLimit := feeStep raw.feeLimit r

/-- Nothing is captured before the contract. -/
def TransactionRaw.Fresh (raw : TransactionRaw) : Prop :=
  raw.contractCount = 0 → raw.contract = default ∧ raw.contractBuffer = ⟨none, false⟩

theorem transactionRaw_local : TransactionRaw.fields.Local := .table (by simp)

section Records

variable {r : Record} {raw : TransactionRaw}

theorem pbGetTxDataSize_loop (mem : Mem) (content : Bytes) :
    callbackLoop pbGetTxDataSize (content.length + 1) ⟨mem, content⟩ raw =
      (true, { raw with dataBytes := UInt64.ofNat content.length }) := by
  simp [callbackLoop, pbGetTxDataSize]

/-- A custom data record stores its size. -/
theorem applyRecord_customData (same : r.number = customDataTag) :
    applyRecord TransactionRaw.fields .caller r raw =
      match callbackBytes r with
      | none => (false, raw)
      | some bs => (true, { raw with dataBytes := UInt64.ofNat bs.length }) := by
  simp only [applyRecord, TransactionRaw.fields, Descriptor.table_cons, same, customDataTag, reduceIte, callback,
    callbackBytes]
  split
  · cases pbMakeStringSubstream r.body with
    | none => rfl
    | some found => simp only [pbGetTxDataSize_loop, Option.map_some, Option.isSome_some]
  · cases readRawValue r.wireType r.body with
    | none => rfl
    | some found => rfl

/-- A fee limit record stores its value. -/
theorem applyRecord_feeLimit (same : r.number = feeLimitTag) :
    applyRecord TransactionRaw.fields .caller r raw =
      match feeLimitOf r with
      | none => (false, raw)
      | some fee => (true, { raw with feeLimit := fee }) := by
  simp only [applyRecord, TransactionRaw.fields, Descriptor.table_cons, same, feeLimitTag, Nat.reduceEqDiff, reduceIte,
    int64, scalar, feeLimitOf]
  split
  · cases pbDecodeVarint r.body with
    | none => rfl
    | some found => rfl
  · rfl

/-- The first contract record of a chunk is decoded. -/
theorem applyRecord_contract (same : r.number = contractTag) (first : raw.contractCount = 0)
    (fresh : raw.Fresh) :
    (applyRecord TransactionRaw.fields .caller r raw).1 = (contractOf r).isSome ∧
      ∀ decoded, contractOf r = some decoded → (applyRecord TransactionRaw.fields .caller r raw).2 =
        { raw with contractCount := 1, contract := decoded.1, contractBuffer := decoded.2 } := by
  simp only [applyRecord, TransactionRaw.fields, Descriptor.table_cons, same, contractTag, Nat.reduceEqDiff, reduceIte,
    submessage, first, (fresh first).2, Nat.zero_lt_one, decide_true, contractOf]
  split
  · cases pbMakeStringSubstream r.body with
    | none => simp
    | some found =>
      dsimp only
      cases pbDecode (TransactionContract.fields pbDecodeContractParameter) ⟨.caller, found.1⟩
          (default, ⟨none, false⟩) with
      | mk stream decoded => cases stream <;> simp
  · simp

/-- A second one is refused. -/
theorem applyRecord_contract_full (same : r.number = contractTag) (full : raw.contractCount ≠ 0) :
    (applyRecord TransactionRaw.fields .caller r raw).1 = false := by
  have notFirst : decide (raw.contractCount < 1) = false := by simpa using full
  simp only [applyRecord, TransactionRaw.fields, Descriptor.table_cons, same, contractTag, Nat.reduceEqDiff, reduceIte,
    submessage, notFirst]
  rfl

/-- A record of another field changes nothing. -/
theorem applyRecord_other (data : r.number ≠ customDataTag) (contract : r.number ≠ contractTag)
    (fee : r.number ≠ feeLimitTag) : applyRecord TransactionRaw.fields .caller r raw = (true, raw) := by
  have unknown : TransactionRaw.fields r.number = none := by
    simp only [customDataTag, contractTag, feeLimitTag] at data contract fee
    simp only [TransactionRaw.fields, Descriptor.table_cons, Descriptor.table_nil, if_neg data, if_neg contract,
      if_neg fee]
  simp only [applyRecord, unknown]

/-- What a record does, whatever its field. -/
theorem applyRecord_raw (r : Record) (fresh : raw.Fresh) :
    (applyRecord TransactionRaw.fields .caller r raw).1 = recordReads raw r ∧
      (recordReads raw r = true →
        (applyRecord TransactionRaw.fields .caller r raw).2 = rawAfter raw r) := by
  by_cases data : r.number = customDataTag
  · have contract : r.number ≠ contractTag := by rw [data]; decide
    have fee : r.number ≠ feeLimitTag := by rw [data]; decide
    rw [applyRecord_customData data]
    simp only [recordReads, rawAfter, dataStep, feeStep, if_pos data, if_neg contract, if_neg fee]
    cases callbackBytes r <;> simp
  by_cases contract : r.number = contractTag
  · have fee : r.number ≠ feeLimitTag := by rw [contract]; decide
    by_cases first : raw.contractCount = 0
    · obtain ⟨ok, after⟩ := applyRecord_contract contract first fresh
      simp only [recordReads, rawAfter, dataStep, feeStep, if_neg data, if_pos contract, if_neg fee,
        first, true_and, Bool.decide_eq_true]
      refine ⟨ok, fun isSome => ?_⟩
      obtain ⟨decoded, found⟩ := Option.isSome_iff_exists.mp isSome
      rw [after decoded found, found]
      rfl
    · simp [recordReads, if_neg data, if_pos contract, first, applyRecord_contract_full contract first]
  by_cases fee : r.number = feeLimitTag
  · rw [applyRecord_feeLimit fee]
    simp only [recordReads, rawAfter, dataStep, feeStep, if_neg data, if_neg contract, if_pos fee]
    cases feeLimitOf r <;> simp
  · rw [applyRecord_other data contract fee]
    simp [recordReads, rawAfter, dataStep, feeStep, data, contract, fee]

theorem TransactionRaw.Fresh.after (fresh : raw.Fresh) (r : Record) : (rawAfter raw r).Fresh := by
  intro none
  by_cases contract : r.number = contractTag
  · simp [rawAfter, contract] at none
  · simp only [rawAfter, if_neg contract] at none ⊢
    exact fresh none

theorem TransactionRaw.Fresh.initial (dataBytes : UInt64) : (TransactionRaw.initial dataBytes).Fresh :=
  fun _ => ⟨rfl, rfl⟩

/-- A decoded chunk is the fold of its records. -/
theorem decodeRecords_raw {rs : List Record} {raw' : TransactionRaw} (fresh : raw.Fresh)
    (done : decodeRecords TransactionRaw.fields .caller rs raw = (true, raw')) :
    raw' = rs.foldl rawAfter raw := by
  induction rs generalizing raw with
  | nil => exact (Prod.mk.inj done).2.symm
  | cons r rs ih =>
    obtain ⟨ok, after⟩ := applyRecord_raw r fresh
    simp only [decodeRecords] at done
    split at done
    · simp at done
    · rename_i next applied
      rw [applied] at ok after
      obtain rfl : next = rawAfter raw r := after ok.symm
      exact ih (fresh.after r) done

theorem foldl_dataBytes (rs : List Record) :
    (rs.foldl rawAfter raw).dataBytes = rs.foldl dataStep raw.dataBytes := by
  induction rs generalizing raw with
  | nil => rfl
  | cons r rs ih => exact ih

theorem foldl_feeLimit (rs : List Record) :
    (rs.foldl rawAfter raw).feeLimit = rs.foldl feeStep raw.feeLimit := by
  induction rs generalizing raw with
  | nil => rfl
  | cons r rs ih => exact ih

end Records

/-- An accepted chunk is a sequence of records, and what it leaves is read from them. -/
theorem pbDecode_raw {payload : Bytes} {dataBytes : UInt64} {stream : Istream} {raw : TransactionRaw}
    (decoded : pbDecode TransactionRaw.fields (pbIstreamFromBuffer payload)
      (TransactionRaw.initial dataBytes) = (some stream, raw)) :
    ∃ rs, Framed payload rs ∧ decodeRecords TransactionRaw.fields .caller rs (.initial dataBytes) =
      (true, raw) ∧ raw = rs.foldl rawAfter (.initial dataBytes) := by
  obtain ⟨rs, framed, done⟩ := framed_of_pbDecode transactionRaw_local decoded
  exact ⟨rs, framed, done, decodeRecords_raw (.initial dataBytes) done⟩

end TronLedger
