import TronLedger.RawRecords

/-!
# What a chunk does to the transaction

`processTx` on an accepted chunk: its records, the fee limit and the custom data it adds, and
the contract it may carry.

* A contract is read the same whatever the chunks around it left in the three fields that
  `TxContent.reframe` sets.
* `contractRead` is what a contract entry gives on its own.
-/

namespace TronLedger

open Nanopb

/-- What `processTx` keeps itself, apart from what a contract reader stores. -/
def TxContent.outside (content : TxContent) (dataBytes feeLimit : UInt64) (seen capture : Bool)
    (type : ContractType) (id : Int32) : TxContent :=
  { content with
    dataBytes := dataBytes
    feeLimit := feeLimit
    feeLimitSeen := seen
    contractSeen := capture
    contractType := type
    permissionId := id }

/-- What chunks without a contract can change. -/
def TxContent.reframe (content : TxContent) (dataBytes feeLimit : UInt64) (seen : Bool) : TxContent :=
  content.outside dataBytes feeLimit seen content.contractSeen content.contractType
    content.permissionId

section Readers

variable {d f : UInt64} {seen capture : Bool} {type : ContractType} {id : Int32}

/-- The reader neither reads nor writes what `outside` sets. -/
def ContractReader.Reframes (read : ContractReader) : Prop :=
  ∀ content d f seen capture type id stream, read (content.outside d f seen capture type id) stream =
    ((read content stream).1, (read content stream).2.outside d f seen capture type id)

theorem readContract_reframes {m : Type} [Inhabited m] {fields : Descriptor m}
    {store : m → TxContent → Bool × TxContent}
    (same : ∀ msg content d f seen capture type id, store msg (content.outside d f seen capture type id) =
      ((store msg content).1, (store msg content).2.outside d f seen capture type id)) :
    ContractReader.Reframes (readContract fields store) := by
  intro content d f seen capture type id stream
  simp only [readContract]
  cases pbDecode fields stream default with
  | mk rest msg =>
    cases rest with
    | none => rfl
    | some rest => exact same msg content d f seen capture type id

variable (d f seen capture type id) in
theorem printTokenFromID_reframe (content : TxContent) (i : Fin 2) (data : Bytes) (size : Nat) :
    printTokenFromID (content.outside d f seen capture type id) i data size =
      ((printTokenFromID content i data size).1,
        (printTokenFromID content i data size).2.outside d f seen capture type id) := by
  simp only [printTokenFromID]
  split_ifs <;> rfl

theorem transferAssetContract_reframes : ContractReader.Reframes transferAssetContract := by
  refine readContract_reframes fun msg content d f seen capture type id => ?_
  have printed := printTokenFromID_reframe d f seen capture type id
    { content with amount := content.amount.set 0 msg.amount.toUInt64 } 0 msg.assetNameMemory
    msg.assetName.size
  simp only [TxContent.outside] at printed ⊢
  rw [printed]
  cases printTokenFromID { content with amount := content.amount.set 0 msg.amount.toUInt64 } 0
      msg.assetNameMemory msg.assetName.size with
  | mk ok content => cases ok <;> rfl

theorem voteWitnessContract_reframes : ContractReader.Reframes voteWitnessContract := by
  refine readContract_reframes fun msg content d f seen capture type id => ?_
  split <;> rfl

theorem freezeBalanceContract_reframes : ContractReader.Reframes freezeBalanceContract := by
  refine readContract_reframes fun msg content d f seen capture type id => ?_
  split <;> rfl

theorem storeExchange_reframe (msg : ExchangeInjectContract) (content : TxContent) :
    storeExchange msg (content.outside d f seen capture type id) =
      ((storeExchange msg content).1, (storeExchange msg content).2.outside d f seen capture type id) := by
  have printed := printTokenFromID_reframe d f seen capture type id
    { content with account := msg.ownerAddress, exchangeID := msg.exchangeId.toUInt64 } 0
    msg.tokenIdMemory msg.tokenId.size
  simp only [storeExchange, TxContent.outside] at printed ⊢
  rw [printed]
  cases printTokenFromID
      { content with account := msg.ownerAddress, exchangeID := msg.exchangeId.toUInt64 } 0
      msg.tokenIdMemory msg.tokenId.size with
  | mk ok content => cases ok <;> rfl

theorem exchangeTransactionContract_reframes :
    ContractReader.Reframes exchangeTransactionContract := by
  refine readContract_reframes fun msg content d f seen capture type id => ?_
  have printed := printTokenFromID_reframe d f seen capture type id
    { content with account := msg.ownerAddress, exchangeID := msg.exchangeId.toUInt64 } 0
    msg.tokenIdMemory msg.tokenId.size
  simp only [TxContent.outside] at printed ⊢
  rw [printed]
  cases printTokenFromID
      { content with account := msg.ownerAddress, exchangeID := msg.exchangeId.toUInt64 } 0
      msg.tokenIdMemory msg.tokenId.size with
  | mk ok content => cases ok <;> rfl

theorem exchangeCreateContract_reframes : ContractReader.Reframes exchangeCreateContract := by
  refine readContract_reframes fun msg content d f seen capture type id => ?_
  have first := printTokenFromID_reframe d f seen capture type id
    { content with account := msg.ownerAddress } 0 msg.firstTokenIdMemory msg.firstTokenId.size
  simp only [TxContent.outside] at first ⊢
  rw [first]
  cases printTokenFromID { content with account := msg.ownerAddress } 0 msg.firstTokenIdMemory
      msg.firstTokenId.size with
  | mk ok named =>
    cases ok with
    | false => rfl
    | true =>
      have second := printTokenFromID_reframe d f seen capture type id (named.measureToken 0) 1
        msg.secondTokenIdMemory msg.secondTokenId.size
      simp only [TxContent.outside, TxContent.measureToken, TxContent.tokenName] at second ⊢
      rw [second]
      generalize printTokenFromID _ 1 msg.secondTokenIdMemory msg.secondTokenId.size = named
      obtain ⟨ok, named⟩ := named
      cases ok <;> rfl

theorem pbDecodeTriggerSmartContractData_reframe (stream : Istream) (content : TxContent) :
    pbDecodeTriggerSmartContractData stream (content.outside d f seen capture type id) =
      ((pbDecodeTriggerSmartContractData stream content).1,
        (pbDecodeTriggerSmartContractData stream content).2.outside d f seen capture type id) := by
  simp only [pbDecodeTriggerSmartContractData]
  cases pbRead 4 stream.data with
  | none => rfl
  | some found =>
    dsimp only
    split_ifs <;> rfl

variable (d f seen capture type id) in
theorem triggerSmartContract_fields_commute (number : Nat)
    (field : FieldDecoder (TriggerSmartContract × TxContent))
    (known : TriggerSmartContract.fields pbDecodeTriggerSmartContractData number = some field) :
    field.Commutes fun (m, content) => (m, content.outside d f seen capture type id) := by
  refine Descriptor.forall_table (P := fun _ field => field.Commutes fun (m, content) =>
    (m, content.outside d f seen capture type id)) ?_ number field known
  simp only [List.forall_mem_cons, List.not_mem_nil, false_imp_iff, implies_true, and_true]
  refine ⟨delimited_commutes (fun _ _ => rfl) fun _ _ => rfl, delimited_commutes (fun _ _ => rfl) fun _ _ => rfl,
    scalar_commutes fun _ _ => rfl, callback_commutes fun stream dest => ?_, scalar_commutes fun _ _ => rfl,
    scalar_commutes fun _ _ => rfl⟩
  simp only [pbDecodeTriggerSmartContractData_reframe]

theorem triggerSmartContract_reframes : ContractReader.Reframes triggerSmartContract := by
  intro content d f seen capture type id stream
  have decoded := pbDecode_commutes
    (triggerSmartContract_fields_commute d f seen capture type id) stream (default, content)
  simp only [triggerSmartContract, decoded]
  cases pbDecode (TriggerSmartContract.fields pbDecodeTriggerSmartContractData) stream
      (default, content) with
  | mk rest decoded =>
    obtain ⟨msg, content⟩ := decoded
    cases rest with
    | none => rfl
    | some rest =>
      dsimp only
      cases getKnownToken msg.contractAddress <;> rfl

/-- Every reader of the table. -/
theorem contractReader_reframes {type : ContractType} {read : ContractReader}
    (known : contractReader type = some read) : read.Reframes := by
  unfold contractReader at known
  split at known <;> simp only [Option.some.injEq, reduceCtorEq] at known <;> subst known
  case h_2 => exact transferAssetContract_reframes
  case h_3 => exact voteWitnessContract_reframes
  case h_4 => exact freezeBalanceContract_reframes
  case h_16 => exact triggerSmartContract_reframes
  case h_17 => exact exchangeCreateContract_reframes
  case h_18 | h_19 => exact readContract_reframes fun msg content _ _ _ _ _ _ => storeExchange_reframe msg content
  case h_20 => exact exchangeTransactionContract_reframes
  all_goals exact readContract_reframes fun _ _ _ _ _ _ _ _ => rfl

variable (d f seen capture type id) in
theorem readByType_reframe (code : UInt32) (content : TxContent) (stream : Istream) (msg : Msg) :
    readByType code (content.outside d f seen capture type id) stream msg =
      ((readByType code content stream msg).1,
        (readByType code content stream msg).2.1.outside d f seen capture type id,
        (readByType code content stream msg).2.2) := by
  simp only [readByType]
  split
  · cases pbDecode AccountPermissionUpdateContract.fields stream msg with
    | mk rest msg => cases rest <;> rfl
  · cases known : contractReader (ContractType.ofCode code) with
    | none => rfl
    | some read => simp only [contractReader_reframes known content d f seen capture type id stream]

/-- A reader keeps what `outside` sets. -/
theorem readByType_outside (code : UInt32) (content : TxContent) (stream : Istream) (msg : Msg) :
    (readByType code content stream msg).2.1 =
      (readByType code content stream msg).2.1.outside content.dataBytes content.feeLimit
        content.feeLimitSeen content.contractSeen content.contractType content.permissionId := by
  have same := readByType_reframe content.dataBytes content.feeLimit content.feeLimitSeen
    content.contractSeen content.contractType content.permissionId code content stream msg
  exact congrArg (fun read => read.2.1) same

theorem readByType_contractSeen (code : UInt32) (content : TxContent) (stream : Istream) (msg : Msg) :
    (readByType code content stream msg).2.1.contractSeen = content.contractSeen := by
  rw [readByType_outside]
  rfl

theorem readByType_contractType (code : UInt32) (content : TxContent) (stream : Istream) (msg : Msg) :
    (readByType code content stream msg).2.1.contractType = content.contractType := by
  rw [readByType_outside]
  rfl

/-- A contract with a reader is read by it. -/
theorem readByType_reader {code : UInt32} {content stored : TxContent} {stream : Istream}
    {msg kept : Msg} {ok : Bool} {reader : ContractReader}
    (known : contractReader (ContractType.ofCode code) = some reader)
    (read : readByType code content stream msg = (ok, stored, kept)) :
    reader content stream = (ok, stored) := by
  unfold readByType at read
  split at read
  · rename_i permission
    simp [permission, contractReader] at known
  · simp only [known, Prod.mk.injEq] at read
    obtain ⟨rfl, rfl, -⟩ := read
    rfl

theorem processContract_reframe (raw : TransactionRaw) (content : TxContent) (msg : Msg) :
    processContract raw (content.reframe d f seen) msg =
      ((processContract raw content msg).1, (processContract raw content msg).2.1.reframe d f seen,
        (processContract raw content msg).2.2) := by
  unfold processContract
  split
  · have same : (content.reframe d f seen).contractSeen = content.contractSeen := rfl
    rw [same]
    split
    · rfl
    cases raw.contractBuffer.buf with
    | none => rfl
    | some stream =>
      dsimp only
      split
      · rfl
      split
      · rfl
      generalize before : { content with
        contractSeen := true
        permissionId := raw.contract.permissionId
        contractType := ContractType.ofCode raw.contract.type } = typed
      have read := readByType_reframe d f seen true (ContractType.ofCode raw.contract.type)
        raw.contract.permissionId
        raw.contract.type typed (pbIstreamFromBuffer stream.data) msg
      have kept := readByType_outside raw.contract.type typed (pbIstreamFromBuffer stream.data) msg
      have typed_eq : { content.reframe d f seen with
          contractSeen := true
          permissionId := raw.contract.permissionId
          contractType := ContractType.ofCode raw.contract.type } =
          typed.outside d f seen true (ContractType.ofCode raw.contract.type)
            raw.contract.permissionId := by
        rw [← before]
        rfl
      rw [typed_eq, read]
      generalize readByType raw.contract.type typed (pbIstreamFromBuffer stream.data) msg = result
        at kept ⊢
      obtain ⟨ok, stored, msg'⟩ := result
      dsimp only at kept ⊢
      have reframed : stored.outside d f seen true (ContractType.ofCode raw.contract.type)
          raw.contract.permissionId = stored.reframe d f seen := by
        rw [kept, ← before]
        rfl
      rw [reframed]
      cases ok <;> rfl
  · rfl

theorem reframe_reframe (content : TxContent) (d' f' : UInt64) (seen' : Bool) :
    (content.reframe d f seen).reframe d' f' seen' = content.reframe d' f' seen' := rfl

end Readers

section Entries

/-- The message of a chunk whose only decoded field is the contract. -/
def contractRaw (decoded : TransactionContract × ContractBuffer) : TransactionRaw :=
  { TransactionRaw.initial 0 with contract := decoded.1, contractBuffer := decoded.2 }

/-- What a contract entry gives on its own: the content and the message the review reads. -/
def contractRead (entry : Record) : Option (TxContent × Msg) :=
  match contractOf entry with
  | none => none
  | some decoded =>
    match processContract (contractRaw decoded) .empty default with
    | (.processing, content, msg) => some (content, msg)
    | _ => none

theorem processContract_raw (raw : TransactionRaw) (content : TxContent) (msg : Msg) :
    processContract raw content msg =
      processContract (contractRaw (raw.contract, raw.contractBuffer)) content msg := rfl

theorem processContract_bare {raw : TransactionRaw} {content : TxContent} {msg : Msg}
    (bare : raw.contract.hasParameter = false) :
    processContract raw content msg = (.processing, content, msg) := by
  simp [processContract, bare]

theorem processContract_again (raw : TransactionRaw) (content : TxContent) (msg : Msg)
    (bears : raw.contract.hasParameter = true) (again : content.contractSeen = true) :
    (processContract raw content msg).1 = .fault := by
  simp [processContract, bears, again]

theorem processContract_status (raw : TransactionRaw) (content : TxContent) (msg : Msg) :
    (processContract raw content msg).1 = .processing ∨
      (processContract raw content msg).1 = .fault := by
  unfold processContract
  split
  · split
    · exact .inr rfl
    split
    · exact .inr rfl
    split
    · exact .inr rfl
    split
    · exact .inr rfl
    dsimp only
    split
    · exact .inl rfl
    · exact .inr rfl
  · exact .inl rfl

/-- `content` ready for the contract of a chunk to be read into it. -/
def TxContent.typed (content : TxContent) (contract : TransactionContract) : TxContent :=
  { content with
    contractSeen := true
    permissionId := contract.permissionId
    contractType := ContractType.ofCode contract.type }

/-- A reader that accepts has decoded its contract and stored it. -/
theorem readContract_decodes {m : Type} [Inhabited m] {fields : Descriptor m}
    {store : m → TxContent → Bool × TxContent} {content stored : TxContent} {stream : Istream}
    (read : readContract fields store content stream = (true, stored)) :
    ∃ rest msg, pbDecode fields stream default = (some rest, msg) ∧ store msg content = (true, stored) := by
  unfold readContract at read
  split at read
  · simp at read
  · rename_i rest msg decoded
    exact ⟨rest, msg, decoded, read⟩

/-- An accepted contract is read from the bytes of its parameter. -/
theorem processContract_reads {raw : TransactionRaw} {content content' : TxContent} {msg msg' : Msg}
    (bears : raw.contract.hasParameter = true)
    (processed : processContract raw content msg = (.processing, content', msg')) :
    ∃ parameter, raw.contractBuffer.buf = some ⟨.caller, parameter⟩ ∧ parameter ≠ [] ∧
      content.contractSeen = false ∧
      readByType raw.contract.type (content.typed raw.contract) (pbIstreamFromBuffer parameter) msg =
        (true, content', msg') := by
  simp only [processContract, bears, if_true] at processed
  split at processed
  · simp at processed
  rename_i unseen
  split at processed
  · simp at processed
  rename_i stream captured
  split at processed
  · simp at processed
  rename_i nonempty
  split at processed
  · simp at processed
  rename_i caller
  refine ⟨stream.data, ?_, by simpa [List.length_eq_zero_iff] using nonempty, by simpa using unseen, ?_⟩
  · rw [captured, ← not_not.mp caller]
  split at processed
  · rename_i read
    rw [show content.typed raw.contract = _ from rfl, TxContent.typed, read]
    simpa using processed
  · simp at processed

variable {raw : TransactionRaw} {rs : List Record}

theorem recordReads_contract {r : Record} (same : r.number = contractTag) :
    recordReads raw r = decide (raw.contractCount = 0 ∧ (contractOf r).isSome = true) := by
  have data : r.number ≠ customDataTag := by rw [same]; decide
  simp only [recordReads, if_neg data, if_pos same]

/-- Behind the contract of a chunk there is no second one. -/
theorem decodeRecords_full (full : raw.contractCount ≠ 0)
    (done : (decodeRecords TransactionRaw.fields .caller rs raw).1 = true) :
    contractEntries rs = [] ∧ (rs.foldl rawAfter raw).contract = raw.contract ∧
      (rs.foldl rawAfter raw).contractBuffer = raw.contractBuffer := by
  induction rs generalizing raw with
  | nil => exact ⟨rfl, rfl, rfl⟩
  | cons r rs ih =>
    have fresh : raw.Fresh := fun none => absurd none full
    obtain ⟨ok, after⟩ := applyRecord_raw r fresh
    simp only [decodeRecords] at done
    split at done
    · simp at done
    rename_i next applied
    rw [applied] at ok after
    have reads := ok.symm
    obtain rfl : next = rawAfter raw r := after reads
    have other : r.number ≠ contractTag := by
      intro same
      simp [recordReads_contract same, full] at reads
    obtain ⟨none, contract, buffer⟩ := ih (by simpa [rawAfter, other] using full) done
    refine ⟨by simpa [contractEntries, other] using none, ?_, ?_⟩
    · simpa [rawAfter, other] using contract
    · simpa [rawAfter, other] using buffer

/-- A decoded chunk has no contract entry, or one. -/
theorem decodeRecords_entries (first : raw.contractCount = 0) (fresh : raw.Fresh)
    (done : (decodeRecords TransactionRaw.fields .caller rs raw).1 = true) :
    (contractEntries rs = [] ∧ (rs.foldl rawAfter raw).contract = default) ∨
      ∃ entry decoded, contractEntries rs = [entry] ∧ contractOf entry = some decoded ∧
        (rs.foldl rawAfter raw).contract = decoded.1 ∧
        (rs.foldl rawAfter raw).contractBuffer = decoded.2 := by
  induction rs generalizing raw with
  | nil => exact .inl ⟨rfl, (fresh first).1⟩
  | cons r rs ih =>
    obtain ⟨ok, after⟩ := applyRecord_raw r fresh
    simp only [decodeRecords] at done
    split at done
    · simp at done
    rename_i next applied
    rw [applied] at ok after
    have reads := ok.symm
    obtain rfl : next = rawAfter raw r := after reads
    by_cases contract : r.number = contractTag
    · right
      have isSome : (contractOf r).isSome = true := by
        simpa [recordReads_contract contract, first] using reads
      obtain ⟨decoded, found⟩ := Option.isSome_iff_exists.mp isSome
      obtain ⟨none, sameContract, sameBuffer⟩ :=
        decodeRecords_full (by simp [rawAfter, contract]) done
      refine ⟨r, decoded, by simpa [contractEntries, contract] using none, found, ?_, ?_⟩
      · rw [List.foldl_cons, sameContract]
        simp only [rawAfter, contract, if_true, found, Option.getD_some]
      · rw [List.foldl_cons, sameBuffer]
        simp only [rawAfter, contract, if_true, found, Option.getD_some]
    · have entries : contractEntries (r :: rs) = contractEntries rs := by
        simp [contractEntries, contract]
      rw [entries]
      exact ih (by simpa [rawAfter, contract] using first) (fresh.after r) done

end Entries

section Chunks

variable {allowed : Bool} {payload : Bytes} {content : TxContent} {msg : Msg}

@[simp] theorem processTx_nil :
    processTx allowed [] content msg = (.finished, content, msg) := rfl

/-- The limit stays, or it is the one the chunk sets. -/
def FeeKept (content : TxContent) (fee : UInt64) (seen : Bool) : Prop :=
  (fee = content.feeLimit ∧ seen = content.feeLimitSeen) ∨
    (seen = true ∧ fee ≠ 0 ∧ (content.feeLimitSeen = true → fee = content.feeLimit))

theorem applyFeeLimit_kept {applied : TxContent} {feeLimit : UInt64}
    (h : content.applyFeeLimit feeLimit = some applied) :
    ∃ fee seen, applied = content.reframe content.dataBytes fee seen ∧ FeeKept content fee seen := by
  unfold TxContent.applyFeeLimit at h
  split_ifs at h with zero other
  · obtain rfl := Option.some.inj h
    exact ⟨_, _, rfl, .inl ⟨rfl, rfl⟩⟩
  · obtain rfl := Option.some.inj h
    refine ⟨_, _, rfl, .inr ⟨rfl, zero, fun seen => ?_⟩⟩
    by_contra differs
    exact other ⟨seen, fun same => differs same.symm⟩

/-- What an accepted chunk with the records `rs` makes of `content`. -/
structure ChunkAccepted (allowed : Bool) (content : TxContent) (rs : List Record) (fee : UInt64)
    (seen : Bool) : Prop where
  data : allowed = true ∨ rs.foldl dataStep content.dataBytes = 0
  fee : FeeKept content fee seen

/-- An accepted chunk carries no contract with a parameter, or the first of the session. -/
theorem processTx_processing {content' : TxContent} {msg' : Msg}
    (h : processTx allowed payload content msg = (.processing, content', msg')) :
    ∃ rs fee seen, Framed payload rs ∧ ChunkAccepted allowed content rs fee seen ∧
      (((∀ entry ∈ contractEntries rs, bearsParameter entry = false) ∧ msg' = default ∧
          content' = content.reframe (rs.foldl dataStep content.dataBytes) fee seen) ∨
        ∃ entry decoded, contractEntries rs = [entry] ∧ contractOf entry = some decoded ∧
          bearsParameter entry = true ∧ content.contractSeen = false ∧
          processContract (contractRaw decoded)
            (content.reframe (rs.foldl dataStep content.dataBytes) fee seen) default =
              (.processing, content', msg')) := by
  unfold processTx at h
  split at h
  · simp at h
  split at h
  · simp at h
  rename_i raw decoded
  obtain ⟨rs, framed, done, rfl⟩ := pbDecode_raw decoded
  dsimp only at h
  split at h
  · simp at h
  rename_i applied limit
  obtain ⟨fee, seen, rfl, kept⟩ := applyFeeLimit_kept limit
  split at h
  · simp at h
  rename_i gate
  have data : (rs.foldl rawAfter (.initial content.dataBytes)).dataBytes =
      rs.foldl dataStep content.dataBytes := foldl_dataBytes rs
  rw [data] at h gate
  have ok : (decodeRecords TransactionRaw.fields .caller rs (.initial content.dataBytes)).1 = true := by
    rw [done]
  refine ⟨rs, fee, seen, framed, ⟨?_, kept⟩, ?_⟩
  · cases allowed with
    | true => exact .inl rfl
    | false => exact .inr (by simpa [TxContent.reframe, TxContent.outside] using gate)
  rcases decodeRecords_entries rfl (.initial _) ok with ⟨none, contract⟩ |
    ⟨entry, decoded, single, found, contract, buffer⟩
  · left
    rw [processContract_bare (by rw [contract]; rfl)] at h
    obtain ⟨-, rfl, rfl⟩ := h
    exact ⟨by simp [none], rfl, rfl⟩
  · by_cases bears : decoded.1.hasParameter = true
    · right
      rw [processContract_raw, contract, buffer] at h
      refine ⟨entry, decoded, single, found, by simp [bearsParameter, found, bears], ?_, h⟩
      by_contra again
      have fault := processContract_again (contractRaw decoded)
        (content.reframe (rs.foldl dataStep content.dataBytes) fee seen) default bears (by simpa [TxContent.reframe, TxContent.outside] using again)
      change processContract (contractRaw decoded)
        (content.reframe (rs.foldl dataStep content.dataBytes) fee seen) default = _ at h
      rw [h] at fault
      simp at fault
    · left
      rw [processContract_bare (by rw [contract]; simpa using bears)] at h
      obtain ⟨-, rfl, rfl⟩ := h
      refine ⟨fun e among => ?_, rfl, rfl⟩
      obtain rfl : e = entry := by simpa [single] using among
      simp [bearsParameter, found, bears]

theorem processTx_finished (h : (processTx allowed payload content msg).1 = .finished) :
    payload = [] := by
  unfold processTx at h
  split at h
  · rename_i empty
    exact List.length_eq_zero_iff.mp empty
  · split at h
    · simp at h
    · dsimp only at h
      split at h
      · simp at h
      split at h
      · simp at h
      · refine absurd h ?_
        rcases processContract_status _ _ _ with status | status <;> rw [status] <;> simp

end Chunks

end TronLedger
