import TronLedger.ProcessSteps
import TronLedger.Nanopb.LastWins

/-!
# The numbers of a contract, as they are on the wire

Which records the amounts and the ids of a transaction come from.

* The tables of the messages say that no other field writes a number (`KeepsElsewhere`).
* There is one lemma for each reader with a number that a review shows, and `StoresNumbers` says what all of them
  store.
-/

namespace TronLedger

open Nanopb

section Messages

theorem transferContract_local : TransferContract.fields.Local := .table (by simp)

theorem transferContract_amount : TransferContract.fields.KeepsElsewhere 3 TransferContract.amount :=
  .table (by simp)

theorem transferAssetContract_local : TransferAssetContract.fields.Local := .table (by simp)

theorem transferAssetContract_amount :
    TransferAssetContract.fields.KeepsElsewhere 4 TransferAssetContract.amount := .table (by simp)

theorem freezeBalanceContract_local : FreezeBalanceContract.fields.Local := .table (by simp)

theorem freezeBalanceContract_frozenBalance :
    FreezeBalanceContract.fields.KeepsElsewhere 2 FreezeBalanceContract.frozenBalance := .table (by simp)

theorem freezeBalanceV2Contract_local : FreezeBalanceV2Contract.fields.Local := .table (by simp)

theorem freezeBalanceV2Contract_frozenBalance :
    FreezeBalanceV2Contract.fields.KeepsElsewhere 2 FreezeBalanceV2Contract.frozenBalance := .table (by simp)

theorem unfreezeBalanceV2Contract_local : UnfreezeBalanceV2Contract.fields.Local := .table (by simp)

theorem unfreezeBalanceV2Contract_unfreezeBalance :
    UnfreezeBalanceV2Contract.fields.KeepsElsewhere 2 UnfreezeBalanceV2Contract.unfreezeBalance :=
  .table (by simp)

theorem delegateResourceContract_local : DelegateResourceContract.fields.Local := .table (by simp)

theorem delegateResourceContract_balance :
    DelegateResourceContract.fields.KeepsElsewhere 3 DelegateResourceContract.balance := .table (by simp)

theorem unDelegateResourceContract_local : UnDelegateResourceContract.fields.Local := .table (by simp)

theorem unDelegateResourceContract_balance :
    UnDelegateResourceContract.fields.KeepsElsewhere 3 UnDelegateResourceContract.balance := .table (by simp)

theorem triggerSmartContract_local : (TriggerSmartContract.fields pbDecodeTriggerSmartContractData).Local :=
  .table (by simp)

theorem triggerSmartContract_callValue :
    (TriggerSmartContract.fields pbDecodeTriggerSmartContractData).KeepsElsewhere 3 (·.1.callValue) :=
  .table (by simp)

theorem triggerSmartContract_callTokenValue :
    (TriggerSmartContract.fields pbDecodeTriggerSmartContractData).KeepsElsewhere 5
      (·.1.callTokenValue) := .table (by simp)

theorem exchangeCreateContract_local : ExchangeCreateContract.fields.Local := .table (by simp)

theorem exchangeCreateContract_firstTokenBalance :
    ExchangeCreateContract.fields.KeepsElsewhere 3 ExchangeCreateContract.firstTokenBalance := .table (by simp)

theorem exchangeCreateContract_secondTokenBalance :
    ExchangeCreateContract.fields.KeepsElsewhere 5 ExchangeCreateContract.secondTokenBalance := .table (by simp)

theorem exchangeInjectContract_local : ExchangeInjectContract.fields.Local := .table (by simp)

theorem exchangeInjectContract_exchangeId :
    ExchangeInjectContract.fields.KeepsElsewhere 2 ExchangeInjectContract.exchangeId := .table (by simp)

theorem exchangeInjectContract_quant :
    ExchangeInjectContract.fields.KeepsElsewhere 4 ExchangeInjectContract.quant := .table (by simp)

theorem exchangeTransactionContract_local : ExchangeTransactionContract.fields.Local := .table (by simp)

theorem exchangeTransactionContract_exchangeId :
    ExchangeTransactionContract.fields.KeepsElsewhere 2 ExchangeTransactionContract.exchangeId :=
  .table (by simp)

theorem exchangeTransactionContract_quant :
    ExchangeTransactionContract.fields.KeepsElsewhere 4 ExchangeTransactionContract.quant := .table (by simp)

theorem exchangeTransactionContract_expected :
    ExchangeTransactionContract.fields.KeepsElsewhere 5 ExchangeTransactionContract.expected := .table (by simp)

end Messages

section Prints

variable {content stored : TxContent} {stream : Istream}

/-- What a reader that names a token has decoded, named and stored. -/
theorem transferAssetContract_prints (read : transferAssetContract content stream = (true, stored)) :
    ∃ rest msg named, pbDecode TransferAssetContract.fields stream default = (some rest, msg) ∧
      printTokenFromID { content with amount := content.amount.set 0 msg.amount.toUInt64 } 0
        msg.assetNameMemory msg.assetName.size = (true, named) ∧
      stored = { named.measureToken 0 with
        account := msg.ownerAddress
        destination := msg.toAddress } := by
  obtain ⟨rest, msg, decoded, stored_eq⟩ := readContract_decodes read
  dsimp only at stored_eq
  split at stored_eq
  · simp at stored_eq
  · rename_i named printed
    exact ⟨rest, msg, named, decoded, printed, (Prod.mk.inj stored_eq).2.symm⟩

theorem exchangeCreateContract_prints (read : exchangeCreateContract content stream = (true, stored)) :
    ∃ rest msg named named', pbDecode ExchangeCreateContract.fields stream default = (some rest, msg) ∧
      printTokenFromID { content with account := msg.ownerAddress } 0 msg.firstTokenIdMemory
        msg.firstTokenId.size = (true, named) ∧
      printTokenFromID (named.measureToken 0) 1 msg.secondTokenIdMemory msg.secondTokenId.size =
        (true, named') ∧
      stored = { named'.measureToken 1 with
        amount := ⟨msg.firstTokenBalance.toUInt64, msg.secondTokenBalance.toUInt64⟩ } := by
  obtain ⟨rest, msg, decoded, stored_eq⟩ := readContract_decodes read
  dsimp only at stored_eq
  split at stored_eq
  · simp at stored_eq
  rename_i named printed
  split at stored_eq
  · simp at stored_eq
  · rename_i named' printed'
    exact ⟨rest, msg, named, named', decoded, printed, printed', (Prod.mk.inj stored_eq).2.symm⟩

theorem storeExchange_prints
    (read : readContract ExchangeInjectContract.fields storeExchange content stream = (true, stored)) :
    ∃ rest msg named, pbDecode ExchangeInjectContract.fields stream default = (some rest, msg) ∧
      printTokenFromID { content with
        account := msg.ownerAddress
        exchangeID := msg.exchangeId.toUInt64 } 0 msg.tokenIdMemory msg.tokenId.size = (true, named) ∧
      stored = { named.measureToken 0 with amount := named.amount.set 0 msg.quant.toUInt64 } := by
  obtain ⟨rest, msg, decoded, stored_eq⟩ := readContract_decodes read
  simp only [storeExchange] at stored_eq
  split at stored_eq
  · simp at stored_eq
  · rename_i named printed
    exact ⟨rest, msg, named, decoded, printed, (Prod.mk.inj stored_eq).2.symm⟩

theorem exchangeTransactionContract_prints
    (read : exchangeTransactionContract content stream = (true, stored)) :
    ∃ rest msg named, pbDecode ExchangeTransactionContract.fields stream default = (some rest, msg) ∧
      printTokenFromID { content with
        account := msg.ownerAddress
        exchangeID := msg.exchangeId.toUInt64 } 0 msg.tokenIdMemory msg.tokenId.size = (true, named) ∧
      stored = { named.measureToken 0 with
        amount := ⟨msg.quant.toUInt64, msg.expected.toUInt64⟩ } := by
  obtain ⟨rest, msg, decoded, stored_eq⟩ := readContract_decodes read
  dsimp only at stored_eq
  split at stored_eq
  · simp at stored_eq
  · rename_i named printed
    exact ⟨rest, msg, named, decoded, printed, (Prod.mk.inj stored_eq).2.symm⟩

end Prints

section Readers

variable {content stored : TxContent} {parameter : Bytes}

/-- The amount of a transfer is its third field. -/
theorem transferContract_wire
    (read : transferContract content (pbIstreamFromBuffer parameter) = (true, stored)) :
    stored.amount.first = (int64Value 3 (recordsOf parameter)).toUInt64 := by
  obtain ⟨rest, msg, decoded, stored_eq⟩ := readContract_decodes read
  have amount := pbDecode_int64 transferContract_local rfl (fun _ _ => rfl) transferContract_amount rfl
    decoded
  rw [← amount, ← (Prod.mk.inj stored_eq).2]
  rfl

/-- Naming a token changes no number. -/
theorem printTokenFromID_numbers {named : TxContent} {ok : Bool} {i : Fin 2} {data : Bytes} {size : Nat}
    (printed : printTokenFromID content i data size = (ok, named)) :
    named.amount = content.amount ∧ named.exchangeID = content.exchangeID ∧
      named.decimals = content.decimals := by
  unfold printTokenFromID at printed
  split_ifs at printed <;> obtain ⟨-, rfl⟩ := Prod.mk.inj printed <;> exact ⟨rfl, rfl, rfl⟩

theorem transferAssetContract_wire
    (read : transferAssetContract content (pbIstreamFromBuffer parameter) = (true, stored)) :
    stored.amount.first = (int64Value 4 (recordsOf parameter)).toUInt64 := by
  obtain ⟨rest, msg, named, decoded, printed, rfl⟩ := transferAssetContract_prints read
  have amount := pbDecode_int64 transferAssetContract_local rfl (fun _ _ => rfl)
    transferAssetContract_amount rfl decoded
  have kept := (printTokenFromID_numbers printed).1
  rw [← amount]
  exact congrArg Pair.first kept

theorem freezeBalanceContract_wire
    (read : freezeBalanceContract content (pbIstreamFromBuffer parameter) = (true, stored)) :
    stored.amount.first = (int64Value 2 (recordsOf parameter)).toUInt64 := by
  obtain ⟨rest, msg, decoded, stored_eq⟩ := readContract_decodes read
  have amount := pbDecode_int64 freezeBalanceContract_local rfl (fun _ _ => rfl)
    freezeBalanceContract_frozenBalance rfl decoded
  split at stored_eq
  · simp at stored_eq
  · rw [← amount, ← (Prod.mk.inj stored_eq).2]
    rfl

theorem freezeBalanceV2Contract_wire
    (read : freezeBalanceV2Contract content (pbIstreamFromBuffer parameter) = (true, stored)) :
    stored.amount.first = (int64Value 2 (recordsOf parameter)).toUInt64 := by
  obtain ⟨rest, msg, decoded, stored_eq⟩ := readContract_decodes read
  have amount := pbDecode_int64 freezeBalanceV2Contract_local rfl (fun _ _ => rfl)
    freezeBalanceV2Contract_frozenBalance rfl decoded
  rw [← amount, ← (Prod.mk.inj stored_eq).2]
  rfl

theorem unfreezeBalanceV2Contract_wire
    (read : unfreezeBalanceV2Contract content (pbIstreamFromBuffer parameter) = (true, stored)) :
    stored.amount.first = (int64Value 2 (recordsOf parameter)).toUInt64 := by
  obtain ⟨rest, msg, decoded, stored_eq⟩ := readContract_decodes read
  have amount := pbDecode_int64 unfreezeBalanceV2Contract_local rfl (fun _ _ => rfl)
    unfreezeBalanceV2Contract_unfreezeBalance rfl decoded
  rw [← amount, ← (Prod.mk.inj stored_eq).2]
  rfl

theorem delegateResourceContract_wire
    (read : delegateResourceContract content (pbIstreamFromBuffer parameter) = (true, stored)) :
    stored.amount.first = (int64Value 3 (recordsOf parameter)).toUInt64 := by
  obtain ⟨rest, msg, decoded, stored_eq⟩ := readContract_decodes read
  have amount := pbDecode_int64 delegateResourceContract_local rfl (fun _ _ => rfl)
    delegateResourceContract_balance rfl decoded
  rw [← amount, ← (Prod.mk.inj stored_eq).2]
  rfl

theorem undelegateResourceContract_wire
    (read : undelegateResourceContract content (pbIstreamFromBuffer parameter) = (true, stored)) :
    stored.amount.first = (int64Value 3 (recordsOf parameter)).toUInt64 := by
  obtain ⟨rest, msg, decoded, stored_eq⟩ := readContract_decodes read
  have amount := pbDecode_int64 unDelegateResourceContract_local rfl (fun _ _ => rfl)
    unDelegateResourceContract_balance rfl decoded
  rw [← amount, ← (Prod.mk.inj stored_eq).2]
  rfl

/-- What a call moves; the data is read by a callback that leaves both values. -/
theorem triggerSmartContract_wire
    (read : triggerSmartContract content (pbIstreamFromBuffer parameter) = (true, stored)) :
    stored.amount.first = (int64Value 3 (recordsOf parameter)).toUInt64 ∧
      stored.callTokenValue = int64Value 5 (recordsOf parameter) := by
  unfold triggerSmartContract at read
  split at read
  · simp at read
  rename_i rest msg decoding decoded
  have value := pbDecode_int64 triggerSmartContract_local rfl
    (fun _ _ => rfl) triggerSmartContract_callValue rfl decoded
  have token := pbDecode_int64 triggerSmartContract_local rfl
    (fun _ _ => rfl) triggerSmartContract_callTokenValue rfl decoded
  dsimp only at read value token
  split at read
  · rw [← value, ← token, ← (Prod.mk.inj read).2]
    exact ⟨rfl, rfl⟩
  · rw [← value, ← token, ← (Prod.mk.inj read).2]
    exact ⟨rfl, rfl⟩

theorem exchangeCreateContract_wire
    (read : exchangeCreateContract content (pbIstreamFromBuffer parameter) = (true, stored)) :
    stored.amount.first = (int64Value 3 (recordsOf parameter)).toUInt64 ∧
      stored.amount.second = (int64Value 5 (recordsOf parameter)).toUInt64 := by
  obtain ⟨rest, msg, named, named', decoded, -, -, rfl⟩ := exchangeCreateContract_prints read
  have first := pbDecode_int64 exchangeCreateContract_local rfl (fun _ _ => rfl)
    exchangeCreateContract_firstTokenBalance rfl decoded
  have second := pbDecode_int64 exchangeCreateContract_local rfl (fun _ _ => rfl)
    exchangeCreateContract_secondTokenBalance rfl decoded
  rw [← first, ← second]
  exact ⟨rfl, rfl⟩

/-- `exchange_inject_contract` and `exchange_withdraw_contract`. -/
theorem storeExchange_wire (read : readContract ExchangeInjectContract.fields storeExchange content
      (pbIstreamFromBuffer parameter) = (true, stored)) :
    stored.exchangeID = (int64Value 2 (recordsOf parameter)).toUInt64 ∧
      stored.amount.first = (int64Value 4 (recordsOf parameter)).toUInt64 := by
  obtain ⟨rest, msg, named, decoded, printed, rfl⟩ := storeExchange_prints read
  have id := pbDecode_int64 exchangeInjectContract_local rfl (fun _ _ => rfl)
    exchangeInjectContract_exchangeId rfl decoded
  have amount := pbDecode_int64 exchangeInjectContract_local rfl (fun _ _ => rfl)
    exchangeInjectContract_quant rfl decoded
  have kept := (printTokenFromID_numbers printed).2.1
  rw [← id, ← amount]
  exact ⟨kept, rfl⟩

theorem exchangeTransactionContract_wire
    (read : exchangeTransactionContract content (pbIstreamFromBuffer parameter) = (true, stored)) :
    stored.exchangeID = (int64Value 2 (recordsOf parameter)).toUInt64 ∧
      stored.amount.first = (int64Value 4 (recordsOf parameter)).toUInt64 ∧
      stored.amount.second = (int64Value 5 (recordsOf parameter)).toUInt64 := by
  obtain ⟨rest, msg, named, decoded, printed, rfl⟩ := exchangeTransactionContract_prints read
  have id := pbDecode_int64 exchangeTransactionContract_local rfl (fun _ _ => rfl)
    exchangeTransactionContract_exchangeId rfl decoded
  have quant := pbDecode_int64 exchangeTransactionContract_local rfl (fun _ _ => rfl)
    exchangeTransactionContract_quant rfl decoded
  have expected := pbDecode_int64 exchangeTransactionContract_local rfl (fun _ _ => rfl)
    exchangeTransactionContract_expected rfl decoded
  have kept := (printTokenFromID_numbers printed).2.1
  rw [← id, ← quant, ← expected]
  exact ⟨kept, rfl, rfl⟩

/-- What an accepted contract holds of the numbers on the wire. -/
def StoresNumbers (type : ContractType) (stored : TxContent) (rs : List Record) : Prop :=
  match type with
  | .transfer | .delegateResource | .undelegateResource =>
    stored.amount.first = (int64Value 3 rs).toUInt64
  | .transferAsset => stored.amount.first = (int64Value 4 rs).toUInt64
  | .freezeBalance | .freezeBalanceV2 | .unfreezeBalanceV2 =>
    stored.amount.first = (int64Value 2 rs).toUInt64
  | .triggerSmart => stored.amount.first = (int64Value 3 rs).toUInt64 ∧
    stored.callTokenValue = int64Value 5 rs
  | .exchangeCreate => stored.amount.first = (int64Value 3 rs).toUInt64 ∧
    stored.amount.second = (int64Value 5 rs).toUInt64
  | .exchangeInject | .exchangeWithdraw => stored.exchangeID = (int64Value 2 rs).toUInt64 ∧
    stored.amount.first = (int64Value 4 rs).toUInt64
  | .exchangeTransaction => stored.exchangeID = (int64Value 2 rs).toUInt64 ∧
    stored.amount.first = (int64Value 4 rs).toUInt64 ∧
    stored.amount.second = (int64Value 5 rs).toUInt64
  | _ => True

/-- **Every accepted contract holds the numbers of its last records.** -/
theorem readByType_wire {code : UInt32} {msg kept : Msg}
    (read : readByType code content (pbIstreamFromBuffer parameter) msg = (true, stored, kept)) :
    StoresNumbers (ContractType.ofCode code) stored (recordsOf parameter) := by
  have reads {reader : ContractReader} (known : contractReader (ContractType.ofCode code) = some reader) :=
    readByType_reader known read
  unfold StoresNumbers
  split
  case h_13 => trivial
  all_goals rename_i type; rw [type] at reads
  · exact transferContract_wire (reads rfl)
  · exact delegateResourceContract_wire (reads rfl)
  · exact undelegateResourceContract_wire (reads rfl)
  · exact transferAssetContract_wire (reads rfl)
  · exact freezeBalanceContract_wire (reads rfl)
  · exact freezeBalanceV2Contract_wire (reads rfl)
  · exact unfreezeBalanceV2Contract_wire (reads rfl)
  · exact triggerSmartContract_wire (reads rfl)
  · exact exchangeCreateContract_wire (reads rfl)
  · exact storeExchange_wire (reads rfl)
  · exact storeExchange_wire (reads rfl)
  · exact exchangeTransactionContract_wire (reads rfl)

end Readers

end TronLedger
