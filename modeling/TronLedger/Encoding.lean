import TronLedger.ContractSlice
import TronLedger.RawRecords
import TronLedger.ResourceLabels
import TronLedger.CallData
import TronLedger.Nanopb.Carries

/-!
# The messages, as they are built

The field lists of `core/Contract.pb.h` and `core/Tron.pb.h` in the order `pb_encode` walks
them, and what the decoder makes of a message that was encoded.

* The `layout` of a message is its field list with the values to write.
* Each message has one lemma `_writes`: its encoding carries the default to the message.
* `Canonical` is what a message must be to be the image of itself: cleared behind what is
  filled, and no more entries than there is room for.
-/

namespace TronLedger

open Nanopb

section Layouts

def TransferContract.layout : Layout TransferContract :=
  [encodeFixedLengthBytes 1 (·.ownerAddress), encodeFixedLengthBytes 2 (·.toAddress), encodeInt64 3 (·.amount)]

def TransferAssetContract.layout : Layout TransferAssetContract :=
  [encodeBytes 1 (·.assetName), encodeFixedLengthBytes 2 (·.ownerAddress), encodeFixedLengthBytes 3 (·.toAddress),
    encodeInt64 4 (·.amount)]

def Vote.layout : Layout Vote := [encodeFixedLengthBytes 1 (·.voteAddress), encodeInt64 2 (·.voteCount)]

def VoteWitnessContract.layout : Layout VoteWitnessContract :=
  [encodeFixedLengthBytes 1 (·.ownerAddress), encodeRepeated 2 5 Vote.layout (·.votes)]

def FreezeBalanceContract.layout : Layout FreezeBalanceContract :=
  [encodeFixedLengthBytes 1 (·.ownerAddress), encodeInt64 2 (·.frozenBalance), encodeInt64 3 (·.frozenDuration),
    encodeUint32 10 (·.resource), encodeFixedLengthBytes 15 (·.receiverAddress)]

def UnfreezeBalanceContract.layout : Layout UnfreezeBalanceContract :=
  [encodeFixedLengthBytes 1 (·.ownerAddress), encodeUint32 10 (·.resource),
    encodeFixedLengthBytes 15 (·.receiverAddress)]

def FreezeBalanceV2Contract.layout : Layout FreezeBalanceV2Contract :=
  [encodeFixedLengthBytes 1 (·.ownerAddress), encodeInt64 2 (·.frozenBalance), encodeUint32 3 (·.resource)]

def UnfreezeBalanceV2Contract.layout : Layout UnfreezeBalanceV2Contract :=
  [encodeFixedLengthBytes 1 (·.ownerAddress), encodeInt64 2 (·.unfreezeBalance), encodeUint32 3 (·.resource)]

/-- `WithdrawExpireUnfreezeContract` and `WithdrawBalanceContract` -/
def OwnerContract.layout : Layout OwnerContract := [encodeFixedLengthBytes 1 (·.ownerAddress)]

def DelegateResourceContract.layout : Layout DelegateResourceContract :=
  [encodeFixedLengthBytes 1 (·.ownerAddress), encodeUint32 2 (·.resource), encodeInt64 3 (·.balance),
    encodeFixedLengthBytes 4 (·.receiverAddress), encodeBool 5 (·.lock)]

def UnDelegateResourceContract.layout : Layout UnDelegateResourceContract :=
  [encodeFixedLengthBytes 1 (·.ownerAddress), encodeUint32 2 (·.resource), encodeInt64 3 (·.balance),
    encodeFixedLengthBytes 4 (·.receiverAddress)]

def ParametersEntry.layout : Layout ParametersEntry := [encodeInt64 1 (·.key), encodeInt64 2 (·.value)]

def ProposalCreateContract.layout : Layout ProposalCreateContract :=
  [encodeFixedLengthBytes 1 (·.ownerAddress), encodeRepeated 2 10 ParametersEntry.layout (·.parameters)]

def ProposalApproveContract.layout : Layout ProposalApproveContract :=
  [encodeFixedLengthBytes 1 (·.ownerAddress), encodeInt64 2 (·.proposalId), encodeBool 3 (·.isAddApproval)]

def ProposalDeleteContract.layout : Layout ProposalDeleteContract :=
  [encodeFixedLengthBytes 1 (·.ownerAddress), encodeInt64 2 (·.proposalId)]

/-- `AccountUpdateContract`, with the account name its callback writes -/
def AccountUpdateContract.layout : Layout (OwnerContract × Option Bytes) :=
  [encodeCallback 1 (·.2), encodeFixedLengthBytes 2 (·.1.ownerAddress)]

/-- `TriggerSmartContract`, with the call data its callback writes -/
def TriggerSmartContract.layout : Layout (TriggerSmartContract × Option Bytes) :=
  [encodeFixedLengthBytes 1 (·.1.ownerAddress), encodeFixedLengthBytes 2 (·.1.contractAddress),
    encodeInt64 3 (·.1.callValue), encodeCallback 4 (·.2), encodeInt64 5 (·.1.callTokenValue),
    encodeInt64 6 (·.1.tokenId)]

def ExchangeCreateContract.layout : Layout ExchangeCreateContract :=
  [encodeFixedLengthBytes 1 (·.ownerAddress), encodeBytes 2 (·.firstTokenId), encodeInt64 3 (·.firstTokenBalance),
    encodeBytes 4 (·.secondTokenId), encodeInt64 5 (·.secondTokenBalance)]

/-- `ExchangeInjectContract` and `ExchangeWithdrawContract` -/
def ExchangeInjectContract.layout : Layout ExchangeInjectContract :=
  [encodeFixedLengthBytes 1 (·.ownerAddress), encodeInt64 2 (·.exchangeId), encodeBytes 3 (·.tokenId),
    encodeInt64 4 (·.quant)]

def ExchangeTransactionContract.layout : Layout ExchangeTransactionContract :=
  [encodeFixedLengthBytes 1 (·.ownerAddress), encodeInt64 2 (·.exchangeId), encodeBytes 3 (·.tokenId),
    encodeInt64 4 (·.quant), encodeInt64 5 (·.expected)]

def Key.layout : Layout Key := [encodeFixedLengthBytes 1 (·.address), encodeInt64 2 (·.weight)]

/-- The callback of `permission_name` is not set. -/
def Permission.layout : Layout Permission :=
  [encodeUint32 1 (·.type), encodeInt32 2 (·.id), encodeCallback 3 fun _ => none, encodeInt64 4 (·.threshold),
    encodeInt32 5 (·.parentId), encodeFixedLengthBytes 6 (·.operations), encodeRepeated 7 3 Key.layout (·.keys)]

def AccountPermissionUpdateContract.layout : Layout AccountPermissionUpdateContract :=
  [encodeFixedLengthBytes 1 (·.ownerAddress), encodeOptional 2 (·.hasOwner) Permission.layout (·.owner),
    encodeOptional 3 (·.hasWitness) Permission.layout (·.witness),
    encodeRepeated 4 2 Permission.layout (·.actives)]

end Layouts

section Local

theorem vote_local : Vote.fields.Local := .table (by simp)

theorem voteWitnessContract_local : VoteWitnessContract.fields.Local := .table (by simp)

theorem withdrawExpireUnfreezeContract_local : WithdrawExpireUnfreezeContract.fields.Local := .table (by simp)

theorem withdrawBalanceContract_local : WithdrawBalanceContract.fields.Local := .table (by simp)

theorem parametersEntry_local : ParametersEntry.fields.Local := .table (by simp)

theorem proposalCreateContract_local : ProposalCreateContract.fields.Local := .table (by simp)

theorem proposalApproveContract_local : ProposalApproveContract.fields.Local := .table (by simp)

theorem proposalDeleteContract_local : ProposalDeleteContract.fields.Local := .table (by simp)

theorem accountUpdateContract_local : AccountUpdateContract.fields.Local := .table (by simp)

theorem key_local : Key.fields.Local := .table (by simp)

theorem permission_local : Permission.fields.Local := .table (by simp)

theorem accountPermissionUpdateContract_local : AccountPermissionUpdateContract.fields.Local := .table (by simp)

end Local

section Writing

variable {mem : Mem}

theorem transferContract_writes (m : TransferContract) :
    Writes TransferContract.fields mem 80 (pbEncode TransferContract.layout m) default m :=
  .mono (.cons (encodeFixedLengthBytes_writes rfl (by decide) (by decide)) <|
    .cons (encodeFixedLengthBytes_writes rfl (by decide) (by decide)) <|
    .cons (encodeInt64_writes rfl (by decide) rfl) <|
    .nil m) (by decide)

theorem transferAssetContract_writes (m : TransferAssetContract) (canonical : m.assetName.Canonical) :
    Writes TransferAssetContract.fields mem 107 (pbEncode TransferAssetContract.layout m) default m :=
  .mono (.cons (encodeBytes_writes rfl (by decide) (by decide) canonical (fun _ _ => rfl) rfl) <|
    .cons (encodeFixedLengthBytes_writes rfl (by decide) (by decide)) <|
    .cons (encodeFixedLengthBytes_writes rfl (by decide) (by decide)) <|
    .cons (encodeInt64_writes rfl (by decide) rfl) <|
    .nil m) (by decide)

theorem vote_writes (m : Vote) :
    Writes Vote.fields mem 48 (pbEncode Vote.layout m) default m :=
  .mono (.cons (encodeFixedLengthBytes_writes rfl (by decide) (by decide)) <|
    .cons (encodeInt64_writes rfl (by decide) rfl) <|
    .nil m) (by decide)

theorem voteWitnessContract_writes (m : VoteWitnessContract) (few : m.votes.length ≤ 5) :
    Writes VoteWitnessContract.fields mem 327 (pbEncode VoteWitnessContract.layout m) default m :=
  .mono (.cons (encodeFixedLengthBytes_writes rfl (by decide) (by decide)) <|
    .cons (encodeRepeated_writes rfl (by decide) vote_local (by decide) (fun vote _ => vote_writes vote) few
      (fun _ => rfl) (fun _ _ => rfl) rfl) <|
    .nil m) (by decide)

theorem freezeBalanceContract_writes (m : FreezeBalanceContract) :
    Writes FreezeBalanceContract.fields mem 112 (pbEncode FreezeBalanceContract.layout m) default m :=
  .mono (.cons (encodeFixedLengthBytes_writes rfl (by decide) (by decide)) <|
    .cons (encodeInt64_writes rfl (by decide) rfl) <|
    .cons (encodeInt64_writes rfl (by decide) rfl) <|
    .cons (encodeUint32_writes rfl (by decide) rfl) <|
    .cons (encodeFixedLengthBytes_writes rfl (by decide) (by decide)) <|
    .nil m) (by decide)

theorem unfreezeBalanceContract_writes (m : UnfreezeBalanceContract) :
    Writes UnfreezeBalanceContract.fields mem 80 (pbEncode UnfreezeBalanceContract.layout m) default m :=
  .mono (.cons (encodeFixedLengthBytes_writes rfl (by decide) (by decide)) <|
    .cons (encodeUint32_writes rfl (by decide) rfl) <|
    .cons (encodeFixedLengthBytes_writes rfl (by decide) (by decide)) <|
    .nil m) (by decide)

theorem freezeBalanceV2Contract_writes (m : FreezeBalanceV2Contract) :
    Writes FreezeBalanceV2Contract.fields mem 64 (pbEncode FreezeBalanceV2Contract.layout m) default m :=
  .mono (.cons (encodeFixedLengthBytes_writes rfl (by decide) (by decide)) <|
    .cons (encodeInt64_writes rfl (by decide) rfl) <|
    .cons (encodeUint32_writes rfl (by decide) rfl) <|
    .nil m) (by decide)

theorem unfreezeBalanceV2Contract_writes (m : UnfreezeBalanceV2Contract) :
    Writes UnfreezeBalanceV2Contract.fields mem 64 (pbEncode UnfreezeBalanceV2Contract.layout m) default m :=
  .mono (.cons (encodeFixedLengthBytes_writes rfl (by decide) (by decide)) <|
    .cons (encodeInt64_writes rfl (by decide) rfl) <|
    .cons (encodeUint32_writes rfl (by decide) rfl) <|
    .nil m) (by decide)

theorem withdrawExpireUnfreezeContract_writes (m : OwnerContract) :
    Writes WithdrawExpireUnfreezeContract.fields mem 32 (pbEncode OwnerContract.layout m) default m :=
  .mono (.cons (encodeFixedLengthBytes_writes rfl (by decide) (by decide)) <|
    .nil m) (by decide)

theorem withdrawBalanceContract_writes (m : OwnerContract) :
    Writes WithdrawBalanceContract.fields mem 32 (pbEncode OwnerContract.layout m) default m :=
  .mono (.cons (encodeFixedLengthBytes_writes rfl (by decide) (by decide)) <|
    .nil m) (by decide)

theorem delegateResourceContract_writes (m : DelegateResourceContract) :
    Writes DelegateResourceContract.fields mem 112 (pbEncode DelegateResourceContract.layout m) default m :=
  .mono (.cons (encodeFixedLengthBytes_writes rfl (by decide) (by decide)) <|
    .cons (encodeUint32_writes rfl (by decide) rfl) <|
    .cons (encodeInt64_writes rfl (by decide) rfl) <|
    .cons (encodeFixedLengthBytes_writes rfl (by decide) (by decide)) <|
    .cons (encodeBool_writes rfl (by decide) rfl) <|
    .nil m) (by decide)

theorem unDelegateResourceContract_writes (m : UnDelegateResourceContract) :
    Writes UnDelegateResourceContract.fields mem 96 (pbEncode UnDelegateResourceContract.layout m) default m :=
  .mono (.cons (encodeFixedLengthBytes_writes rfl (by decide) (by decide)) <|
    .cons (encodeUint32_writes rfl (by decide) rfl) <|
    .cons (encodeInt64_writes rfl (by decide) rfl) <|
    .cons (encodeFixedLengthBytes_writes rfl (by decide) (by decide)) <|
    .nil m) (by decide)

theorem parametersEntry_writes (m : ParametersEntry) :
    Writes ParametersEntry.fields mem 32 (pbEncode ParametersEntry.layout m) default m :=
  .mono (.cons (encodeInt64_writes rfl (by decide) rfl) <|
    .cons (encodeInt64_writes rfl (by decide) rfl) <|
    .nil m) (by decide)

theorem proposalCreateContract_writes (m : ProposalCreateContract) (few : m.parameters.length ≤ 10) :
    Writes ProposalCreateContract.fields mem 462 (pbEncode ProposalCreateContract.layout m) default m :=
  .mono (.cons (encodeFixedLengthBytes_writes rfl (by decide) (by decide)) <|
    .cons (encodeRepeated_writes rfl (by decide) parametersEntry_local (by decide) (fun entry _ => parametersEntry_writes entry) few
      (fun _ => rfl) (fun _ _ => rfl) rfl) <|
    .nil m) (by decide)

theorem proposalApproveContract_writes (m : ProposalApproveContract) :
    Writes ProposalApproveContract.fields mem 64 (pbEncode ProposalApproveContract.layout m) default m :=
  .mono (.cons (encodeFixedLengthBytes_writes rfl (by decide) (by decide)) <|
    .cons (encodeInt64_writes rfl (by decide) rfl) <|
    .cons (encodeBool_writes rfl (by decide) rfl) <|
    .nil m) (by decide)

theorem proposalDeleteContract_writes (m : ProposalDeleteContract) :
    Writes ProposalDeleteContract.fields mem 48 (pbEncode ProposalDeleteContract.layout m) default m :=
  .mono (.cons (encodeFixedLengthBytes_writes rfl (by decide) (by decide)) <|
    .cons (encodeInt64_writes rfl (by decide) rfl) <|
    .nil m) (by decide)

theorem exchangeCreateContract_writes (m : ExchangeCreateContract) (first : m.firstTokenId.Canonical)
    (second : m.secondTokenId.Canonical) :
    Writes ExchangeCreateContract.fields mem 102 (pbEncode ExchangeCreateContract.layout m) default m :=
  .mono (.cons (encodeFixedLengthBytes_writes rfl (by decide) (by decide)) <|
    .cons (encodeBytes_writes rfl (by decide) (by decide) first (fun _ _ => rfl) rfl) <|
    .cons (encodeInt64_writes rfl (by decide) rfl) <|
    .cons (encodeBytes_writes rfl (by decide) (by decide) second (fun _ _ => rfl) rfl) <|
    .cons (encodeInt64_writes rfl (by decide) rfl) <|
    .nil m) (by decide)

theorem exchangeInjectContract_writes (m : ExchangeInjectContract) (canonical : m.tokenId.Canonical) :
    Writes ExchangeInjectContract.fields mem 83 (pbEncode ExchangeInjectContract.layout m) default m :=
  .mono (.cons (encodeFixedLengthBytes_writes rfl (by decide) (by decide)) <|
    .cons (encodeInt64_writes rfl (by decide) rfl) <|
    .cons (encodeBytes_writes rfl (by decide) (by decide) canonical (fun _ _ => rfl) rfl) <|
    .cons (encodeInt64_writes rfl (by decide) rfl) <|
    .nil m) (by decide)

theorem exchangeTransactionContract_writes (m : ExchangeTransactionContract) (canonical : m.tokenId.Canonical) :
    Writes ExchangeTransactionContract.fields mem 99 (pbEncode ExchangeTransactionContract.layout m) default m :=
  .mono (.cons (encodeFixedLengthBytes_writes rfl (by decide) (by decide)) <|
    .cons (encodeInt64_writes rfl (by decide) rfl) <|
    .cons (encodeBytes_writes rfl (by decide) (by decide) canonical (fun _ _ => rfl) rfl) <|
    .cons (encodeInt64_writes rfl (by decide) rfl) <|
    .cons (encodeInt64_writes rfl (by decide) rfl) <|
    .nil m) (by decide)

theorem key_writes (m : Key) :
    Writes Key.fields mem 48 (pbEncode Key.layout m) default m :=
  .mono (.cons (encodeFixedLengthBytes_writes rfl (by decide) (by decide)) <|
    .cons (encodeInt64_writes rfl (by decide) rfl) <|
    .nil m) (by decide)

theorem permission_writes (m : Permission) (few : m.keys.length ≤ 3) :
    Writes Permission.fields mem 284 (pbEncode Permission.layout m) default m :=
  .mono (.cons (encodeUint32_writes rfl (by decide) rfl) <|
    .cons (encodeInt32_writes rfl (by decide) rfl) <|
    .cons encodeCallback_unset <|
    .cons (encodeInt64_writes rfl (by decide) rfl) <|
    .cons (encodeInt32_writes rfl (by decide) rfl) <|
    .cons (encodeFixedLengthBytes_writes rfl (by decide) (by decide)) <|
    .cons (encodeRepeated_writes rfl (by decide) key_local (by decide) (fun key _ => key_writes key) few
      (fun _ => rfl) (fun _ _ => rfl) rfl) <|
    .nil m) (by decide)

/-- A permission that is not marked is not there, and there is room for the keys of those that are. -/
structure AccountPermissionUpdateContract.Canonical (m : AccountPermissionUpdateContract) : Prop where
  owner : m.hasOwner = false → m.owner = default
  witness : m.hasWitness = false → m.witness = default
  actives : m.actives.length ≤ 2
  keys : ∀ permission ∈ m.owner :: m.witness :: m.actives, permission.keys.length ≤ 3

theorem accountPermissionUpdateContract_writes (m : AccountPermissionUpdateContract) (canonical : m.Canonical) :
    Writes AccountPermissionUpdateContract.fields mem 1212 (pbEncode AccountPermissionUpdateContract.layout m)
      default m := by
  have room {permission : Permission} (among : permission ∈ m.owner :: m.witness :: m.actives) :
      Writes Permission.fields mem 284 (pbEncode Permission.layout permission) default permission :=
    permission_writes permission (canonical.keys permission among)
  let owned : AccountPermissionUpdateContract :=
    { (default : AccountPermissionUpdateContract) with
      ownerAddress := m.ownerAddress, hasOwner := m.hasOwner, owner := m.owner }
  let witnessed := { owned with hasWitness := m.hasWitness, witness := m.witness }
  have owner : Writes AccountPermissionUpdateContract.fields mem 295
      (encodeOptional 2 (·.hasOwner) Permission.layout (·.owner) m)
      { (default : AccountPermissionUpdateContract) with ownerAddress := m.ownerAddress } owned :=
    encodeOptional_writes rfl (by decide) permission_local (by decide) (room (by simp))
      (fun absent => by simp only [owned, absent, canonical.owner absent]; rfl)
      (fun present => by simp only [owned, present])
  have witness : Writes AccountPermissionUpdateContract.fields mem 295
      (encodeOptional 3 (·.hasWitness) Permission.layout (·.witness) m) owned witnessed :=
    encodeOptional_writes rfl (by decide) permission_local (by decide) (room (by simp))
      (fun absent => by simp only [witnessed, absent, canonical.witness absent]; rfl)
      (fun present => by simp only [witnessed, present])
  exact .mono (.cons (encodeFixedLengthBytes_writes rfl (by decide) (by decide)) <|
    .cons owner <|
    .cons witness <|
    .cons (encodeRepeated_writes rfl (by decide) permission_local (by decide)
      (fun permission among => room (by simp [among])) canonical.actives (fun _ => rfl) (fun _ _ => rfl) rfl) <|
    .nil m) (by decide)

theorem accountUpdateContract_writes (m : OwnerContract) (name : Option Bytes)
    (short : ∀ bs, name = some bs → bs.length ≤ 1024) :
    Writes AccountUpdateContract.fields mem 1067 (pbEncode AccountUpdateContract.layout (m, name)) default m := by
  have named : Writes AccountUpdateContract.fields mem 1035 (encodeCallback 1 (·.2) (m, name)) default default :=
    encodeCallback_writes rfl (by decide) (by decide) short (fun _ => rfl)
      (fun bs _ => by simp [callbackLoop])
  exact .mono (.cons named <| .cons (encodeFixedLengthBytes_writes rfl (by decide) (by decide)) <| .nil m) (by decide)

/-- What the data callback accepts: a selector, and words behind it; two words behind that of a token call. -/
def CallDataFits (data : Bytes) : Prop :=
  4 ≤ data.length ∧
    (if selectorMethod (dataSelector data) = 0 then (data.length - 4) % 32 = 0 else data.length = 68)

/-- What the data callback leaves in `content`. -/
def withCallData (data : Option Bytes) (content : TxContent) : TxContent :=
  match data with
  | none => content
  | some data => (pbDecodeTriggerSmartContractData ⟨.caller, data⟩ content).2

instance (data : Bytes) : Decidable (CallDataFits data) := inferInstanceAs (Decidable (_ ∧ _))

theorem pbDecodeTriggerSmartContractData_fits {data : Bytes} (fits : CallDataFits data) (content : TxContent) :
    pbDecodeTriggerSmartContractData ⟨.caller, data⟩ content =
      (some ⟨.caller, []⟩, withCallData (some data) content) := by
  obtain ⟨enough, words⟩ := fits
  have taken : pbRead 4 data = some (data.take 4, data.drop 4) := by
    simp [pbRead, Nat.not_lt.mpr enough]
  simp only [withCallData, pbDecodeTriggerSmartContractData, taken, method_eq enough, List.length_drop]
  by_cases other : selectorMethod (dataSelector data) = 0
  · rw [if_pos other] at words
    simp [other, words]
  · rw [if_neg other] at words
    simp [other, words]

theorem pbDecodeTriggerSmartContractData_unfit {data : Bytes} (unfit : ¬CallDataFits data) (content : TxContent) :
    pbDecodeTriggerSmartContractData ⟨.caller, data⟩ content = (none, withCallData (some data) content) := by
  cases decoded : pbDecodeTriggerSmartContractData ⟨.caller, data⟩ content with
  | mk rest after =>
    cases rest with
    | none => simp [withCallData, decoded]
    | some rest =>
      have read := (pbDecodeTriggerSmartContractData_read decoded).2
      refine absurd ⟨read.enough, ?_⟩ unfit
      split
      · rename_i other
        exact read.words other
      · rename_i token
        exact read.length token

theorem triggerSmartContract_writes (m : TriggerSmartContract) (data : Option Bytes) (content : TxContent)
    (fits : ∀ bs, data = some bs → CallDataFits bs) (short : ∀ bs, data = some bs → bs.length ≤ 1024) :
    Writes callFields .caller 1147 (pbEncode TriggerSmartContract.layout (m, data)) (default, content)
      (m, withCallData data content) := by
  let called : TriggerSmartContract :=
    { (default : TriggerSmartContract) with
      ownerAddress := m.ownerAddress, contractAddress := m.contractAddress, callValue := m.callValue }
  have dataWrites : Writes callFields .caller 1035 (encodeCallback 4 (·.2) (m, data)) (called, content)
      (called, withCallData data content) := by
    refine encodeCallback_writes rfl (by decide) (by decide) short (fun absent => ?_) fun bs given => ?_
    · cases absent
      rfl
    · cases given
      simp [callbackLoop, pbDecodeTriggerSmartContractData_fits (fits bs rfl) content]
  exact .mono (.cons (encodeFixedLengthBytes_writes rfl (by decide) (by decide)) <|
    .cons (encodeFixedLengthBytes_writes rfl (by decide) (by decide)) <|
    .cons (encodeInt64_writes rfl (by decide) rfl) <|
    .cons dataWrites <|
    .cons (encodeInt64_writes rfl (by decide) rfl) <|
    .cons (encodeInt64_writes rfl (by decide) rfl) <|
    .nil (m, withCallData data content)) (by decide)

/-- Call data the callback does not take. -/
theorem triggerSmartContract_refuses (m : TriggerSmartContract) {data : Bytes} (content : TxContent)
    (unfit : ¬CallDataFits data) (short : data.length ≤ 1024) :
    ∃ called, Refuses callFields .caller 1147 (pbEncode TriggerSmartContract.layout (m, some data)) (default, content)
      (called, withCallData (some data) content) := by
  let called : TriggerSmartContract :=
    { (default : TriggerSmartContract) with
      ownerAddress := m.ownerAddress, contractAddress := m.contractAddress, callValue := m.callValue }
  have dataRefuses : Refuses callFields .caller (data.length + 11) (encodeCallback 4 (·.2) (m, some data))
      (called, content) (called, withCallData (some data) content) :=
    encodeCallback_refuses rfl (by decide) rfl (by omega)
      (by simp [callbackLoop, pbDecodeTriggerSmartContractData_unfit unfit content])
  have rest : Writes callFields .caller 32 (pbEncode (TriggerSmartContract.layout.drop 4) (m, some data))
      (called, content) (m, content) :=
    .mono (.cons (encodeInt64_writes rfl (by decide) rfl) <| .cons (encodeInt64_writes rfl (by decide) rfl) <|
      .nil (m, content)) (by decide)
  exact ⟨called, .mono (.cons (encodeFixedLengthBytes_writes rfl (by decide) (by decide)) <|
    .cons (encodeFixedLengthBytes_writes rfl (by decide) (by decide)) <|
    .cons (encodeInt64_writes rfl (by decide) rfl) <|
    .head dataRefuses rest) (by omega)⟩

end Writing

end TronLedger
