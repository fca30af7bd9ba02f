import TronLedger.Nanopb.Decode

/-!
# Protobuf messages

The structures and field tables nanopb generates for the messages the app decodes
(`core/Tron.pb.h`, `core/Contract.pb.h`, `misc/TronApp.pb.h`, `google/protobuf/any.pb.h`).
Fields the options file ignores are not in the tables, so they are skipped.

`tokenIdMemory` and its siblings give the memory from a token id to the end of its
structure: `printTokenFromID` reads a C string from there without regard to the size.
-/

namespace TronLedger

open Nanopb

abbrev Address := Buf 21

/-- The memory of a little-endian integer of `n` bytes. -/
def leBytes : Nat → Nat → Bytes
  | 0, _ => []
  | n + 1, value => UInt8.ofNat value :: leBytes n (value / 256)

structure TransferContract where
  ownerAddress : Address
  toAddress : Address
  amount : Int64
  deriving DecidableEq, Inhabited

def TransferContract.fields : Descriptor TransferContract := .table
  [(1, fixedLengthBytes 21 fun v m => { m with ownerAddress := v }),
   (2, fixedLengthBytes 21 fun v m => { m with toAddress := v }),
   (3, int64 fun v m => { m with amount := v })]

structure TransferAssetContract where
  assetName : PbBytes 16
  ownerAddress : Address
  toAddress : Address
  amount : Int64
  deriving DecidableEq, Inhabited

def TransferAssetContract.fields : Descriptor TransferAssetContract := .table
  [(1, bytes 16 fun f m => { m with assetName := f m.assetName }),
   (2, fixedLengthBytes 21 fun v m => { m with ownerAddress := v }),
   (3, fixedLengthBytes 21 fun v m => { m with toAddress := v }),
   (4, int64 fun v m => { m with amount := v })]

/-- The memory from `asset_name.bytes` on: the addresses follow directly. -/
def TransferAssetContract.assetNameMemory (m : TransferAssetContract) : Bytes :=
  m.assetName.bytes.bytes ++ m.ownerAddress.bytes ++ m.toAddress.bytes ++ [0, 0, 0, 0] ++
    leBytes 8 m.amount.toUInt64.toNat ++ [0]

structure Vote where
  voteAddress : Address
  voteCount : Int64
  deriving DecidableEq, Inhabited

def Vote.fields : Descriptor Vote := .table
  [(1, fixedLengthBytes 21 fun v m => { m with voteAddress := v }),
   (2, int64 fun v m => { m with voteCount := v })]

structure VoteWitnessContract where
  ownerAddress : Address
  votes : List Vote
  deriving DecidableEq, Inhabited

def VoteWitnessContract.fields : Descriptor VoteWitnessContract := .table
  [(1, fixedLengthBytes 21 fun v m => { m with ownerAddress := v }),
   (2, repeated 5 (·.votes) (fun vs m => { m with votes := vs }) Vote.fields)]

structure FreezeBalanceContract where
  ownerAddress : Address
  frozenBalance : Int64
  frozenDuration : Int64
  resource : UInt32
  receiverAddress : Address
  deriving DecidableEq, Inhabited

def FreezeBalanceContract.fields : Descriptor FreezeBalanceContract := .table
  [(1, fixedLengthBytes 21 fun v m => { m with ownerAddress := v }),
   (2, int64 fun v m => { m with frozenBalance := v }),
   (3, int64 fun v m => { m with frozenDuration := v }),
   (10, uint32 fun v m => { m with resource := v }),
   (15, fixedLengthBytes 21 fun v m => { m with receiverAddress := v })]

structure UnfreezeBalanceContract where
  ownerAddress : Address
  resource : UInt32
  receiverAddress : Address
  deriving DecidableEq, Inhabited

def UnfreezeBalanceContract.fields : Descriptor UnfreezeBalanceContract := .table
  [(1, fixedLengthBytes 21 fun v m => { m with ownerAddress := v }),
   (10, uint32 fun v m => { m with resource := v }),
   (15, fixedLengthBytes 21 fun v m => { m with receiverAddress := v })]

structure FreezeBalanceV2Contract where
  ownerAddress : Address
  frozenBalance : Int64
  resource : UInt32
  deriving DecidableEq, Inhabited

def FreezeBalanceV2Contract.fields : Descriptor FreezeBalanceV2Contract := .table
  [(1, fixedLengthBytes 21 fun v m => { m with ownerAddress := v }),
   (2, int64 fun v m => { m with frozenBalance := v }),
   (3, uint32 fun v m => { m with resource := v })]

structure UnfreezeBalanceV2Contract where
  ownerAddress : Address
  unfreezeBalance : Int64
  resource : UInt32
  deriving DecidableEq, Inhabited

def UnfreezeBalanceV2Contract.fields : Descriptor UnfreezeBalanceV2Contract := .table
  [(1, fixedLengthBytes 21 fun v m => { m with ownerAddress := v }),
   (2, int64 fun v m => { m with unfreezeBalance := v }),
   (3, uint32 fun v m => { m with resource := v })]

/-- A contract that only names its owner: `WithdrawExpireUnfreezeContract` and
`WithdrawBalanceContract`. -/
structure OwnerContract where
  ownerAddress : Address
  deriving DecidableEq, Inhabited

def WithdrawExpireUnfreezeContract.fields : Descriptor OwnerContract := .table
  [(1, fixedLengthBytes 21 fun v m => { m with ownerAddress := v })]

def WithdrawBalanceContract.fields : Descriptor OwnerContract := .table
  [(1, fixedLengthBytes 21 fun v m => { m with ownerAddress := v })]

structure DelegateResourceContract where
  ownerAddress : Address
  resource : UInt32
  balance : Int64
  receiverAddress : Address
  lock : Bool
  deriving DecidableEq, Inhabited

def DelegateResourceContract.fields : Descriptor DelegateResourceContract := .table
  [(1, fixedLengthBytes 21 fun v m => { m with ownerAddress := v }),
   (2, uint32 fun v m => { m with resource := v }),
   (3, int64 fun v m => { m with balance := v }),
   (4, fixedLengthBytes 21 fun v m => { m with receiverAddress := v }),
   (5, bool fun v m => { m with lock := v })]

structure UnDelegateResourceContract where
  ownerAddress : Address
  resource : UInt32
  balance : Int64
  receiverAddress : Address
  deriving DecidableEq, Inhabited

def UnDelegateResourceContract.fields : Descriptor UnDelegateResourceContract := .table
  [(1, fixedLengthBytes 21 fun v m => { m with ownerAddress := v }),
   (2, uint32 fun v m => { m with resource := v }),
   (3, int64 fun v m => { m with balance := v }),
   (4, fixedLengthBytes 21 fun v m => { m with receiverAddress := v })]

structure ParametersEntry where
  key : Int64
  value : Int64
  deriving DecidableEq, Inhabited

def ParametersEntry.fields : Descriptor ParametersEntry := .table
  [(1, int64 fun v m => { m with key := v }),
   (2, int64 fun v m => { m with value := v })]

structure ProposalCreateContract where
  ownerAddress : Address
  parameters : List ParametersEntry
  deriving DecidableEq, Inhabited

def ProposalCreateContract.fields : Descriptor ProposalCreateContract := .table
  [(1, fixedLengthBytes 21 fun v m => { m with ownerAddress := v }),
   (2, repeated 10 (·.parameters) (fun ps m => { m with parameters := ps })
      ParametersEntry.fields)]

structure ProposalApproveContract where
  ownerAddress : Address
  proposalId : Int64
  isAddApproval : Bool
  deriving DecidableEq, Inhabited

def ProposalApproveContract.fields : Descriptor ProposalApproveContract := .table
  [(1, fixedLengthBytes 21 fun v m => { m with ownerAddress := v }),
   (2, int64 fun v m => { m with proposalId := v }),
   (3, bool fun v m => { m with isAddApproval := v })]

structure ProposalDeleteContract where
  ownerAddress : Address
  proposalId : Int64
  deriving DecidableEq, Inhabited

def ProposalDeleteContract.fields : Descriptor ProposalDeleteContract := .table
  [(1, fixedLengthBytes 21 fun v m => { m with ownerAddress := v }),
   (2, int64 fun v m => { m with proposalId := v })]

/-- `account_name` is a callback field nobody reads. -/
def AccountUpdateContract.fields : Descriptor OwnerContract := .table
  [(1, unusedCallback),
   (2, fixedLengthBytes 21 fun v m => { m with ownerAddress := v })]

structure TriggerSmartContract where
  ownerAddress : Address
  contractAddress : Address
  callValue : Int64
  callTokenValue : Int64
  tokenId : Int64
  deriving DecidableEq, Inhabited

/-- The `data` field goes to a callback whose argument is `arg`. -/
def TriggerSmartContract.fields {arg : Type} (data : Callback arg) :
    Descriptor (TriggerSmartContract × arg) := .table
  [(1, fixedLengthBytes 21 fun v (m, a) => ({ m with ownerAddress := v }, a)),
   (2, fixedLengthBytes 21 fun v (m, a) => ({ m with contractAddress := v }, a)),
   (3, int64 fun v (m, a) => ({ m with callValue := v }, a)),
   (4, callback fun stream (m, a) =>
      match data stream a with
      | (rest, a) => (rest, (m, a))),
   (5, int64 fun v (m, a) => ({ m with callTokenValue := v }, a)),
   (6, int64 fun v (m, a) => ({ m with tokenId := v }, a))]

structure ExchangeCreateContract where
  ownerAddress : Address
  firstTokenId : PbBytes 8
  firstTokenBalance : Int64
  secondTokenId : PbBytes 8
  secondTokenBalance : Int64
  deriving DecidableEq, Inhabited

def ExchangeCreateContract.fields : Descriptor ExchangeCreateContract := .table
  [(1, fixedLengthBytes 21 fun v m => { m with ownerAddress := v }),
   (2, bytes 8 fun f m => { m with firstTokenId := f m.firstTokenId }),
   (3, int64 fun v m => { m with firstTokenBalance := v }),
   (4, bytes 8 fun f m => { m with secondTokenId := f m.secondTokenId }),
   (5, int64 fun v m => { m with secondTokenBalance := v })]

/-- From `second_token_id.bytes` on: padding follows. -/
def ExchangeCreateContract.secondTokenIdMemory (m : ExchangeCreateContract) : Bytes :=
  m.secondTokenId.bytes.bytes ++ [0]

/-- From `first_token_id.bytes` on: the first balance and the second token id follow. -/
def ExchangeCreateContract.firstTokenIdMemory (m : ExchangeCreateContract) : Bytes :=
  m.firstTokenId.bytes.bytes ++ leBytes 8 m.firstTokenBalance.toUInt64.toNat ++
    leBytes 2 m.secondTokenId.size ++ m.secondTokenIdMemory

/-- `ExchangeInjectContract` and `ExchangeWithdrawContract` -/
structure ExchangeInjectContract where
  ownerAddress : Address
  exchangeId : Int64
  tokenId : PbBytes 8
  quant : Int64
  deriving DecidableEq, Inhabited

def ExchangeInjectContract.fields : Descriptor ExchangeInjectContract := .table
  [(1, fixedLengthBytes 21 fun v m => { m with ownerAddress := v }),
   (2, int64 fun v m => { m with exchangeId := v }),
   (3, bytes 8 fun f m => { m with tokenId := f m.tokenId }),
   (4, int64 fun v m => { m with quant := v })]

def ExchangeWithdrawContract.fields : Descriptor ExchangeInjectContract :=
  ExchangeInjectContract.fields

/-- From `token_id.bytes` on: padding follows. -/
def ExchangeInjectContract.tokenIdMemory (m : ExchangeInjectContract) : Bytes :=
  m.tokenId.bytes.bytes ++ [0]

structure ExchangeTransactionContract where
  ownerAddress : Address
  exchangeId : Int64
  tokenId : PbBytes 8
  quant : Int64
  expected : Int64
  deriving DecidableEq, Inhabited

def ExchangeTransactionContract.fields : Descriptor ExchangeTransactionContract := .table
  [(1, fixedLengthBytes 21 fun v m => { m with ownerAddress := v }),
   (2, int64 fun v m => { m with exchangeId := v }),
   (3, bytes 8 fun f m => { m with tokenId := f m.tokenId }),
   (4, int64 fun v m => { m with quant := v }),
   (5, int64 fun v m => { m with expected := v })]

def ExchangeTransactionContract.tokenIdMemory (m : ExchangeTransactionContract) : Bytes :=
  m.tokenId.bytes.bytes ++ [0]

structure Key where
  address : Address
  weight : Int64
  deriving DecidableEq, Inhabited

def Key.fields : Descriptor Key := .table
  [(1, fixedLengthBytes 21 fun v m => { m with address := v }),
   (2, int64 fun v m => { m with weight := v })]

structure Permission where
  type : UInt32
  id : Int32
  threshold : Int64
  parentId : Int32
  operations : Buf 32
  keys : List Key
  deriving DecidableEq, Inhabited

def Permission.fields : Descriptor Permission := .table
  [(1, uint32 fun v m => { m with type := v }),
   (2, int32 fun v m => { m with id := v }),
   (3, unusedCallback),
   (4, int64 fun v m => { m with threshold := v }),
   (5, int32 fun v m => { m with parentId := v }),
   (6, fixedLengthBytes 32 fun v m => { m with operations := v }),
   (7, repeated 3 (·.keys) (fun ks m => { m with keys := ks }) Key.fields)]

structure AccountPermissionUpdateContract where
  ownerAddress : Address
  hasOwner : Bool
  owner : Permission
  hasWitness : Bool
  witness : Permission
  actives : List Permission
  deriving DecidableEq, Inhabited

def AccountPermissionUpdateContract.fields : Descriptor AccountPermissionUpdateContract := .table
  [(1, fixedLengthBytes 21 fun v m => { m with ownerAddress := v }),
   (2, optional (fun m => { m with hasOwner := true }) Permission.fields (·.owner)
      (fun v m => { m with owner := v })),
   (3, optional (fun m => { m with hasWitness := true }) Permission.fields (·.witness)
      (fun v m => { m with witness := v })),
   (4, repeated 2 (·.actives) (fun vs m => { m with actives := vs }) Permission.fields)]

/-- `google_protobuf_Any` with a callback on its `value`; the message itself holds nothing. -/
def Any.fields {arg : Type} (value : Callback arg) : Descriptor arg := .table
  [(1, unusedCallback),
   (2, callback value)]

/-- `protocol_Transaction_Contract`, without the callback fields nobody reads -/
structure TransactionContract where
  type : UInt32
  hasParameter : Bool
  permissionId : Int32
  deriving DecidableEq, Inhabited

def TransactionContract.fields {arg : Type} (value : Callback arg) :
    Descriptor (TransactionContract × arg) := .table
  [(1, uint32 fun v (m, a) => ({ m with type := v }, a)),
   (2, optional (fun (m, a) => ({ m with hasParameter := true }, a)) (Any.fields value)
      (·.2) (fun a (m, _) => (m, a))),
   (3, unusedCallback),
   (4, unusedCallback),
   (5, int32 fun v (m, a) => ({ m with permissionId := v }, a))]

structure ExchangeDetails where
  exchangeId : UInt64
  token1Id : Buf 8
  token1Name : Buf 32
  token1Precision : UInt32
  token2Id : Buf 8
  token2Name : Buf 32
  token2Precision : UInt32
  signature : PbBytes 72
  deriving DecidableEq, Inhabited

def ExchangeDetails.fields : Descriptor ExchangeDetails := .table
  [(1, uint64 fun v m => { m with exchangeId := v }),
   (2, string 8 fun f m => { m with token1Id := f m.token1Id }),
   (3, string 32 fun f m => { m with token1Name := f m.token1Name }),
   (4, uint32 fun v m => { m with token1Precision := v }),
   (5, string 8 fun f m => { m with token2Id := f m.token2Id }),
   (6, string 32 fun f m => { m with token2Name := f m.token2Name }),
   (7, uint32 fun v m => { m with token2Precision := v }),
   (8, bytes 72 fun f m => { m with signature := f m.signature })]

structure TokenDetails where
  name : Buf 32
  precision : UInt32
  signature : PbBytes 72
  deriving DecidableEq, Inhabited

def TokenDetails.fields : Descriptor TokenDetails := .table
  [(1, string 32 fun f m => { m with name := f m.name }),
   (2, uint32 fun v m => { m with precision := v }),
   (3, bytes 72 fun f m => { m with signature := f m.signature })]

end TronLedger
