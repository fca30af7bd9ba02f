import TronLedger.Sdk
import TronLedger.Tokens
import TronLedger.Amount

/-!
# Transaction parsing

`parse.c` and the signature checks of `tokens.c`: what a chunk of a transaction and what a
metadata APDU do to `txContent`.

* `processTx` decodes one chunk; the contract it carries goes to the reader of its type.
* `parseTokenName` and `parseExchange` apply signed token metadata.
* A function that can return false still returns `txContent` as it left it.
-/

namespace TronLedger

open Nanopb

/-- `contractType_e`; a code without an enumerator stays a number. -/
inductive ContractType
  | accountCreate | transfer | transferAsset | voteAsset | voteWitness | witnessCreate
  | assetIssue | witnessUpdate | participateAssetIssue | accountUpdate | freezeBalance
  | unfreezeBalance | withdrawBalance | unfreezeAsset | updateAsset | proposalCreate
  | proposalApprove | proposalDelete | setAccountId | custom | createSmart | triggerSmart
  | exchangeCreate | exchangeInject | exchangeWithdraw | exchangeTransaction
  | updateEnergyLimit | accountPermissionUpdate | freezeBalanceV2 | unfreezeBalanceV2
  | withdrawExpireUnfreeze | delegateResource | undelegateResource
  | unknownContract | invalidContract
  | other (code : UInt32)
  deriving DecidableEq, Repr

def ContractType.ofCode (code : UInt32) : ContractType :=
  match code.toNat with
  | 0 => .accountCreate | 1 => .transfer | 2 => .transferAsset | 3 => .voteAsset
  | 4 => .voteWitness | 5 => .witnessCreate | 6 => .assetIssue | 8 => .witnessUpdate
  | 9 => .participateAssetIssue | 10 => .accountUpdate | 11 => .freezeBalance
  | 12 => .unfreezeBalance | 13 => .withdrawBalance | 14 => .unfreezeAsset
  | 15 => .updateAsset | 16 => .proposalCreate | 17 => .proposalApprove
  | 18 => .proposalDelete | 19 => .setAccountId | 20 => .custom | 30 => .createSmart
  | 31 => .triggerSmart | 41 => .exchangeCreate | 42 => .exchangeInject
  | 43 => .exchangeWithdraw | 44 => .exchangeTransaction | 45 => .updateEnergyLimit
  | 46 => .accountPermissionUpdate | 54 => .freezeBalanceV2 | 55 => .unfreezeBalanceV2
  | 56 => .withdrawExpireUnfreeze | 57 => .delegateResource | 58 => .undelegateResource
  | 254 => .unknownContract | 255 => .invalidContract
  | _ => .other code

/-- Both indices of a pair are numerals. -/
instance neZeroTwo : @NeZero Nat Zero.ofOfNat0 2 := Nat.instNeZeroSucc

/-- A two-element array. -/
structure Pair (α : Type) where
  first : α
  second : α
  deriving DecidableEq, Inhabited

namespace Pair

variable {α : Type}

def get (p : Pair α) : Fin 2 → α
  | 0 => p.first
  | 1 => p.second

def set (p : Pair α) : Fin 2 → α → Pair α
  | 0, v => { p with first := v }
  | 1, v => { p with second := v }

@[simp] theorem get_set (p : Pair α) (i : Fin 2) (v : α) : (p.set i v).get i = v := by
  match i with
  | 0 => rfl
  | 1 => rfl

theorem get_set_ne (p : Pair α) {i j : Fin 2} (other : j ≠ i) (v : α) : (p.set i v).get j = p.get j := by
  match i, j with
  | 0, 0 => exact absurd rfl other
  | 0, 1 => rfl
  | 1, 0 => rfl
  | 1, 1 => exact absurd rfl other

end Pair

structure VoteEntry where
  address : Address
  count : Int64
  deriving DecidableEq

/-- The first `votesCount` entries of `votes[MAX_VOTES]`. -/
structure VoteList where
  entries : List VoteEntry
  bounded : entries.length ≤ 5
  deriving DecidableEq

def VoteList.empty : VoteList := ⟨[], by simp⟩

/-- `txContent_t` -/
structure TxContent where
  amount : Pair UInt64
  exchangeID : UInt64
  account : Address
  destination : Address
  contractAddress : Address
  trc20Amount : Buf 32
  decimals : Pair UInt8
  tokenNames : Pair (Buf 67)
  tokenNamesLength : Pair UInt8
  tokenIsTrx : Pair Bool
  resource : UInt8
  trc20Method : UInt8
  customSelector : UInt32
  callTokenValue : Int64
  callTokenId : Int64
  contractType : ContractType
  dataBytes : UInt64
  feeLimit : UInt64
  permissionId : Int32
  customData : UInt32
  contractSeen : Bool
  feeLimitSeen : Bool
  votes : VoteList
  deriving DecidableEq

/-- `memset` to zero, then `INVALID_CONTRACT`: what both `initTx` and
`terminate_signing_session` leave. -/
def TxContent.empty : TxContent where
  amount := default
  exchangeID := 0
  account := default
  destination := default
  contractAddress := default
  trc20Amount := default
  decimals := default
  tokenNames := default
  tokenNamesLength := default
  tokenIsTrx := default
  resource := 0
  trc20Method := 0
  customSelector := 0
  callTokenValue := 0
  callTokenId := 0
  contractType := .invalidContract
  dataBytes := 0
  feeLimit := 0
  permissionId := 0
  customData := 0
  contractSeen := false
  feeLimitSeen := false
  votes := .empty

/-- The string in `tokenNames[i]`. -/
def TxContent.tokenName (content : TxContent) (i : Fin 2) : Bytes := (content.tokenNames.get i).str 0

section Metadata

variable {σ κ : Type} (sdk : Sdk σ κ)

def verifyTokenNameID (tokenId tokenName : Bytes) (decimals : UInt8) (signature : Bytes) : Bool :=
  if 65 < tokenId.length + tokenName.length + 2 then false
  else
    let hash := sdk.cxHashSha256 (tokenId ++ tokenName ++ [decimals])
    sdk.ecdsaVerify tokenPublicKey hash signature

def verifyExchangeID (exchangeValidation : Bytes) (signature : Bytes) : Bool :=
  sdk.ecdsaVerify tokenPublicKey (sdk.cxHashSha256 exchangeValidation) signature

/-- `"%s[%s]"` -/
def tokenLabel (name id : Bytes) : Bytes := name ++ ascii "[" ++ id ++ ascii "]"

/-- Write the label of a token into slot `i`, with its length and precision. -/
def TxContent.setToken (content : TxContent) (i : Fin 2) (label : Bytes) (precision : UInt8) :
    TxContent :=
  let name := (content.tokenNames.get i).strlcpy 0 label 67
  { content with
    tokenNames := content.tokenNames.set i name
    tokenNamesLength := content.tokenNamesLength.set i (UInt8.ofNat (name.str 0).length)
    decimals := content.decimals.set i precision }

def parseTokenName (tokenId : Fin 2) (data : Bytes) (content : TxContent) : Bool × TxContent :=
  match pbDecode TokenDetails.fields (pbIstreamFromBuffer data) default with
  | (none, _) => (false, content)
  | (some _, details) =>
    let id := content.tokenName tokenId
    let name := details.name.str 0
    if !verifyTokenNameID sdk id name details.precision.toUInt8 details.signature.content then
      (false, content)
    else if 18 < details.precision then (false, content)
    else (true, content.setToken tokenId (tokenLabel name id) details.precision.toUInt8)

/-- `set_token_info` -/
def setTokenInfo (content : TxContent) (tokenIndex : Fin 2) (name id : Bytes) (precision : Int32) :
    Bool × TxContent :=
  if precision < 0 ∨ 18 < precision then (false, content)
  else (true, content.setToken tokenIndex (tokenLabel name id) precision.toUInt32.toUInt8)

/-- The message whose signature `parseExchange` checks, before it is cut to its buffer. -/
def exchangeMessage (details : ExchangeDetails) : Bytes :=
  signedDecimal details.exchangeId.toInt64.toInt32.toInt ++
    details.token1Id.str 0 ++ details.token1Name.str 0 ++ [details.token1Precision.toUInt8] ++
    details.token2Id.str 0 ++ details.token2Name.str 0 ++ [details.token2Precision.toUInt8]

/-- `msg_size`: the lengths of the parts, summed before the text is built. -/
def exchangeMessageSize (details : ExchangeDetails) : Nat :=
  (signedDecimal details.exchangeId.toInt64.toInt32.toInt).length +
    ((details.token1Id.str 0).length + (details.token1Name.str 0).length + 1) +
    ((details.token2Id.str 0).length + (details.token2Name.str 0).length + 1)

def parseExchange (data : Bytes) (content : TxContent) : Bool × TxContent :=
  match pbDecode ExchangeDetails.fields (pbIstreamFromBuffer data) default with
  | (none, _) => (false, content)
  | (some _, details) =>
    let id1 := details.token1Id.str 0
    let id2 := details.token2Id.str 0
    if content.exchangeID ≠ details.exchangeId then (false, content)
    else if id1.length ≠ 1 ∧ id1.length ≠ 7 then (false, content)
    else if id2.length ≠ 1 ∧ id2.length ≠ 7 then (false, content)
    else
      let buffer := (Buf.zero 90).strlcpy 0 (exchangeMessage details) 90
      let hashed := buffer.bytes.take (exchangeMessageSize details % 256)
      if !verifyExchangeID sdk hashed details.signature.content then (false, content)
      else
        let slots : Option (Fin 2 × Fin 2) :=
          if content.tokenName 0 = id1 then some (0, 1)
          else if content.tokenName 0 = id2 then some (1, 0)
          else none
        match slots with
        | none => (false, content)
        | some (firstToken, secondToken) =>
          match setTokenInfo content firstToken (details.token1Name.str 0) id1
              details.token1Precision.toInt32 with
          | (false, content) => (false, content)
          | (true, content) =>
            setTokenInfo content secondToken (details.token2Name.str 0) id2
              details.token2Precision.toInt32

end Metadata

section Contracts

/-- `printTokenFromID`; `data` is the memory from the token id on. -/
def printTokenFromID (content : TxContent) (tokenIndex : Fin 2) (data : Bytes) (size : Nat) :
    Bool × TxContent :=
  if size ≠ 7 ∧ size ≠ 1 then (false, content)
  else if size = 1 then
    if data.head? ≠ some 95 then (false, content)
    else
      (true, { content with
        tokenNames := content.tokenNames.set tokenIndex
          ((content.tokenNames.get tokenIndex).strlcpy 0 (ascii "TRX") 67)
        tokenIsTrx := content.tokenIsTrx.set tokenIndex true })
  else
    (true, { content with
      tokenNames := content.tokenNames.set tokenIndex
        ((content.tokenNames.get tokenIndex).strlcpy 0 (cstr data) 67)
      tokenIsTrx := content.tokenIsTrx.set tokenIndex false })

/-- `content->tokenNamesLength[i] = strlen(content->tokenNames[i])` -/
def TxContent.measureToken (content : TxContent) (i : Fin 2) : TxContent :=
  { content with
    tokenNamesLength := content.tokenNamesLength.set i (UInt8.ofNat (content.tokenName i).length) }

/-- A contract reader decodes the contract and copies what the review needs. -/
abbrev ContractReader := TxContent → Istream → Bool × TxContent

def readContract {m : Type} [Inhabited m] (fields : Descriptor m)
    (store : m → TxContent → Bool × TxContent) : ContractReader := fun content stream =>
  match pbDecode fields stream default with
  | (none, _) => (false, content)
  | (some _, msg) => store msg content

def transferContract : ContractReader :=
  readContract TransferContract.fields fun msg content =>
    (true, { content with
      amount := content.amount.set 0 msg.amount.toUInt64
      account := msg.ownerAddress
      destination := msg.toAddress
      tokenNamesLength := content.tokenNamesLength.set 0 4
      tokenNames := content.tokenNames.set 0 ((content.tokenNames.get 0).strcpy 0 (ascii "TRX"))
      tokenIsTrx := content.tokenIsTrx.set 0 true })

def transferAssetContract : ContractReader :=
  readContract TransferAssetContract.fields fun msg content =>
    let content := { content with amount := content.amount.set 0 msg.amount.toUInt64 }
    match printTokenFromID content 0 msg.assetNameMemory msg.assetName.size with
    | (false, content) => (false, content)
    | (true, content) =>
      (true, { content.measureToken 0 with
        account := msg.ownerAddress
        destination := msg.toAddress })

def voteWitnessContract : ContractReader :=
  readContract VoteWitnessContract.fields fun msg content =>
    if tooMany : 5 < msg.votes.length then (false, content)
    else
      let votes := msg.votes.map fun vote => VoteEntry.mk vote.voteAddress vote.voteCount
      (true, { content with
        account := msg.ownerAddress
        votes := ⟨votes, by simpa [votes] using tooMany⟩ })

def freezeBalanceContract : ContractReader :=
  readContract FreezeBalanceContract.fields fun msg content =>
    -- Tron only accepts 3 days freezing
    if msg.frozenDuration ≠ 3 then (false, content)
    else
      (true, { content with
        account := msg.ownerAddress
        destination := msg.receiverAddress
        amount := content.amount.set 0 msg.frozenBalance.toUInt64
        resource := msg.resource.toUInt8 })

def unfreezeBalanceContract : ContractReader :=
  readContract UnfreezeBalanceContract.fields fun msg content =>
    (true, { content with
      resource := msg.resource.toUInt8
      account := msg.ownerAddress
      destination := msg.receiverAddress })

def freezeBalanceV2Contract : ContractReader :=
  readContract FreezeBalanceV2Contract.fields fun msg content =>
    (true, { content with
      account := msg.ownerAddress
      destination := msg.ownerAddress
      amount := content.amount.set 0 msg.frozenBalance.toUInt64
      resource := msg.resource.toUInt8 })

def unfreezeBalanceV2Contract : ContractReader :=
  readContract UnfreezeBalanceV2Contract.fields fun msg content =>
    (true, { content with
      resource := msg.resource.toUInt8
      amount := content.amount.set 0 msg.unfreezeBalance.toUInt64
      account := msg.ownerAddress
      destination := msg.ownerAddress })

def withdrawExpireUnfreezeContract : ContractReader :=
  readContract WithdrawExpireUnfreezeContract.fields fun msg content =>
    (true, { content with account := msg.ownerAddress })

def delegateResourceContract : ContractReader :=
  readContract DelegateResourceContract.fields fun msg content =>
    (true, { content with
      resource := msg.resource.toUInt8
      amount := content.amount.set 0 msg.balance.toUInt64
      customData := if msg.lock then 1 else 0
      account := msg.ownerAddress
      destination := msg.receiverAddress })

def undelegateResourceContract : ContractReader :=
  readContract UnDelegateResourceContract.fields fun msg content =>
    (true, { content with
      resource := msg.resource.toUInt8
      amount := content.amount.set 0 msg.balance.toUInt64
      account := msg.ownerAddress
      destination := msg.receiverAddress })

def withdrawBalanceContract : ContractReader :=
  readContract WithdrawBalanceContract.fields fun msg content =>
    (true, { content with account := msg.ownerAddress })

def proposalCreateContract : ContractReader :=
  readContract ProposalCreateContract.fields fun msg content =>
    (true, { content with
      amount := content.amount.set 0 (UInt64.ofNat msg.parameters.length)
      account := msg.ownerAddress })

def proposalApproveContract : ContractReader :=
  readContract ProposalApproveContract.fields fun msg content =>
    (true, { content with account := msg.ownerAddress })

def proposalDeleteContract : ContractReader :=
  readContract ProposalDeleteContract.fields fun msg content =>
    (true, { content with
      exchangeID := msg.proposalId.toUInt64
      account := msg.ownerAddress })

def accountUpdateContract : ContractReader :=
  readContract AccountUpdateContract.fields fun msg content =>
    (true, { content with account := msg.ownerAddress })

/-- `pb_decode_trigger_smart_contract_data` -/
def pbDecodeTriggerSmartContractData : Callback TxContent := fun stream content =>
  match pbRead 4 stream.data with
  | none => (none, content)
  | some (selector, rest) =>
    let content := { content with customSelector := UInt32.ofNat (beNat selector) }
    let method : UInt8 :=
      if some selector = selectors[0]? then 1 else if some selector = selectors[1]? then 2 else 0
    let content := if method = 0 then content else { content with trc20Method := method }
    if method = 0 then
      -- arbitrary contracts
      if rest.length % 32 ≠ 0 then (none, content)
      else (some ⟨stream.mem, []⟩, { content with trc20Method := 0 })
    else if rest.length ≠ 32 + 32 then (none, content)
    else
      -- the last 21 bytes of the word, their first one replaced by the mainnet prefix
      let destination := Buf.ofBytes 21 (0x41 :: (rest.take 32).drop 12)
      (some ⟨stream.mem, []⟩, { content with
        destination := destination
        trc20Amount := Buf.ofBytes 32 (rest.drop 32) })

def triggerSmartContract : ContractReader := fun content stream =>
  match pbDecode (TriggerSmartContract.fields pbDecodeTriggerSmartContractData) stream
      (default, content) with
  | (none, (_, content)) => (false, content)
  | (some _, (msg, content)) =>
    let content := { content with
      account := msg.ownerAddress
      contractAddress := msg.contractAddress
      amount := content.amount.set 0 msg.callValue.toUInt64
      callTokenValue := msg.callTokenValue
      callTokenId := msg.tokenId }
    match getKnownToken content.contractAddress with
    | none =>
      -- treat unknown TRC20 token as arbitrary contract
      (true, { content with trc20Method := 0 })
    | some trc20 =>
      (true, { content with
        decimals := content.decimals.set 0 trc20.decimals
        tokenNamesLength := content.tokenNamesLength.set 0 (UInt8.ofNat (trc20.ticker.length + 1))
        tokenNames := content.tokenNames.set 0
          ((content.tokenNames.get 0).strcpy 0 trc20.ticker) })

def exchangeCreateContract : ContractReader :=
  readContract ExchangeCreateContract.fields fun msg content =>
    let content := { content with account := msg.ownerAddress }
    match printTokenFromID content 0 msg.firstTokenIdMemory msg.firstTokenId.size with
    | (false, content) => (false, content)
    | (true, content) =>
      match printTokenFromID (content.measureToken 0) 1 msg.secondTokenIdMemory
          msg.secondTokenId.size with
      | (false, content) => (false, content)
      | (true, content) =>
        (true, { content.measureToken 1 with
          amount := ⟨msg.firstTokenBalance.toUInt64, msg.secondTokenBalance.toUInt64⟩ })

/-- `exchange_inject_contract` and `exchange_withdraw_contract` -/
def storeExchange (msg : ExchangeInjectContract) (content : TxContent) : Bool × TxContent :=
  let content := { content with
    account := msg.ownerAddress
    exchangeID := msg.exchangeId.toUInt64 }
  match printTokenFromID content 0 msg.tokenIdMemory msg.tokenId.size with
  | (false, content) => (false, content)
  | (true, content) =>
    (true, { content.measureToken 0 with amount := content.amount.set 0 msg.quant.toUInt64 })

def exchangeInjectContract : ContractReader :=
  readContract ExchangeInjectContract.fields storeExchange

def exchangeWithdrawContract : ContractReader :=
  readContract ExchangeWithdrawContract.fields storeExchange

def exchangeTransactionContract : ContractReader :=
  readContract ExchangeTransactionContract.fields fun msg content =>
    let content := { content with
      account := msg.ownerAddress
      exchangeID := msg.exchangeId.toUInt64 }
    match printTokenFromID content 0 msg.tokenIdMemory msg.tokenId.size with
    | (false, content) => (false, content)
    | (true, content) =>
      (true, { content.measureToken 0 with
        amount := ⟨msg.quant.toUInt64, msg.expected.toUInt64⟩ })

/-- The reader of each contract type; the permission update is decoded into the global `msg`
by `processTx` itself. -/
def contractReader : ContractType → Option ContractReader
  | .transfer => some transferContract
  | .transferAsset => some transferAssetContract
  | .voteWitness => some voteWitnessContract
  | .freezeBalance => some freezeBalanceContract
  | .unfreezeBalance => some unfreezeBalanceContract
  | .freezeBalanceV2 => some freezeBalanceV2Contract
  | .unfreezeBalanceV2 => some unfreezeBalanceV2Contract
  | .withdrawExpireUnfreeze => some withdrawExpireUnfreezeContract
  | .delegateResource => some delegateResourceContract
  | .undelegateResource => some undelegateResourceContract
  | .withdrawBalance => some withdrawBalanceContract
  | .proposalCreate => some proposalCreateContract
  | .proposalApprove => some proposalApproveContract
  | .proposalDelete => some proposalDeleteContract
  | .accountUpdate => some accountUpdateContract
  | .triggerSmart => some triggerSmartContract
  | .exchangeCreate => some exchangeCreateContract
  | .exchangeInject => some exchangeInjectContract
  | .exchangeWithdraw => some exchangeWithdrawContract
  | .exchangeTransaction => some exchangeTransactionContract
  | _ => none

end Contracts

section Texts

variable {σ κ : Type} (sdk : Sdk σ κ)

/-- `bytes_to_string(out + offset, outl, value, |value|)`; no caller looks at what it returns. -/
def bytesToString {n : Nat} (out : Buf n) (offset outl : Nat) (value : Bytes) : Buf n :=
  if outl ≤ 2 then out
  else
    let out := out.strlcpy offset (ascii "0x") outl
    match sdk.formatHex value (outl - 2) with
    | none => out.write offset [0]
    | some text => out.strcpy (offset + 2) text

/-- The text of `bytes_to_string` where it has the room. -/
def Sdk.bytesText (value : Bytes) : Bytes := ascii "0x" ++ sdk.hexText value

variable {sdk}

theorem Sdk.FormatsHex.bytesText_length (formats : sdk.FormatsHex) (value : Bytes) :
    (sdk.bytesText value).length = 2 * value.length + 2 := by
  have lead : (ascii "0x").length = 2 := by decide
  rw [Sdk.bytesText, List.length_append, formats.length, lead, Nat.add_comm]

theorem Sdk.FormatsHex.bytesText_nonzero (formats : sdk.FormatsHex) (value : Bytes) :
    ∀ c ∈ sdk.bytesText value, c ≠ 0 := by
  intro c among
  have lead : ∀ c ∈ ascii "0x", c ≠ 0 := by decide +kernel
  rcases List.mem_append.mp among with among | among
  · exact lead c among
  · exact formats.nonzero value c among

/-- With room for it, the text is copied. -/
theorem Sdk.FormatsHex.bytesToString (formats : sdk.FormatsHex) {n : Nat} (out : Buf n) {offset outl : Nat}
    {value : Bytes} (room : 2 * value.length + 2 < outl) (inside : offset + outl ≤ n) :
    bytesToString sdk out offset outl value = out.strcpy offset (sdk.bytesText value) := by
  have lead : (ascii "0x").length = 2 := by decide
  rw [TronLedger.bytesToString, if_neg (by omega), formats.fits value (outl - 2) (by omega),
    Buf.strlcpy_eq_strcpy out offset (by omega)]
  have behind := Buf.strcpy_strcpy out offset (ascii "0x") (sdk.hexText value) (by rw [lead, formats.length]; omega)
  rw [lead] at behind
  exact behind

end Texts

end TronLedger
