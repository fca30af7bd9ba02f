import TronLedger.ReviewMenu
import TronLedger.Swap

/-!
# From a transaction to its review

The `switch` of `handleSign` over the contract type: the texts of the review are written
into the display buffers, and the transaction is shown, refused or, in a swap, compared
with the validated one.

* `Render` writes to the display buffers and may stop early with a verdict.
* `Verdict.refuse` stands for `terminate_signing_session(...); return io_send_sw(...)`.
-/

namespace TronLedger

inductive Verdict
  | refuse (sw : Sw)
  | thrown (e : Sw)
  | display (state : ApprovalState)
  | swapSign
  deriving DecidableEq

abbrev Render := ExceptT Verdict (StateM Ui)

namespace Render

variable {α : Type}

/-- `terminate_signing_session(&txContext, &txContent); return io_send_sw(sw);` -/
def refuse (sw : Sw) : Render α := throw (.refuse sw)

/-- `print_amount` to a place of the display buffers -/
def printAmount (put : Bytes → Ui → Ui) (amount : UInt64) (outlen sun : Nat) : Render Unit :=
  match TronLedger.printAmount amount outlen sun with
  | none => throw (.thrown .incorrectLength)
  | some text => modify (put text)

end Render

/-- `strcpy((char *) G_io_apdu_buffer + off, text)` -/
def Ui.putApdu (off : Nat) (text : Bytes) (ui : Ui) : Ui :=
  { ui with apduBuffer := ui.apduBuffer.strcpy off text }

def Ui.putMaxFee (text : Bytes) (ui : Ui) : Ui :=
  { ui with strings := ui.strings.strcpy 122 text }

def Ui.putToAddress (text : Bytes) (ui : Ui) : Ui :=
  { ui with toAddress := ui.toAddress.strcpy 0 text }

def Ui.putFullContract (text : Bytes) (ui : Ui) : Ui :=
  { ui with fullContract := ui.fullContract.strlcpy 0 text 67 }

/-- `memcpy(fullContract, txContent.tokenNames[0], txContent.tokenNamesLength[0] + 1)` -/
def Ui.copyTokenName (content : TxContent) (ui : Ui) : Ui :=
  let name := content.tokenNames.first.bytes.take (content.tokenNamesLength.first.toNat + 1)
  { ui with fullContract := ui.fullContract.write 0 name }

/-- `SUN_DIG` -/
def sunDig : Nat := 6

/-- What the rendering reads besides `txContent`. -/
structure RenderContext (σ κ : Type) where
  sdk : Sdk σ κ
  settings : Settings
  contacts : List Contact
  calledFromSwap : Bool
  swapValidated : SwapValidated
  msg : Msg
  hash : Buf 32
  residue : Nat → Buf 35

section Contracts

variable {σ κ : Type} (ctx : RenderContext σ κ) (content : TxContent)

/-- `set_recipient_address` -/
def setRecipientAddress (raw : Address) (ui : Ui) : Ui :=
  { ui with
    toAddress := getBase58FromAddress ctx.sdk raw ui.toAddress 0
    recipientContact := getAddressBookContact ctx.contacts raw
    recipientService := getKnownServiceLabel raw }

/-- A call of a contract that is not a known token transfer or approval. -/
def renderCustomContract : Render Verdict := do
  if !ctx.settings.customContract then Render.refuse .missingSettingCustomContract
  modify fun ui => { ui with
    customContractField := 1
    fullContract := getBase58FromAddress ctx.sdk content.contractAddress ui.fullContract 0
    trc20Action := ui.trc20Action.strlcpy 0 (hex32 content.customSelector) 9
    apduBuffer := (ui.apduBuffer.write 0 [0]).write 100 [0]
    toAddress := ui.toAddress.write 0 [0] }
  if content.amount.first ≠ 0 ∧ content.callTokenValue ≠ 0 then Render.refuse .incorrectData
  if content.amount.first ≠ 0 then
    -- call has value
    modify (Ui.putToAddress (ascii "TRX"))
    Render.printAmount (Ui.putApdu 0) content.amount.first 100 sunDig
    modify fun ui => { ui with customContractField := ui.customContractField ||| 0x60 }
  else if content.callTokenValue ≠ 0 then
    let label := ascii "Token #" ++ signedDecimal content.callTokenId.toInt
    modify fun ui => { ui with toAddress := ui.toAddress.strlcpy 0 label 35 }
    Render.printAmount (Ui.putApdu 0) content.callTokenValue.toUInt64 100 0
    modify fun ui => { ui with customContractField := ui.customContractField ||| 0x60 }
  else
    modify (Ui.putToAddress (ascii "-"))
    modify (Ui.putApdu 0 (ascii "0"))
  Render.printAmount Ui.putMaxFee content.feeLimit 50 sunDig
  return .display .customContract

/-- The amount of a known token call: `tostring256` at offset 100, then adjusted to 0. -/
def renderTrc20Amount : Render Unit := do
  -- the review would not show TRX or TRC10 tokens the call moves besides
  if content.amount.first ≠ 0 ∨ content.callTokenValue ≠ 0 then Render.refuse .incorrectData
  let digits := ((convertUint256BE content.trc20Amount.bytes).tostring 10 100).2
  modify (Ui.putApdu 100 digits)
  match adjustDecimals digits 100 content.decimals.first.toNat with
  | none => Render.refuse .incorrectLength
  | some text => modify (Ui.putApdu 0 text)

/-- The end of a transfer: a review, or the comparison with the validated swap. -/
def finishTransfer : Render Verdict := do
  modify (setRecipientAddress ctx content.destination)
  modify (Ui.copyTokenName content)
  if content.contractType = .triggerSmart then
    Render.printAmount Ui.putMaxFee content.feeLimit 50 sunDig
  if ctx.calledFromSwap then
    if maxSwapFeeLimit < content.feeLimit then Render.refuse .swapCheckingFail
    let ui ← get
    if swapCheckValidity ctx.swapValidated (ui.apduBuffer.str 0) (ui.fullContract.str 0)
        (ui.trc20ActionSendAllow.str 0) (ui.toAddress.str 0) then
      return .swapSign
    else Render.refuse .swapCheckingFail
  else return .display .transfer

/-- `TRANSFERCONTRACT` and `TRANSFERASSETCONTRACT` -/
def renderTransfer : Render Verdict := do
  modify fun ui => { ui with trc20ActionSendAllow := ui.trc20ActionSendAllow.strcpy 0 (ascii "To") }
  Render.printAmount (Ui.putApdu 0) content.amount.first 100
    (if content.contractType = .transfer then sunDig else content.decimals.first.toNat)
  finishTransfer ctx content

/-- `TRIGGERSMARTCONTRACT` -/
def renderTriggerSmart : Render Verdict := do
  modify fun ui => { ui with trc20ActionSendAllow := ui.trc20ActionSendAllow.strcpy 0 (ascii "To") }
  if content.trc20Method = 1 then
    modify fun ui => { ui with trc20Action := ui.trc20Action.strcpy 0 (ascii "Asset") }
    renderTrc20Amount content
    finishTransfer ctx content
  else if content.trc20Method = 2 then
    modify fun ui => { ui with
      trc20ActionSendAllow := ui.trc20ActionSendAllow.strcpy 0 (ascii "Allow")
      trc20Action := ui.trc20Action.strcpy 0 (ascii "Approve") }
    renderTrc20Amount content
    finishTransfer ctx content
  else renderCustomContract ctx content

/-- The decimals of one side of an exchange; native TRX has its own. -/
def exchangeDecimals (i : Fin 2) : Nat :=
  if content.tokenIsTrx.get i then sunDig else (content.decimals.get i).toNat

def renderExchangeCreate : Render Verdict := do
  modify (Ui.copyTokenName content)
  -- a name[id] label can be wider than toAddress
  if 35 < content.tokenNamesLength.second.toNat + 1 then Render.refuse .incorrectData
  let name := content.tokenNames.second.bytes.take (content.tokenNamesLength.second.toNat + 1)
  modify fun ui => { ui with toAddress := ui.toAddress.write 0 name }
  Render.printAmount (Ui.putApdu 0) content.amount.first 100 (exchangeDecimals content 0)
  Render.printAmount (Ui.putApdu 100) content.amount.second 100 (exchangeDecimals content 1)
  return .display .exchangeCreate

/-- `setExchangeContractDetail` -/
def exchangeContractDetail : ContractType → Option Bytes
  | .exchangeCreate => some (ascii "create")
  | .exchangeInject => some (ascii "inject")
  | .exchangeWithdraw => some (ascii "withdraw")
  | .exchangeTransaction => some (ascii "transaction")
  | _ => none

def renderExchangeWithdrawInject : Render Verdict := do
  modify (Ui.copyTokenName content)
  Render.printAmount Ui.putToAddress content.exchangeID 35 0
  Render.printAmount (Ui.putApdu 0) content.amount.first 100 (exchangeDecimals content 0)
  match exchangeContractDetail content.contractType with
  | none => Render.refuse .incorrectData
  | some detail => modify (Ui.putApdu 100 detail)
  return .display .exchangeWithdrawInject

def renderExchangeTransaction : Render Verdict := do
  modify (Ui.putFullContract (content.tokenName 0 ++ ascii " -> " ++ content.tokenName 1))
  Render.printAmount Ui.putToAddress content.exchangeID 35 0
  Render.printAmount (Ui.putApdu 0) content.amount.first 100 content.decimals.first.toNat
  Render.printAmount (Ui.putApdu 100) content.amount.second 100 content.decimals.second.toNat
  return .display .exchangeTransaction

/-- `fillVoteAddressSlot` and `fillVoteAmountSlot` for one vote. -/
def fillVoteSlots (index : Nat) (vote : VoteEntry) : Render Unit := do
  modify fun ui =>
    let cleared := ui.apduBuffer.write (voteSlot index 0) (List.replicate 50 0)
    { ui with apduBuffer := cleared.write (voteSlot index 0) (ui.fullContract.bytes.take 35) }
  Render.printAmount (Ui.putApdu (voteSlot index voteAmount)) vote.count.toUInt64 15 0

/-- The loop over the votes: the sum of their counts. -/
def renderVotes : List VoteEntry → Nat → UInt64 → Render UInt64
  | [], _, totalVotes => return totalVotes
  | vote :: votes, index, totalVotes => do
    if vote.count ≤ 0 then Render.refuse .incorrectData
    modify fun ui => { ui with
      fullContract := getBase58FromAddress ctx.sdk vote.address ui.fullContract 0 }
    let count := vote.count.toUInt64
    if 0xFFFFFFFFFFFFFFFF - totalVotes < count then Render.refuse .incorrectData
    fillVoteSlots index vote
    renderVotes votes (index + 1) (totalVotes + count)

def renderVoteWitness : Render Verdict := do
  if content.votes.entries.length = 0 then Render.refuse .incorrectData
  modify fun ui => { ui with
    apduBuffer := ui.apduBuffer.write 0 (List.replicate 200 0)
    votesCount := content.votes.entries.length }
  let totalVotes ← renderVotes ctx content.votes.entries 0 0
  modify (Ui.putFullContract
    (decimal content.votes.entries.length ++ ascii ": " ++ decimal totalVotes.toNat))
  return .display .witnessVoteTransaction

/-- The label of a resource, as every freeze and delegate contract shows it. -/
def Ui.putResource (ui : Ui) : Ui :=
  let label := if content.resource = 0 then ascii "Bandwidth" else ascii "Energy"
  { ui with fullContract := ui.fullContract.strcpy 0 label }

def isZeroAddress (raw : Address) : Bool := raw = Buf.zero 21

/-- `FREEZEBALANCECONTRACT` and `UNFREEZEBALANCECONTRACT` go to the owner when there is no
receiver. -/
def receiverOrOwner : Address :=
  if !isZeroAddress content.destination then content.destination else content.account

def renderFreezeBalance : Render Verdict := do
  modify (Ui.putResource content)
  Render.printAmount (Ui.putApdu 0) content.amount.first 100 sunDig
  modify (setRecipientAddress ctx (receiverOrOwner content))
  return .display .freezeAssetTransaction

def renderUnfreezeBalance : Render Verdict := do
  modify (Ui.putResource content)
  modify (setRecipientAddress ctx (receiverOrOwner content))
  return .display .unfreezeAssetTransaction

/-- The V2 freeze contracts and `UNDELEGATERESOURCECONTRACT`: resource, amount, recipient. -/
def renderResource (recipient : Address) (state : ApprovalState) : Render Verdict := do
  modify (Ui.putResource content)
  Render.printAmount (Ui.putApdu 0) content.amount.first 100 sunDig
  modify (setRecipientAddress ctx recipient)
  return .display state

def renderFreezeBalanceV2 : Render Verdict :=
  renderResource ctx content content.account .freezeAssetV2Transaction

def renderUnfreezeBalanceV2 : Render Verdict :=
  renderResource ctx content content.account .unfreezeAssetV2Transaction

def renderUndelegateResource : Render Verdict :=
  renderResource ctx content content.destination .undelegateResourceTransaction

def renderDelegateResource : Render Verdict := do
  modify (Ui.putResource content)
  modify (Ui.putApdu 100 (if content.customData = 0 then ascii "False" else ascii "True"))
  Render.printAmount (Ui.putApdu 0) content.amount.first 100 sunDig
  modify (setRecipientAddress ctx content.destination)
  return .display .delegateResourceTransaction

def renderWithdrawExpireUnfreeze : Render Verdict := do
  modify (setRecipientAddress ctx content.account)
  return .display .withdrawExpireUnfreezeTransaction

def renderWithdrawBalance : Render Verdict := do
  modify (setRecipientAddress ctx content.account)
  return .display .withdrawBalanceTransaction

/-- The key lines, `"%s (weight %lld)"`, whose addresses all go through the local `address`;
`none` where a line would be cut and the source throws. -/
def permissionKeyLines : List Key → Buf 35 → Option (List Bytes)
  | [], _ => some []
  | key :: keys, address =>
    let address := getBase58FromAddress ctx.sdk key.address address 0
    let line := address.str 0 ++ ascii " (weight " ++ signedDecimal key.weight.toInt ++ ascii ")"
    if 34 + 31 ≤ line.length then none
    else
      match permissionKeyLines keys address with
      | none => none
      | some lines => some (line :: lines)

/-- `fillPermissionEntry`; its local `address` is not initialised. -/
def permissionEntry (index : Nat) (perm : Permission) : Option PermissionEntry :=
  match permissionKeyLines ctx (perm.keys.take 3) (ctx.residue index) with
  | none => none
  | some keys => some {
      threshold := (signedDecimal perm.threshold.toInt).take 23
      keys := keys
      operations := (bytesToString ctx.sdk (Buf.zero 68) 0 68 perm.operations.bytes).str 0 }

/-- The entries of a permission update, in slot order, absent ones included. -/
def permissionUpdateSlots (contract : AccountPermissionUpdateContract) : List (Option Permission) :=
  [if contract.hasOwner then some contract.owner else none,
    if contract.hasWitness then some contract.witness else none,
    contract.actives[0]?, contract.actives[1]?]

/-- Fill the entries from `index` on; the source throws at the first that fails. -/
def renderPermissionEntries :
    List (Option Permission) → Nat → Render (List (Option PermissionEntry))
  | [], _ => return []
  | none :: perms, index => do
    return none :: (← renderPermissionEntries perms (index + 1))
  | some perm :: perms, index =>
    match permissionEntry ctx index perm with
    | none => throw (.thrown .incorrectData)
    | some entry => do return some entry :: (← renderPermissionEntries perms (index + 1))

def renderPermissionUpdate : Render Verdict := do
  let contract := ctx.msg
  if !contract.hasOwner ∧ !contract.hasWitness ∧ contract.actives.length = 0 then
    Render.refuse .incorrectData
  let entries ← renderPermissionEntries ctx (permissionUpdateSlots contract) 0
  modify fun ui => { ui with permissionEntries := entries }
  return .display .permissionUpdate

/-- `setContractType` -/
def contractTypeName : ContractType → Option Bytes
  | .accountCreate => some (ascii "Account Create")
  | .voteAsset => some (ascii "Vote Asset")
  | .witnessCreate => some (ascii "Witness Create")
  | .assetIssue => some (ascii "Asset Issue")
  | .witnessUpdate => some (ascii "Witness Update")
  | .participateAssetIssue => some (ascii "Participate Asset")
  | .accountUpdate => some (ascii "Account Update")
  | .unfreezeBalance => some (ascii "Unfreeze Balance")
  | .unfreezeBalanceV2 => some (ascii "UnfreezeV2 Balance")
  | .withdrawBalance => some (ascii "Claim Rewards")
  | .unfreezeAsset => some (ascii "Unfreeze Asset")
  | .withdrawExpireUnfreeze => some (ascii "Withdraw Unfreeze")
  | .updateAsset => some (ascii "Update Asset")
  | .proposalCreate => some (ascii "Proposal Create")
  | .proposalApprove => some (ascii "Proposal Approve")
  | .proposalDelete => some (ascii "Proposal Delete")
  | .accountPermissionUpdate => some (ascii "Permission Update")
  | .unknownContract => some (ascii "Unknown Type")
  | _ => none

/-- Contracts without a review of their own are shown by their hash. -/
def renderByHash : Render Verdict := do
  if !ctx.settings.signByHash then Render.refuse .missingSettingSignByHash
  modify fun ui => { ui with fullHash := ctx.sdk.putHex ui.fullHash 0 ctx.hash.bytes 65 }
  match contractTypeName content.contractType with
  | none => Render.refuse .incorrectData
  | some name => modify (Ui.putFullContract name)
  return .display .simpleTransaction

/-- The `switch` over the contract type. -/
def renderContract : Render Verdict :=
  match content.contractType with
  | .transfer | .transferAsset => renderTransfer ctx content
  | .triggerSmart => renderTriggerSmart ctx content
  | .exchangeCreate => renderExchangeCreate content
  | .exchangeInject | .exchangeWithdraw => renderExchangeWithdrawInject content
  | .exchangeTransaction => renderExchangeTransaction content
  | .voteWitness => renderVoteWitness ctx content
  | .freezeBalance => renderFreezeBalance ctx content
  | .unfreezeBalance => renderUnfreezeBalance ctx content
  | .freezeBalanceV2 => renderFreezeBalanceV2 ctx content
  | .unfreezeBalanceV2 => renderUnfreezeBalanceV2 ctx content
  | .delegateResource => renderDelegateResource ctx content
  | .undelegateResource => renderUndelegateResource ctx content
  | .withdrawExpireUnfreeze => renderWithdrawExpireUnfreeze ctx content
  | .withdrawBalance => renderWithdrawBalance ctx content
  | .accountPermissionUpdate => renderPermissionUpdate ctx
  | .invalidContract => Render.refuse .incorrectData
  | _ => renderByHash ctx content

/-- The sender line; a permission id other than 0 is put in front of the address. -/
def renderSender (ui : Ui) : Ui :=
  if 0 < content.permissionId then
    let fromAddress := ui.fromAddress.strlcpy 0
      (ascii "P" ++ signedDecimal content.permissionId.toInt ++ ascii " - ") 6
    { ui with fromAddress := getBase58FromAddress ctx.sdk content.account fromAddress 5 }
  else
    { ui with
      fromAddress := getBase58FromAddress ctx.sdk content.account ui.fromAddress 0
      senderContact := getAddressBookContact ctx.contacts content.account }

/-- The checks `handleSign` makes in swap mode before the `switch`. -/
def swapRefuses : Bool :=
  ctx.calledFromSwap ∧
    ((content.contractType ≠ .transfer ∧ content.contractType ≠ .triggerSmart) ∨
      (content.contractType = .triggerSmart ∧ content.trc20Method ≠ 1) ∨
      content.dataBytes ≠ 0)

/-- `handleSign` from the final digest to the review. -/
def renderTransaction : Render Verdict := do
  if !ctx.settings.dataAllowed ∧ content.dataBytes ≠ 0 then
    Render.refuse .missingSettingDataAllowed
  if content.permissionId < 0 ∨ 9 < content.permissionId then Render.refuse .incorrectData
  modify (renderSender ctx content)
  if swapRefuses ctx content then Render.refuse .swapCheckingFail
  renderContract ctx content

/-- `txContent` once a rendering has begun: a vote clears the amount it does not use. -/
def renderedContent : TxContent :=
  if content.contractType = .voteWitness then
    { content with amount := content.amount.set 0 0 }
  else content

/-- Run a rendering: its verdict and the display buffers it leaves. -/
def Render.verdict (r : Render Verdict) (ui : Ui) : Verdict × Ui :=
  match r.run.run ui with
  | (.ok verdict, ui) => (verdict, ui)
  | (.error verdict, ui) => (verdict, ui)

end Contracts

end TronLedger
