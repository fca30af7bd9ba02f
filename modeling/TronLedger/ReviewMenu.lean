import TronLedger.State

/-!
# Reviews

`ui_review_menu_nbgl.c` and the callbacks of `ui_globals.c`: the fields each kind of review
shows, how a review is started, and what its answer does.

* `reviewFields` is the `switch` of `prepareTxInfos`; the contact aliases and the service
  label are added after it.
* The warning screens in front of a review are part of it: rejecting one has the effect of
  rejecting the review, which for every review with warnings is `ui_callback_tx_cancel`.
-/

namespace TronLedger

/-- `MAX_TX_FIELDS` -/
def maxTxFields : Nat := 1 + 4 * (2 + 3)

def field (item : String) (value : Slot) : TagValue := ⟨.text (ascii item), value, none⟩

/-- Offset of a vote in the APDU buffer; an entry is 35 bytes of address and 15 of amount. -/
def voteSlot (index : Nat) (type : Nat) : Nat := index * 50 + type

def voteAmount : Nat := 35

def permissionName : Nat → String
  | 0 => "Owner"
  | 1 => "Witness"
  | 2 => "Active 1"
  | _ => "Active 2"

/-- The threshold, the keys and the operations of one permission. -/
def permissionFields (e : Nat) (entry : PermissionEntry) : List TagValue :=
  let label (what : String) : Slot := .text (ascii (permissionName e ++ what))
  [⟨label " Threshold", .text entry.threshold, none⟩] ++
    entry.keys.zipIdx.map (fun (key, k) =>
      ⟨.text (ascii (permissionName e ++ " Key ") ++ decimal (k + 1)), .text key, none⟩) ++
    [⟨label " Operations", .text entry.operations, none⟩]

def permissionUpdateFields (entries : List (Option PermissionEntry)) : List TagValue :=
  entries.zipIdx.flatMap fun (entry, e) =>
    match entry with
    | none => []
    | some entry => permissionFields e entry

/-- The `switch` of `prepareTxInfos`. -/
def reviewFields (state : ApprovalState) (type : ContractType) (ui : Ui) : List TagValue :=
  let sender := field "From" .fromAddress
  match state with
  | .transfer =>
    [field "Amount" (.apduBuffer 0), field "Token" .fullContract,
      ⟨.trc20ActionSendAllow, .toAddress, none⟩, sender] ++
      if type = .triggerSmart then [field "Max Fee" .maxFee] else []
  | .simpleTransaction => [field "Hash" .fullHash, sender]
  | .permissionUpdate => sender :: permissionUpdateFields ui.permissionEntries
  | .exchangeCreate =>
    [field "Token 1" .fullContract, field "Amount 1" (.apduBuffer 0), field "Token 2" .toAddress,
      field "Amount 2" (.apduBuffer 100), sender]
  | .exchangeTransaction =>
    [field "Exchange ID" .toAddress, field "Token pair" .fullContract,
      field "Amount" (.apduBuffer 0), field "Expected" (.apduBuffer 100), sender]
  | .exchangeWithdrawInject =>
    [field "Action" (.apduBuffer 100), field "Exchange ID" .toAddress,
      field "Token Name" .fullContract, field "Amount" (.apduBuffer 0), sender]
  | .witnessVoteTransaction =>
    (List.range ui.votesCount).map (fun i =>
      ⟨.apduBuffer (voteSlot i 0), .apduBuffer (voteSlot i voteAmount), none⟩) ++
      [field "Total Vote Count" .fullContract, sender]
  | .freezeAssetTransaction =>
    [field "Gain" .fullContract, field "Amount" (.apduBuffer 0), field "Freeze To" .toAddress,
      sender]
  | .unfreezeAssetTransaction =>
    [field "Resource" .fullContract, field "Delegated To" .toAddress, sender]
  | .withdrawBalanceTransaction => [sender]
  | .signPersonalMessage =>
    [field "Message hash" .fullContract, field "Sign with" .fromAddress]
  | .signTip72Transaction =>
    [field "Domain hash" (.strings 0), field "Message hash" (.strings 70),
      field "Sign with" .fromAddress]
  | .customContract =>
    [field "Contract" .fullContract, field "Selector" .trc20Action, field "Pay Token" .toAddress,
      field "Call Amount" (.apduBuffer 0), sender, field "Max Fee" .maxFee]
  | .sharedEcdhSecret =>
    [field "ECDH Address" .fromAddress, field "Shared With" .toAddress]
  | .freezeAssetV2Transaction =>
    [field "Gain" .fullContract, field "Amount" (.apduBuffer 0), field "To" .toAddress, sender]
  | .unfreezeAssetV2Transaction =>
    [field "Resource" .fullContract, field "Amount" (.apduBuffer 0), field "To" .toAddress, sender]
  | .delegateResourceTransaction =>
    [field "Resource" .fullContract, field "Amount" (.apduBuffer 0),
      field "Lock" (.apduBuffer 100), field "To" .toAddress, sender]
  | .undelegateResourceTransaction =>
    -- the sender is shown as the recipient here, and the other way round
    [field "Resource" .fullContract, field "Amount" (.apduBuffer 0), field "To" .fromAddress,
      field "From" .toAddress]
  | .withdrawExpireUnfreezeTransaction => [sender]
  | .verifyAddress => []

/-- Title of the flow and text of the signing page. -/
def reviewTitles : ApprovalState → String × String
  | .transfer => ("Review Transaction", "Sign Transaction")
  | .permissionUpdate =>
    ("Review transaction to\nUpdate Permission", "Sign transaction to\nUpdate Permission")
  | .exchangeCreate => ("Review transaction to\nExchange", "Sign transaction to\nExchange")
  | .witnessVoteTransaction => ("Review transaction to\nVote", "Sign transaction to\nVote")
  | .freezeAssetTransaction => ("Review transaction to\nFreeze", "Sign transaction to\nFreeze")
  | .unfreezeAssetTransaction =>
    ("Review transaction to\nUnfreeze", "Sign transaction to\nUnfreeze")
  | .withdrawBalanceTransaction =>
    ("Review transaction to\nClaim Rewards", "Sign transaction to\nClaim Rewards")
  | .signPersonalMessage | .signTip72Transaction => ("Review message", "Sign message")
  | .sharedEcdhSecret =>
    ("Review transaction to\nShare ECDH Secret", "Sign transaction to\nShare ECDH Secret")
  | .freezeAssetV2Transaction =>
    ("Review transaction to\nFreezeV2", "Sign transaction to\nFreezeV2")
  | .unfreezeAssetV2Transaction =>
    ("Review transaction to\nUnfreezeV2", "Sign transaction to\nUnfreezeV2")
  | .delegateResourceTransaction =>
    ("Review transaction to\nDelegate Resource", "Sign transaction to\nDelegate")
  | .undelegateResourceTransaction =>
    ("Review transaction to\nUndelegate Resource", "Sign transaction to\nUndelegate")
  | .withdrawExpireUnfreezeTransaction =>
    ("Review transaction to\nWithdraw Unfreeze", "Sign transaction to\nWithdraw")
  | .simpleTransaction | .exchangeTransaction | .exchangeWithdrawInject | .customContract
  | .verifyAddress => ("Review transaction", "Sign transaction")

/-- `insert_known_service_label`: a pair of its own right above the recipient address. `none`
when there is no room left. -/
def insertKnownServiceLabel (service : Option Bytes) (fields : List TagValue) :
    Option (List TagValue) :=
  match service with
  | none => some fields
  | some label =>
    match fields.span fun f => f.value ≠ .toAddress with
    | (_, []) => some fields
    | (before, address :: after) =>
      if maxTxFields ≤ fields.length then none
      else some (before ++ ⟨.text (ascii "Service"), .text label, none⟩ :: address :: after)

/-- `apply_address_book_aliases` -/
def applyAddressBookAliases (ui : Ui) (fields : List TagValue) : List TagValue :=
  fields.map fun f =>
    if ui.recipientContact.isSome ∧ f.value = .toAddress then
      { f with contact := ui.recipientContact }
    else if ui.senderContact.isSome ∧ f.value = .fromAddress then
      { f with contact := ui.senderContact }
    else f

inductive Prepared
  | ready (infos : TxInfos)
  | noRoom
  | thrown (e : Sw)

/-- `prepareTxInfos` -/
def prepareTxInfos (state : ApprovalState) (dataWarning : Bool) (type : ContractType) (ui : Ui) :
    Prepared :=
  if state = .witnessVoteTransaction ∧ maxTxFields - 2 < ui.votesCount then
    .thrown .incorrectData
  else
    match insertKnownServiceLabel ui.recipientService (reviewFields state type ui) with
    | none => .noRoom
    | some fields =>
      let (flowTitle, text) := reviewTitles state
      .ready {
        state := state
        dataWarning := dataWarning
        customContractWarning := state = .customContract
        fields := applyAddressBookAliases ui fields
        flowTitle := ascii flowTitle
        flowSubtitle := ascii (if state = .customContract then "Custom Contract" else "")
        text := ascii text }

section Flow

variable {σ κ : Type} (sdk : Sdk σ κ)

/-- `format_hash` of both hashes of a typed message, into `strings.tmp.tmp`. -/
def formatTip712Hashes (context : MessageSigningContext712) (strings : Buf 296) : Buf 296 :=
  bytesToString sdk (bytesToString sdk strings 0 296 context.domainHash.bytes) 70 (296 - 70)
    context.messageHash.bytes

/-- `ux_flow_display` -/
def uxFlowDisplay (state : ApprovalState) (dataWarning : Bool) (w : World σ κ) : World σ κ :=
  if state = .verifyAddress then
    World.log { w with app := { w.app with pending := some state } } .verifyAddress
  else
    let ui := if state = .signTip72Transaction then
        { w.app.ui with
          strings := formatTip712Hashes sdk w.app.messageSigningContext712 w.app.ui.strings }
      else w.app.ui
    let w := w.setUi ui
    match prepareTxInfos state dataWarning w.app.txContent.contractType ui with
    | .thrown e => w.throwSw e
    | .noRoom => w.refuse sdk .incorrectData
    | .ready infos =>
      World.log { w with app := { w.app with pending := some state } }
        (.review {
          infos := infos
          ui := ui
          content := w.app.txContent
          msg := w.app.msg
          hash := w.app.transactionContext.hash
          path := w.app.transactionContext.bip32Path })

/-- `signTransaction` and the reply of `ui_callback_tx_ok` and `ui_callback_signMessage_ok`. -/
def signAndReply (w : World σ κ) : World σ κ :=
  match signTransaction sdk w with
  | (false, w) => w.ioSendSw .securityStatusNotSatisfied
  | (true, w) => w.ioSendResponse w.app.transactionContext.signature.bytes .ok

def uiCallbackTxOk (w : World σ κ) : World σ κ := (signAndReply sdk w).terminateSigningSession sdk

def uiCallbackSignMessageOk (w : World σ κ) : World σ κ := signAndReply sdk w

def uiCallbackTxCancel (w : World σ κ) : World σ κ :=
  (w.ioSendSw .conditionsOfUseNotSatisfied).terminateSigningSession sdk

/-- `helper_send_response_pubkey` -/
def helperSendResponsePubkey (w : World σ κ) : World σ κ :=
  let context := w.app.publicKeyContext
  w.ioSendResponse
    ([65] ++ context.publicKey.bytes ++ [34] ++ context.address58.bytes.take 34 ++
      if context.getChaincode then context.chainCode.bytes else []) .ok

def uiCallbackEcdhOk (w : World σ κ) : World σ κ :=
  let context := w.app.transactionContext
  match sdk.ecdh context.bip32Path context.signature.bytes with
  | none => w.ioSendSw .securityStatusNotSatisfied
  | some secret => w.ioSendResponse secret.bytes .ok

/-- One integer of a DER signature at `xoffset`: its 32 bytes, and where its content begins
and how long it is once a sign byte is dropped. -/
def derInteger (signature : Bytes) (xoffset : Nat) : Nat × Nat :=
  let xlength := (signature.getD (xoffset - 1) 0).toNat
  if xlength = 33 then (xoffset + 1, 32) else (xoffset, xlength)

/-- `format_signature_out` -/
def formatSignatureOut (signature : Bytes) (out : Buf 260) : Buf 260 :=
  let out := out.write 0 (List.replicate 64 0)
  let (rOffset, rLength) := derInteger signature 4
  let out := out.write (32 - rLength) ((signature.drop rOffset).take rLength)
  let (sOffset, sLength) := derInteger signature (rOffset + rLength + 2)
  out.write (32 + 32 - sLength) ((signature.drop sOffset).take sLength)

/-- `ui_callback_signMessage712_v0_ok` -/
def uiCallbackSignMessage712Ok (w : World σ κ) : World σ κ :=
  let context := w.app.messageSigningContext712
  let keccak := sdk.keccak256
  let hash := (keccak.last (keccak.absorb
    [[0x19, 0x01], context.domainHash.bytes, context.messageHash.bytes])).1
  let path := context.bip32Path.toList.take context.pathLength.toNat
  match sdk.signHashDer path hash with
  | none => w.ioSendSw .securityStatusNotSatisfied
  | some (signature, odd) =>
    let out := (formatSignatureOut signature.bytes w.app.ui.apduBuffer).write 64
      [if odd then 1 else 0]
    ((w.setUi { w.app.ui with apduBuffer := out }).log (.signature path hash)).ioSendResponse
      (out.bytes.take 65) .ok

/-- `ui_callback_signMessage712_v0_cancel` -/
def uiCallbackSignMessage712Cancel (w : World σ κ) : World σ κ :=
  w.ioSendSw .conditionsOfUseNotSatisfied

/-- The confirming branches of `reviewChoice` and `display_address_callback`. -/
def confirmReview (state : ApprovalState) (w : World σ κ) : World σ κ :=
  match state with
  | .verifyAddress => helperSendResponsePubkey w
  | .signPersonalMessage => uiCallbackSignMessageOk sdk w
  | .sharedEcdhSecret => uiCallbackEcdhOk sdk w
  | .signTip72Transaction => uiCallbackSignMessage712Ok sdk w
  | _ => uiCallbackTxOk sdk w

/-- `rejectChoice`, and the rejecting branch of `display_address_callback`. -/
def rejectReview (state : ApprovalState) (w : World σ κ) : World σ κ :=
  match state with
  | .signTip72Transaction => uiCallbackSignMessage712Cancel w
  | _ => uiCallbackTxCancel sdk w

/-- `reviewChoice` and `display_address_callback` -/
def reviewChoice (confirm : Bool) (state : ApprovalState) (w : World σ κ) : World σ κ :=
  if confirm then confirmReview sdk state w else rejectReview sdk state w

end Flow

end TronLedger
