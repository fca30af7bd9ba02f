import TronLedger.ExchangeLabels
import TronLedger.PermissionReview
import TronLedger.ResourceLabels
import TronLedger.TokenCall
import TronLedger.VoteReview

/-!
# The lines of a review

What the user reads in a review of INS_SIGN, line by line, as a function of the transaction: its
content, its message, its digest and the contacts. The display buffers a review points to are not
mentioned, and neither is what they held before.

* `screenLines` are the lines, `shownAddresses` the addresses among them.
* `AppRun.shows` in `WhatIsShown`: where these are addresses of the network, every review shows the lines.
-/

namespace TronLedger

/-- A line of a review: its label, its text, and the contact the text is shown as. -/
structure Line where
  label : Bytes
  text : Bytes
  contact : Option Contact
  deriving DecidableEq

/-- What a field shows over the display buffers. -/
def TagValue.line (ui : Ui) (f : TagValue) : Line := ⟨f.item.shown ui, f.value.shown ui, f.contact⟩

def Review.lines (r : Review) : List Line := r.infos.fields.map (TagValue.line r.ui)

/-- An amount on the screen. Zero keeps its zeros behind the point. -/
def shownAmount (amount : UInt64) (decimals : Nat) : Bytes :=
  if amount = 0 then ascii "0." ++ List.replicate decimals 48 else canonicalDecimal amount.toNat decimals

/-- A count of votes; the slot has room for 13 digits. -/
def shownCount (count : Int64) : Bytes :=
  if count.toUInt64.toNat < 10 ^ 13 then decimal count.toUInt64.toNat else []

def textLine (label : String) (text : Bytes) : Line := ⟨ascii label, text, none⟩

def sumLine (label : String) (amount : UInt64) (decimals : Nat) : Line := textLine label (shownAmount amount decimals)

section Lines

variable {σ κ : Type} (sdk : Sdk σ κ) (contacts : List Contact)

/-- The account that signs, behind the permission where it is not the owner's. -/
def accountLine (label : String) (content : TxContent) : Line where
  label := ascii label
  text := permissionPrefix content ++ base58Check sdk content.account
  contact := if 0 < content.permissionId then none else getAddressBookContact contacts content.account

/-- A recipient, behind the service it is known to belong to. -/
def partnerLines (label : Bytes) (address : Address) : List Line :=
  (getKnownServiceLabel address).toList.map (textLine "Service") ++
    [⟨label, base58Check sdk address, getAddressBookContact contacts address⟩]

/-- What a call of an unknown contract moves. -/
def callLines (content : TxContent) : List Line :=
  if content.amount.first ≠ 0 then
    [textLine "Pay Token" (ascii "TRX"), sumLine "Call Amount" content.amount.first sunDig]
  else if content.callTokenValue ≠ 0 then
    [textLine "Pay Token" (ascii "Token #" ++ signedDecimal content.callTokenId.toInt),
      sumLine "Call Amount" content.callTokenValue.toUInt64 0]
  else [textLine "Pay Token" (ascii "-"), textLine "Call Amount" (ascii "0")]

/-- A permission: its threshold, its keys with their weights, and its operations. -/
def grantLines (slot : Nat) (perm : Permission) : List Line :=
  [textLine (permissionName slot ++ " Threshold") (signedDecimal perm.threshold.toInt)] ++
    perm.keys.zipIdx.map (fun key =>
      ⟨ascii (permissionName slot ++ " Key ") ++ decimal (key.2 + 1), keyLine sdk key.1, none⟩) ++
    [textLine (permissionName slot ++ " Operations") (sdk.bytesText perm.operations.bytes)]

/-- **The lines of a review of INS_SIGN.** -/
def screenLines (content : TxContent) (msg : Msg) (hash : Buf 32) : List Line :=
  let sender := accountLine sdk contacts "From" content
  let resource (label : String) : Line := textLine label (resourceLabel content.resource)
  let amount (decimals : Nat) : Line := sumLine "Amount" content.amount.first decimals
  let token : Line := textLine "Token" (content.tokenName 0)
  let fee : Line := sumLine "Max Fee" content.feeLimit sunDig
  match content.contractType with
  | .transfer =>
    [amount sunDig, token] ++ partnerLines sdk contacts (ascii "To") content.destination ++ [sender]
  | .transferAsset =>
    [amount content.decimals.first.toNat, token] ++
      partnerLines sdk contacts (ascii "To") content.destination ++ [sender]
  | .triggerSmart =>
    if content.trc20Method = 1 ∨ content.trc20Method = 2 then
      [textLine "Amount" (canonicalDecimal (beNat content.trc20Amount.bytes) content.decimals.first.toNat), token] ++
        partnerLines sdk contacts (ascii (if content.trc20Method = 1 then "To" else "Allow")) content.destination ++
        [sender, fee]
    else
      [textLine "Contract" (base58Check sdk content.contractAddress),
        textLine "Selector" (hex32 content.customSelector)] ++ callLines content ++ [sender, fee]
  | .exchangeCreate =>
    [textLine "Token 1" (content.tokenName 0), sumLine "Amount 1" content.amount.first (exchangeDecimals content 0),
      textLine "Token 2" (content.tokenName 1), sumLine "Amount 2" content.amount.second (exchangeDecimals content 1),
      sender]
  | .exchangeInject | .exchangeWithdraw =>
    [textLine "Action" (ascii (if content.contractType = .exchangeInject then "inject" else "withdraw")),
      sumLine "Exchange ID" content.exchangeID 0, textLine "Token Name" (content.tokenName 0),
      amount (exchangeDecimals content 0), sender]
  | .exchangeTransaction =>
    [sumLine "Exchange ID" content.exchangeID 0,
      textLine "Token pair" ((content.tokenName 0 ++ ascii " -> " ++ content.tokenName 1).take 66),
      amount content.decimals.first.toNat, sumLine "Expected" content.amount.second content.decimals.second.toNat,
      sender]
  | .voteWitness =>
    content.votes.entries.map (fun vote => ⟨base58Check sdk vote.address, shownCount vote.count, none⟩) ++
      [textLine "Total Vote Count" (decimal content.votes.entries.length ++ ascii ": " ++
        decimal (totalCount content.votes.entries)), sender]
  | .freezeBalance =>
    [resource "Gain", amount sunDig] ++ partnerLines sdk contacts (ascii "Freeze To") (receiverOrOwner content) ++
      [sender]
  | .unfreezeBalance =>
    [resource "Resource"] ++ partnerLines sdk contacts (ascii "Delegated To") (receiverOrOwner content) ++ [sender]
  | .freezeBalanceV2 =>
    [resource "Gain", amount sunDig] ++ partnerLines sdk contacts (ascii "To") content.account ++ [sender]
  | .unfreezeBalanceV2 =>
    [resource "Resource", amount sunDig] ++ partnerLines sdk contacts (ascii "To") content.account ++ [sender]
  | .delegateResource =>
    [resource "Resource", amount sunDig, textLine "Lock" (ascii (if content.customData = 0 then "False" else "True"))] ++
      partnerLines sdk contacts (ascii "To") content.destination ++ [sender]
  | .undelegateResource =>
    -- the account that signs is the "To" of the review
    [resource "Resource", amount sunDig, accountLine sdk contacts "To" content] ++
      partnerLines sdk contacts (ascii "From") content.destination
  | .withdrawExpireUnfreeze | .withdrawBalance => [sender]
  | .accountPermissionUpdate =>
    sender :: (permissionUpdateSlots msg).zipIdx.flatMap fun slot => slot.1.toList.flatMap (grantLines sdk slot.2)
  | .invalidContract => []
  | _ => [textLine "Hash" (sdk.hexText hash.bytes), sender]

end Lines

/-- The addresses a review shows. -/
def shownAddresses (content : TxContent) (msg : Msg) : List Address :=
  content.account :: match content.contractType with
  | .transfer | .transferAsset | .delegateResource | .undelegateResource => [content.destination]
  | .triggerSmart =>
    if content.trc20Method = 1 ∨ content.trc20Method = 2 then [content.destination] else [content.contractAddress]
  | .freezeBalance | .unfreezeBalance => [receiverOrOwner content]
  | .voteWitness => content.votes.entries.map VoteEntry.address
  | .accountPermissionUpdate =>
    (permissionUpdateSlots msg).flatMap fun slot => slot.toList.flatMap fun perm => perm.keys.map Key.address
  | _ => []

section Layout

variable {ui : Ui} {fs : List TagValue}

/-- The line of a field, with its alias. -/
def TagValue.screened (ui : Ui) (f : TagValue) : Line where
  label := f.item.shown ui
  text := f.value.shown ui
  contact :=
    if ui.recipientContact.isSome ∧ f.value = .toAddress then ui.recipientContact
    else if ui.senderContact.isSome ∧ f.value = .fromAddress then ui.senderContact
    else f.contact

/-- The lines of a field: the service of a recipient stands above it. -/
def TagValue.screens (ui : Ui) (f : TagValue) : List Line :=
  (if f.value = .toAddress then ui.recipientService.toList.map (textLine "Service") else []) ++ [f.screened ui]

theorem aliases_lines (ui : Ui) (fs : List TagValue) :
    (applyAddressBookAliases ui fs).map (TagValue.line ui) = fs.map (TagValue.screened ui) := by
  rw [applyAddressBookAliases, List.map_map]
  apply List.map_congr_left
  intro f _
  simp only [Function.comp_apply, TagValue.line, TagValue.screened]
  split_ifs <;> rfl

theorem screens_plain (other : ∀ f ∈ fs, f.value ≠ .toAddress) :
    fs.flatMap (TagValue.screens ui) = fs.map (TagValue.screened ui) := by
  rw [List.map_eq_flatMap]
  apply List.flatMap_congr
  intro f among
  rw [TagValue.screens, if_neg (other f among), List.nil_append]

/-- No review shows two recipients. -/
theorem reviewFields_once (state : ApprovalState) (type : ContractType) (ui : Ui) :
    (reviewFields state type ui).countP (·.value = .toAddress) ≤ 1 := by
  have votes : ((List.range ui.votesCount).map fun i => (⟨.apduBuffer (voteSlot i 0),
      .apduBuffer (voteSlot i voteAmount), none⟩ : TagValue)).countP (·.value = .toAddress) = 0 := by
    rw [List.countP_eq_zero]
    simp
  have entries : (permissionUpdateFields ui.permissionEntries).countP (·.value = .toAddress) = 0 := by
    rw [List.countP_eq_zero]
    intro f among
    simp only [permissionUpdateFields, List.mem_flatMap] at among
    obtain ⟨⟨slot, e⟩, -, among⟩ := among
    cases slot with
    | none => simp at among
    | some entry =>
      simp only [permissionFields, List.mem_append, List.mem_singleton, List.mem_map] at among
      obtain (rfl | ⟨key, -, rfl⟩) | rfl := among <;> simp
  cases state
  case transfer =>
    by_cases call : type = .triggerSmart
    · simp [reviewFields, field, call]
    · simp [reviewFields, field, call]
  case witnessVoteTransaction => simp [reviewFields, field, votes]
  case permissionUpdate => simp [reviewFields, field, entries]
  all_goals simp [reviewFields, field]

/-- The service is put above the one recipient. -/
theorem insertKnownServiceLabel_lines {shown : List TagValue} (once : fs.countP (·.value = .toAddress) ≤ 1)
    (inserted : insertKnownServiceLabel ui.recipientService fs = some shown) :
    shown.map (TagValue.screened ui) = fs.flatMap (TagValue.screens ui) := by
  unfold insertKnownServiceLabel at inserted
  cases service : ui.recipientService with
  | none =>
    rw [service] at inserted
    obtain rfl := Option.some.inj inserted
    rw [List.map_eq_flatMap]
    apply List.flatMap_congr
    intro f _
    simp [TagValue.screens, service]
  | some label =>
    rw [service] at inserted
    simp only [List.span_eq_takeWhile_dropWhile] at inserted
    have parts : fs.takeWhile (fun f => f.value ≠ .toAddress) ++ fs.dropWhile (fun f => f.value ≠ .toAddress) = fs :=
      List.takeWhile_append_dropWhile
    have lead : ∀ f ∈ fs.takeWhile fun f => f.value ≠ .toAddress, f.value ≠ .toAddress := by
      intro f among
      simpa using List.mem_takeWhile_imp among
    have recipient : ∀ f ∈ (fs.dropWhile fun f => f.value ≠ .toAddress).head?, f.value = .toAddress := by
      intro f head
      have stops := List.head?_dropWhile_not (fun f : TagValue => f.value ≠ .toAddress) fs
      rw [head] at stops
      simpa using stops
    generalize (fs.takeWhile fun f => f.value ≠ .toAddress) = before at inserted parts lead
    generalize (fs.dropWhile fun f => f.value ≠ .toAddress) = rest at inserted parts recipient
    subst parts
    cases rest with
    | nil =>
      obtain rfl := Option.some.inj inserted
      rw [List.append_nil, screens_plain lead]
    | cons address after =>
      dsimp only at inserted
      split at inserted
      · simp at inserted
      obtain rfl := Option.some.inj inserted
      have recipient : address.value = .toAddress := recipient address rfl
      have behind : ∀ f ∈ after, f.value ≠ .toAddress := by
        rw [List.countP_append, List.countP_cons_of_pos (by simpa using recipient)] at once
        have none : after.countP (·.value = .toAddress) = 0 := by omega
        simpa using List.countP_eq_zero.mp none
      rw [List.flatMap_append, List.flatMap_cons, screens_plain lead, screens_plain behind, List.map_append,
        List.map_cons, List.map_cons, TagValue.screens, if_pos recipient, service]
      simp [TagValue.screened, textLine, Slot.shown]

/-- **The lines of a review are those of its fields.** -/
theorem lines_eq {r : Review} (ready : prepareTxInfos r.infos.state r.infos.dataWarning r.content.contractType r.ui =
      .ready r.infos) :
    r.lines = (reviewFields r.infos.state r.content.contractType r.ui).flatMap (TagValue.screens r.ui) := by
  obtain ⟨fields, inserted, shown⟩ := prepareTxInfos_fields ready
  rw [Review.lines, shown, aliases_lines]
  exact insertKnownServiceLabel_lines (reviewFields_once _ _ _) inserted

end Layout

end TronLedger
