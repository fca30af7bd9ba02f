import TronLedger.AmountBuffer
import TronLedger.MetadataBuffers
import TronLedger.ReviewLines

/-!
# The texts behind the lines

What each slot of the display buffers reads as, for every contract, whatever the buffers held
before the rendering.

* `ContractShows.lines` puts the lines of a contract together.
-/

namespace TronLedger

section Texts

variable {ui : Ui} {before : Buf 260} {amount : UInt64} {sun off : Nat}

/-- A string behind a write stays. -/
theorem str_write_before {n : Nat} (b : Buf n) (off : Nat) {off' : Nat} (src : Bytes) (fits : off' + src.length ≤ n)
    (below : off' + src.length ≤ off) : (b.write off' src).str off = b.str off := by
  rw [Buf.str, Buf.str]
  congr 1
  apply List.ext_getElem?
  intro i
  rw [List.getElem?_drop, List.getElem?_drop, Buf.getElem?_write_of_ge b src fits (by omega)]

theorem amountShown_none : ∀ sun ≤ 18, amountShown 0 100 sun = ascii "0." ++ List.replicate sun 48 := by
  decide +kernel

/-- An amount that prints is shown as it should be. -/
theorem amountShown_eq {outlen : Nat} (short : tooLong amount = false) (few : sun ≤ 18) (room : 35 ≤ outlen) :
    amountShown amount outlen sun = shownAmount amount sun := by
  rw [amountShown_room short few room, shownAmount]
  split
  · rename_i zero
    rw [zero]
    exact amountShown_none sun few
  · rename_i some
    have positive : 0 < amount.toNat := Nat.pos_of_ne_zero fun zero => some (UInt64.toNat_inj.mp zero)
    have text := amountText_eq positive
    have digits := amountText_length short
    rw [text] at digits
    have fits : AdjustRoom amount.toNat 25 sun := (adjustRoom_iff (by omega)).mpr ⟨by omega, by omega⟩
    have length := canonicalDecimal_length fits
    rw [amountShown, text, adjustDecimals_decimal, if_pos fits, fitted, if_pos (by omega)]

theorem shownAmount_fits (short : tooLong amount = false) (few : sun ≤ 18) :
    (shownAmount amount sun).length ≤ 20 ∧ ∀ c ∈ shownAmount amount sun, c ≠ 0 := by
  have same := amountShown_eq short few (show 35 ≤ 100 by decide)
  rw [← same]
  exact ⟨(amountShown_reads short few (by decide)).1, amountShown_nonzero short few (by decide)⟩

/-- An amount in the APDU buffer. -/
theorem apdu_amount (short : tooLong amount = false) (few : sun ≤ 18) (room : off ≤ 100)
    (same : ui.apduBuffer = before.strcpy off (amountShown amount 100 sun)) :
    (Slot.apduBuffer off).shown ui = shownAmount amount sun := by
  obtain ⟨length, nonzero⟩ := shownAmount_fits short few
  rw [Slot.shown, same, amountShown_eq short few (by decide)]
  exact Buf.str_strcpy before off _ nonzero (by omega)

/-- An amount with another text behind it. -/
theorem apdu_first {second : Bytes} (short : tooLong amount = false) (few : sun ≤ 18) (fits : second.length ≤ 20)
    (same : ui.apduBuffer = (before.strcpy 0 (amountShown amount 100 sun)).strcpy 100 second) :
    (Slot.apduBuffer 0).shown ui = shownAmount amount sun := by
  have length := (amountShown_reads short few (show 35 ≤ 100 by decide)).1
  have nul := Buf.strcpy_nul before 0 (amountShown amount 100 sun) (by omega)
  rw [Slot.shown, same, Buf.strcpy, Buf.str_write_behind _ _ (by simp; omega) nul (by omega)]
  exact @apdu_amount { ui with apduBuffer := _ } _ _ _ _ short few (by decide) rfl

end Texts

section Fields

variable {ui : Ui}

@[simp] theorem shown_text (text : Bytes) (ui : Ui) : (Slot.text text).shown ui = text := rfl

theorem text_screens {label : String} {slot : Slot} {text : Bytes} (notTo : slot ≠ .toAddress)
    (notFrom : slot ≠ .fromAddress) (shown : slot.shown ui = text) :
    (field label slot).screens ui = [textLine label text] := by
  simp [TagValue.screens, TagValue.screened, field, textLine, notTo, notFrom, shown]

/-- A contact is shown where there is one. -/
theorem attached (contact : Option Contact) : (if contact.isSome = true then contact else none) = contact := by
  cases contact <;> rfl

/-- `toAddress` is used for another text. -/
theorem other_screens (label : String) {text : Bytes} (contact : ui.recipientContact = none)
    (service : ui.recipientService = none) (shown : Slot.toAddress.shown ui = text) :
    (field label .toAddress).screens ui = [textLine label text] := by
  simp [TagValue.screens, TagValue.screened, field, textLine, contact, service, shown]

variable {σ κ : Type} {sdk : Sdk σ κ} {contacts : List Contact}

/-- The recipient. -/
theorem partner_screens (ui : Ui) (contacts : List Contact) (encodes : sdk.EncodesBase58) {item : Slot} {label : Bytes} {address : Address} {old : Buf 35}
    (mainnet : address.bytes.head? = some 0x41) (labelled : item.shown ui = label)
    (holds : ui.toAddress = getBase58FromAddress sdk address old 0)
    (contact : ui.recipientContact = getAddressBookContact contacts address)
    (service : ui.recipientService = getKnownServiceLabel address) :
    (⟨item, .toAddress, none⟩ : TagValue).screens ui = partnerLines sdk contacts label address := by
  have text : Slot.toAddress.shown ui = base58Check sdk address := by
    rw [Slot.shown, holds, getBase58FromAddress_str encodes address old (by decide)]
    exact .inl (base58Check_mainnet mainnet)
  simp only [TagValue.screens, TagValue.screened, partnerLines, reduceCtorEq, and_false, if_false, if_true, and_true,
    attached, labelled, text, service, contact]

variable {ctx : RenderContext σ κ} {content : TxContent} {before shown : Ui} {kind : ApprovalState}

/-- The account that signs. -/
theorem account_screens (encodes : ctx.sdk.EncodesBase58) (shows : TransactionShows ctx content before kind shown)
    (clear : before.senderContact = none) (mainnet : content.account.bytes.head? = some 0x41) (label : String) :
    (field label .fromAddress).screens shown = [accountLine ctx.sdk ctx.contacts label content] := by
  obtain ⟨from', contact⟩ := shows.contract.sender
  have text : Slot.fromAddress.shown shown = permissionPrefix content ++ base58Check ctx.sdk content.account := by
    have exact := (senderLine_iff encodes shows.permission.2 from').mpr (.inl (base58Check_mainnet mainnet))
    simpa [AddressLine.Exact, senderLine] using exact
  have looked : shown.senderContact =
      if 0 < content.permissionId then none else getAddressBookContact ctx.contacts content.account := by
    rw [contact, renderSender]
    split
    · exact clear
    · rfl
  simp only [TagValue.screens, TagValue.screened, field, accountLine, reduceCtorEq, and_false, if_false, and_true,
    attached, text, looked, shown_text, List.nil_append]

end Fields

section Contracts

variable {σ κ : Type} {ctx : RenderContext σ κ} {content : TxContent} {ui shown : Ui} {kind : ApprovalState}

/-- The name in slot `i` ends within what is copied of it. -/
structure TxContent.NameEnds (content : TxContent) (i : Fin 2) : Prop where
  within : (content.tokenName i).length ≤ (content.tokenNamesLength.get i).toNat
  short : (content.tokenName i).length < 67

theorem TxContent.Measured.ends {i : Fin 2} (measured : content.Measured i) : content.NameEnds i where
  within := by
    have short := measured.short
    rw [measured.length, UInt8.toNat_ofNat', Nat.mod_eq_of_lt (by omega)]
  short := Nat.lt_succ_of_le measured.short

/-- A name that ends is copied. -/
theorem copyTokenName_ends (ends : content.NameEnds 0) (ui : Ui) :
    (Ui.copyTokenName content ui).fullContract.str 0 = content.tokenName 0 := by
  have within : (content.tokenName 0).length ≤ content.tokenNamesLength.first.toNat := ends.within
  have copied : content.tokenNames.first.bytes.take ((content.tokenName 0).length + 1) = content.tokenName 0 ++ [0] :=
    Buf.take_str _ ends.short
  have size := content.tokenNames.first.size
  have stop : content.tokenNames.first.bytes[0 + (content.tokenName 0).length]? = some 0 := by
    rw [Nat.zero_add, ← List.getElem?_take_of_lt (Nat.lt_succ_self _), copied, List.getElem?_append_right le_rfl]
    simp
  refine Buf.str_congr content.tokenNames.first _ 0 0 (fun i inside => ?_) stop
  have room : i < (content.tokenNames.first.bytes.take (content.tokenNamesLength.first.toNat + 1)).length := by
    have short := ends.short
    rw [List.length_take, size]
    omega
  have written : (Ui.copyTokenName content ui).fullContract.bytes[0 + i]? =
      (content.tokenNames.first.bytes.take (content.tokenNamesLength.first.toNat + 1))[i]? :=
    Buf.getElem?_write_inside _ _ (by rw [List.length_take, size]; omega) room
  rw [written, List.getElem?_take_of_lt (by omega), Nat.zero_add]

/-- The sender line leaves the labels of a recipient. -/
theorem renderSender_recipient (ui : Ui) : (renderSender ctx content ui).recipientContact = ui.recipientContact ∧
    (renderSender ctx content ui).recipientService = ui.recipientService := by
  unfold renderSender
  split <;> exact ⟨rfl, rfl⟩

/-- What is known of a transaction that was read. -/
structure Presentable (content : TxContent) (msg : Msg) : Prop where
  measured : TokensMeasured content
  bounded : content.DecimalsBounded
  named : content.contractType = .transfer ∨ (content.contractType = .triggerSmart ∧
    (content.trc20Method = 1 ∨ content.trc20Method = 2)) → content.NameEnds 0
  sized : content.contractType = .accountPermissionUpdate → msg.Sized

/-- The digits of a word. -/
theorem trc20Digits_decimal (content : TxContent) : content.trc20Digits = decimal (beNat content.trc20Amount.bytes) := by
  have few := (convertUint256BE content.trc20Amount.bytes).decimal_length
  rw [TxContent.trc20Digits, UInt256.tostring_fits _ (by omega), convertUint256BE_toNat content.trc20Amount.size.le]

/-- The fee limit. -/
theorem fee_screens (shown : Ui) {before : Buf 296} (short : tooLong content.feeLimit = false)
    (same : shown.strings = before.strcpy 122 (amountShown content.feeLimit 50 sunDig)) :
    (field "Max Fee" .maxFee).screens shown = [sumLine "Max Fee" content.feeLimit sunDig] := by
  obtain ⟨length, nonzero⟩ := shownAmount_fits short (show sunDig ≤ 18 by decide)
  refine text_screens (by simp) (by simp) ?_
  rw [Slot.shown, same, amountShown_eq short (by decide) (by decide)]
  exact Buf.str_strcpy _ 122 _ nonzero (by omega)

theorem hex32_text (n : UInt32) : (hex32 n).length = 8 ∧ ∀ c ∈ hex32 n, c ≠ 0 := by
  refine ⟨by simp [hex32], ?_⟩
  have digits : ∀ d < 16, hexDigit d ≠ 0 := by decide
  intro c among
  obtain ⟨i, -, rfl⟩ := List.mem_map.mp among
  exact digits _ (Nat.mod_lt _ (by decide))

/-- What a call moves. -/
theorem callValue_screens (bare : (Ui.putCall ctx content ui).recipientContact = none ∧
      (Ui.putCall ctx content ui).recipientService = none) (shows : CallShows ctx content ui kind shown) :
    (field "Pay Token" .toAddress).screens shown ++ (field "Call Amount" (.apduBuffer 0)).screens shown =
      callLines content := by
  obtain ⟨-, -, -, shortAmount, shortToken, -, shown_eq⟩ := shows
  have contact : shown.recipientContact = none := by
    rw [shown_eq, ← bare.1, Ui.putCallValue]
    split_ifs <;> rfl
  have service : shown.recipientService = none := by
    rw [shown_eq, ← bare.2, Ui.putCallValue]
    split_ifs <;> rfl
  have pays (text : Bytes) (same : Slot.toAddress.shown shown = text) := other_screens "Pay Token" contact service same
  rw [callLines]
  by_cases value : content.amount.first ≠ 0
  · rw [Ui.putCallValue, if_pos value] at shown_eq
    rw [if_pos value, pays (ascii "TRX") (by
        rw [shown_eq]
        exact Buf.str_strcpy _ 0 _ (by decide +kernel) (by decide)),
      text_screens (by simp) (by simp) (apdu_amount shortAmount (show sunDig ≤ 18 by decide) (by decide)
        (by rw [shown_eq]; rfl))]
    rfl
  rw [Ui.putCallValue, if_neg value] at shown_eq
  rw [if_neg value]
  by_cases tokens : content.callTokenValue ≠ 0
  · have label : (ascii "Token #" ++ signedDecimal content.callTokenId.toInt).length < 35 ∧
        ∀ c ∈ ascii "Token #" ++ signedDecimal content.callTokenId.toInt, c ≠ 0 := by
      have digits := signedDecimal_length content.callTokenId
      have lead : (ascii "Token #").length = 7 := by decide
      refine ⟨by rw [List.length_append]; omega, fun c among => ?_⟩
      rcases List.mem_append.mp among with among | among
      · exact (by decide +kernel : ∀ c ∈ ascii "Token #", c ≠ 0) c among
      · exact signedDecimal_nonzero _ c among
    rw [if_pos tokens] at shown_eq
    rw [if_pos tokens, pays (ascii "Token #" ++ signedDecimal content.callTokenId.toInt) (by
        rw [shown_eq]
        exact Buf.str_strlcpy _ 0 35 _ label.2 label.1 (by omega)),
      text_screens (by simp) (by simp) (apdu_amount shortToken (Nat.zero_le 18) (by decide)
        (by rw [shown_eq]; rfl))]
    rfl
  · rw [if_neg tokens] at shown_eq
    rw [if_neg tokens, pays (ascii "-") (by
        rw [shown_eq]
        exact Buf.str_strcpy _ 0 _ (by decide +kernel) (by decide)),
      text_screens (by simp) (by simp) (show Slot.shown shown (.apduBuffer 0) = ascii "0" by
        rw [shown_eq]
        exact Buf.str_strcpy _ 0 _ (by decide +kernel) (by decide))]
    rfl

/-- The id of an exchange stands where addresses do. -/
theorem exchangeId_screens (shown : Ui) {before : Buf 35} (short : tooLong content.exchangeID = false)
    (bare : shown.recipientContact = none ∧ shown.recipientService = none)
    (same : shown.toAddress = before.strcpy 0 (amountShown content.exchangeID 35 0)) :
    (field "Exchange ID" .toAddress).screens shown = [sumLine "Exchange ID" content.exchangeID 0] := by
  obtain ⟨length, nonzero⟩ := shownAmount_fits short (Nat.zero_le 18)
  refine other_screens _ bare.1 bare.2 ?_
  rw [Slot.shown, same, amountShown_eq short (Nat.zero_le 18) (by decide)]
  exact Buf.str_strcpy _ 0 _ nonzero (by omega)

/-- The resource of a contract. -/
theorem resource_screens (label : String) (same : shown.fullContract = (Ui.putResource content ui).fullContract) :
    (field label .fullContract).screens shown = [textLine label (resourceLabel content.resource)] := by
  refine text_screens (by simp) (by simp) ?_
  rw [Slot.shown, same]
  exact putResource_shown ui

theorem ResourceShows.amount {recipient : Address} {state : ApprovalState}
    (shows : ResourceShows ctx content recipient state ui kind shown) :
    (field "Amount" (.apduBuffer 0)).screens shown = [sumLine "Amount" content.amount.first sunDig] := by
  obtain ⟨-, short, shown_eq⟩ := shows
  exact text_screens (by simp) (by simp) (apdu_amount short (by decide) (by decide) (by rw [shown_eq]; rfl))

/-- The recipient `setRecipientAddress` leaves. -/
theorem setRecipientAddress_screens (encodes : ctx.sdk.EncodesBase58) {address : Address}
    (same : shown = setRecipientAddress ctx address ui) (mainnet : address.bytes.head? = some 0x41) (label : String) :
    (field label .toAddress).screens shown = partnerLines ctx.sdk ctx.contacts (ascii label) address :=
  partner_screens _ _ encodes mainnet rfl (by rw [same]; rfl) (by rw [same]; rfl) (by rw [same]; rfl)

/-- The fields of an entry are its lines. -/
theorem permissionFields_screens (sdk : Sdk σ κ) (e : Nat) (perm : Permission) :
    (permissionFields e (wholeEntry sdk perm)).flatMap (TagValue.screens shown) = grantLines sdk e perm := by
  have plain (item : Slot) (text : Bytes) : (⟨item, .text text, none⟩ : TagValue).screens shown =
      [⟨item.shown shown, text, none⟩] := by
    simp [TagValue.screens, TagValue.screened]
  simp only [permissionFields, wholeEntry, grantLines, List.flatMap_append, List.flatMap_cons, List.flatMap_nil, plain,
    List.flatMap_map, List.zipIdx_map]
  rw [List.map_eq_flatMap]
  rfl

theorem permissionUpdateFields_screens (sdk : Sdk σ κ) (slots : List (Option Permission)) :
    (permissionUpdateFields (slots.map (Option.map (wholeEntry sdk)))).flatMap (TagValue.screens shown) =
      slots.zipIdx.flatMap fun slot => slot.1.toList.flatMap (grantLines sdk slot.2) := by
  rw [permissionUpdateFields, List.flatMap_assoc, List.zipIdx_map, List.flatMap_map]
  apply List.flatMap_congr
  rintro ⟨slot, e⟩ -
  cases slot with
  | none => rfl
  | some perm =>
    change (permissionFields e (wholeEntry sdk perm)).flatMap (TagValue.screens shown) = _
    rw [permissionFields_screens]
    simp

section Kinds

variable (encodes : ctx.sdk.EncodesBase58)
  (sender : ∀ label, (field label .fromAddress).screens shown = [accountLine ctx.sdk ctx.contacts label content])

include sender

theorem ExchangeCreateShows.lines (shows : ExchangeCreateShows content ui kind shown)
    (type : content.contractType = .exchangeCreate) (measured : content.Measured 0 ∧ content.Measured 1)
    (bounded : content.DecimalsBounded) (bare : ui.recipientContact = none ∧ ui.recipientService = none) :
    (reviewFields kind content.contractType shown).flatMap (TagValue.screens shown) =
      screenLines ctx.sdk ctx.contacts content ctx.msg ctx.hash := by
  obtain ⟨rfl, fits, short, short', shown_eq⟩ := shows
  have few (i : Fin 2) := exchangeDecimals_few bounded i
  have token : (field "Token 1" .fullContract).screens shown = [textLine "Token 1" (content.tokenName 0)] := by
    refine text_screens (by simp) (by simp) ?_
    rw [shown_eq]
    exact copyTokenName_ends measured.1.ends _
  have amount : (field "Amount 1" (.apduBuffer 0)).screens shown =
      [sumLine "Amount 1" content.amount.first (exchangeDecimals content 0)] := by
    obtain ⟨length, -⟩ := shownAmount_fits short' (few 1)
    rw [← amountShown_eq short' (few 1) (show 35 ≤ 100 by decide)] at length
    exact text_screens (by simp) (by simp) (apdu_first short (few 0) length (by rw [shown_eq]; rfl))
  have token' : (field "Token 2" .toAddress).screens shown = [textLine "Token 2" (content.tokenName 1)] := by
    refine other_screens _ (by rw [shown_eq]; exact bare.1) (by rw [shown_eq]; exact bare.2) ?_
    rw [shown_eq]
    exact putSecondToken_shown measured.2 fits _
  have amount' : (field "Amount 2" (.apduBuffer 100)).screens shown =
      [sumLine "Amount 2" content.amount.second (exchangeDecimals content 1)] :=
    text_screens (by simp) (by simp) (apdu_amount short' (few 1) (by decide) (by rw [shown_eq]; rfl))
  simp only [reviewFields, screenLines, type, List.flatMap_cons, List.flatMap_nil, token, amount, token', amount',
    sender]
  simp

theorem ExchangeWithdrawInjectShows.lines (shows : ExchangeWithdrawInjectShows content ui kind shown)
    (type : content.contractType = .exchangeInject ∨ content.contractType = .exchangeWithdraw)
    (measured : content.Measured 0) (bounded : content.DecimalsBounded)
    (bare : ui.recipientContact = none ∧ ui.recipientService = none) :
    (reviewFields kind content.contractType shown).flatMap (TagValue.screens shown) =
      screenLines ctx.sdk ctx.contacts content ctx.msg ctx.hash := by
  obtain ⟨rfl, shortId, short, detail, named, shown_eq⟩ := shows
  have detailed : detail = ascii (if content.contractType = .exchangeInject then "inject" else "withdraw") := by
    rcases type with type | type
    all_goals
      rw [type] at named ⊢
      exact (Option.some.inj named).symm
  have written : detail.length ≤ 20 ∧ ∀ c ∈ detail, c ≠ 0 := by
    rw [detailed]
    split <;> decide +kernel
  have action : (field "Action" (.apduBuffer 100)).screens shown = [textLine "Action" detail] := by
    refine text_screens (by simp) (by simp) ?_
    rw [shown_eq]
    exact Buf.str_strcpy _ 100 _ written.2 (by omega)
  have token : (field "Token Name" .fullContract).screens shown = [textLine "Token Name" (content.tokenName 0)] := by
    refine text_screens (by simp) (by simp) ?_
    rw [shown_eq]
    exact copyTokenName_ends measured.ends _
  have amount : (field "Amount" (.apduBuffer 0)).screens shown =
      [sumLine "Amount" content.amount.first (exchangeDecimals content 0)] :=
    text_screens (by simp) (by simp) (apdu_first short (exchangeDecimals_few bounded 0) written.1
      (by rw [shown_eq]; rfl))
  have id := exchangeId_screens shown shortId (by rw [shown_eq]; exact bare) (by rw [shown_eq]; rfl)
  rcases type with type | type
  all_goals
    simp only [reviewFields, screenLines, type, List.flatMap_cons, List.flatMap_nil, action, id, token, amount, sender,
      detailed]
    simp

theorem ExchangeTransactionShows.lines (shows : ExchangeTransactionShows content ui kind shown)
    (type : content.contractType = .exchangeTransaction) (bounded : content.DecimalsBounded)
    (bare : ui.recipientContact = none ∧ ui.recipientService = none) :
    (reviewFields kind content.contractType shown).flatMap (TagValue.screens shown) =
      screenLines ctx.sdk ctx.contacts content ctx.msg ctx.hash := by
  obtain ⟨rfl, shortId, short, short', shown_eq⟩ := shows
  have few := UInt8.le_iff_toNat_le.mp bounded.1
  have few' := UInt8.le_iff_toNat_le.mp bounded.2
  have pair : (field "Token pair" .fullContract).screens shown =
      [textLine "Token pair" ((content.tokenName 0 ++ ascii " -> " ++ content.tokenName 1).take 66)] := by
    refine text_screens (by simp) (by simp) ?_
    rw [shown_eq]
    refine Buf.str_strlcpy_cut _ _ 66 (fun c among => ?_) (by decide)
    simp only [List.mem_append] at among
    obtain (among | among) | among := among
    · exact tokenName_nonzero content 0 c among
    · exact (by decide +kernel : ∀ c ∈ ascii " -> ", c ≠ 0) c among
    · exact tokenName_nonzero content 1 c among
  have amount : (field "Amount" (.apduBuffer 0)).screens shown =
      [sumLine "Amount" content.amount.first content.decimals.first.toNat] := by
    obtain ⟨length, -⟩ := shownAmount_fits short' few'
    rw [← amountShown_eq short' few' (show 35 ≤ 100 by decide)] at length
    exact text_screens (by simp) (by simp) (apdu_first short few length (by rw [shown_eq]; rfl))
  have expected : (field "Expected" (.apduBuffer 100)).screens shown =
      [sumLine "Expected" content.amount.second content.decimals.second.toNat] :=
    text_screens (by simp) (by simp) (apdu_amount short' few' (by decide) (by rw [shown_eq]; rfl))
  have id := exchangeId_screens shown shortId (by rw [shown_eq]; exact bare) (by rw [shown_eq]; rfl)
  simp only [reviewFields, screenLines, type, List.flatMap_cons, List.flatMap_nil, id, pair, amount, expected, sender]
  simp

theorem HashShows.lines (formats : ctx.sdk.FormatsHex) (shows : HashShows ctx content ui kind shown)
    (lines : screenLines ctx.sdk ctx.contacts content ctx.msg ctx.hash =
      [textLine "Hash" (ctx.sdk.hexText ctx.hash.bytes), accountLine ctx.sdk ctx.contacts "From" content]) :
    (reviewFields kind content.contractType shown).flatMap (TagValue.screens shown) =
      screenLines ctx.sdk ctx.contacts content ctx.msg ctx.hash := by
  obtain ⟨rfl, -, name, -, shown_eq⟩ := shows
  have hash : (field "Hash" .fullHash).screens shown = [textLine "Hash" (ctx.sdk.hexText ctx.hash.bytes)] := by
    refine text_screens (by simp) (by simp) ?_
    have same : shown.fullHash = ctx.sdk.putHex ui.fullHash 0 ctx.hash.bytes 65 := by
      rw [shown_eq]
      rfl
    rw [Slot.shown, same]
    exact formats.put_str _ 0 _ (by rw [ctx.hash.size]; decide) (by decide)
  rw [lines]
  simp only [reviewFields, List.flatMap_cons, List.flatMap_nil, hash, sender]
  simp

include encodes

theorem TransferShows.lines (shows : TransferShows ctx content ui kind shown)
    (type : content.contractType = .transfer ∨ content.contractType = .transferAsset) (named : content.NameEnds 0)
    (bounded : content.DecimalsBounded) (mainnet : content.destination.bytes.head? = some 0x41) :
    (reviewFields kind content.contractType shown).flatMap (TagValue.screens shown) =
      screenLines ctx.sdk ctx.contacts content ctx.msg ctx.hash := by
  obtain ⟨rfl, short, shown_eq⟩ := shows
  have few : (if content.contractType = .transfer then sunDig else content.decimals.first.toNat) ≤ 18 := by
    split
    · decide
    · exact UInt8.le_iff_toNat_le.mp bounded.1
  have amount : (field "Amount" (.apduBuffer 0)).screens shown = [sumLine "Amount" content.amount.first
      (if content.contractType = .transfer then sunDig else content.decimals.first.toNat)] :=
    text_screens (by simp) (by simp) (apdu_amount short few (by decide) (by rw [shown_eq]; rfl))
  have token : (field "Token" .fullContract).screens shown = [textLine "Token" (content.tokenName 0)] := by
    refine text_screens (by simp) (by simp) ?_
    rw [shown_eq]
    exact copyTokenName_ends named _
  have recipient := partner_screens shown ctx.contacts encodes mainnet
    (show Slot.trc20ActionSendAllow.shown shown = ascii "To" by
      rw [shown_eq]
      exact Buf.str_strcpy _ 0 _ (by decide +kernel) (by decide))
    (by rw [shown_eq]; rfl) (by rw [shown_eq]; rfl) (by rw [shown_eq]; rfl)
  rcases type with type | type
  all_goals
    rw [type] at amount ⊢
    simp only [reviewFields, screenLines, type, List.flatMap_append, List.flatMap_cons, List.flatMap_nil, amount,
      token, recipient, sender]
    simp

theorem TokenShows.lines (shows : TokenShows ctx content ui kind shown) (type : content.contractType = .triggerSmart)
    (known : content.trc20Method = 1 ∨ content.trc20Method = 2) (named : content.NameEnds 0)
    (mainnet : content.destination.bytes.head? = some 0x41) :
    (reviewFields kind content.contractType shown).flatMap (TagValue.screens shown) =
      screenLines ctx.sdk ctx.contacts content ctx.msg ctx.hash := by
  obtain ⟨rfl, -, -, short, text, before, adjusted, before_eq, shown_eq⟩ := shows
  have amount : (field "Amount" (.apduBuffer 0)).screens shown = [textLine "Amount"
      (canonicalDecimal (beNat content.trc20Amount.bytes) content.decimals.first.toNat)] := by
    refine text_screens (by simp) (by simp) ?_
    rw [trc20Digits_decimal, adjustDecimals_decimal] at adjusted
    split at adjusted
    · rename_i room
      obtain rfl := Option.some.inj adjusted
      have length := canonicalDecimal_length room
      rw [shown_eq]
      exact Buf.str_strcpy _ 0 _ (canonicalDecimal_nonzero _ _) (by omega)
    · simp at adjusted
  have token : (field "Token" .fullContract).screens shown = [textLine "Token" (content.tokenName 0)] := by
    refine text_screens (by simp) (by simp) ?_
    rw [shown_eq]
    exact copyTokenName_ends named _
  have action : Slot.trc20ActionSendAllow.shown shown =
      ascii (if content.trc20Method = 1 then "To" else "Allow") := by
    have same : shown.trc20ActionSendAllow = before.trc20ActionSendAllow := by
      rw [shown_eq]
      rfl
    rw [Slot.shown, same, before_eq]
    split
    · exact Buf.str_strcpy _ 0 _ (by decide +kernel) (by decide)
    · exact Buf.str_strcpy _ 0 _ (by decide +kernel) (by decide)
  have recipient := partner_screens shown ctx.contacts encodes mainnet action
    (by rw [shown_eq]; rfl) (by rw [shown_eq]; rfl) (by rw [shown_eq]; rfl)
  have fee := fee_screens shown short (by rw [shown_eq]; rfl)
  simp only [reviewFields, screenLines, type, if_true, if_pos known, List.flatMap_append, List.flatMap_cons,
    List.flatMap_nil, amount, token, recipient, sender, fee]
  simp

theorem CallShows.lines (shows : CallShows ctx content ui kind shown) (type : content.contractType = .triggerSmart)
    (unknown : ¬(content.trc20Method = 1 ∨ content.trc20Method = 2)) (bare : ui.recipientContact = none ∧
      ui.recipientService = none) (mainnet : content.contractAddress.bytes.head? = some 0x41) :
    (reviewFields kind content.contractType shown).flatMap (TagValue.screens shown) =
      screenLines ctx.sdk ctx.contacts content ctx.msg ctx.hash := by
  have value := callValue_screens bare shows
  obtain ⟨rfl, -, -, -, -, short, shown_eq⟩ := shows
  have kept : (Ui.putCallValue content (Ui.putCall ctx content ui)).fullContract =
        (Ui.putCall ctx content ui).fullContract ∧
      (Ui.putCallValue content (Ui.putCall ctx content ui)).trc20Action = (Ui.putCall ctx content ui).trc20Action ∧
      (Ui.putCallValue content (Ui.putCall ctx content ui)).strings = ui.strings := by
    rw [Ui.putCallValue]
    split_ifs <;> exact ⟨rfl, rfl, rfl⟩
  have contract : (field "Contract" .fullContract).screens shown =
      [textLine "Contract" (base58Check ctx.sdk content.contractAddress)] := by
    refine text_screens (by simp) (by simp) ?_
    have same : shown.fullContract = getBase58FromAddress ctx.sdk content.contractAddress ui.fullContract 0 := by
      rw [shown_eq]
      exact kept.1
    rw [Slot.shown, same, getBase58FromAddress_str encodes _ _ (by decide)]
    exact .inl (base58Check_mainnet mainnet)
  have selector : (field "Selector" .trc20Action).screens shown =
      [textLine "Selector" (hex32 content.customSelector)] := by
    refine text_screens (by simp) (by simp) ?_
    have same : shown.trc20Action = ui.trc20Action.strlcpy 0 (hex32 content.customSelector) 9 := by
      rw [shown_eq]
      exact kept.2.1
    obtain ⟨length, nonzero⟩ := hex32_text content.customSelector
    rw [Slot.shown, same]
    exact Buf.str_strlcpy _ 0 9 _ nonzero (by omega) (by omega)
  have fee := @fee_screens content shown ui.strings short (by
    rw [← kept.2.2, shown_eq]
    rfl)
  simp only [reviewFields, screenLines, type, if_neg unknown, List.flatMap_cons, List.flatMap_nil, contract, selector,
    sender, fee, ← value]
  simp

theorem VotesShow.lines (shows : VotesShow ctx content ui kind shown) (type : content.contractType = .voteWitness)
    (mainnet : ∀ vote ∈ content.votes.entries, vote.address.bytes.head? = .some 0x41) :
    (reviewFields kind content.contractType shown).flatMap (TagValue.screens shown) =
      screenLines ctx.sdk ctx.contacts content ctx.msg ctx.hash := by
  obtain ⟨rfl, -, positive, total, shown_eq⟩ := shows
  generalize cleared_eq : ({ ui with
    apduBuffer := ui.apduBuffer.write 0 (List.replicate 200 0)
    votesCount := content.votes.entries.length } : Ui) = cleared at shown_eq
  have few : 0 + content.votes.entries.length ≤ 5 := by
    rw [Nat.zero_add]
    exact content.votes.bounded
  have votes : ((List.range shown.votesCount).map voteField).flatMap (TagValue.screens shown) =
      content.votes.entries.map fun vote => ⟨base58Check ctx.sdk vote.address, shownCount vote.count, none⟩ := by
    have count : shown.votesCount = content.votes.entries.length := by
      rw [shown_eq]
      exact (votesCount_putVotes _ _ _).trans (by rw [← cleared_eq])
    rw [screens_plain (by simp [voteField]), List.map_map]
    apply List.ext_getElem
    · simp [count]
    intro i inside inside'
    rw [List.length_map] at inside'
    have own := positive _ (List.getElem_mem inside')
    have address : (Slot.apduBuffer (voteSlot i 0)).shown shown = base58Check ctx.sdk content.votes.entries[i].address := by
      obtain ⟨l, among, same, slot, lead, trail⟩ := (voteLines_mem ctx.sdk content.votes.entries 0
        cleared.fullContract).2 i inside'
      have exact := (voteLines_iff cleared encodes content.votes.entries 0 few
        (show shown.apduBuffer = _ by rw [shown_eq]; rfl) l among).mpr
        (.inl (base58Check_mainnet (same ▸ mainnet _ (List.getElem_mem inside'))))
      simpa [AddressLine.Exact, lead, trail, slot, same] using exact
    have counted : (Slot.apduBuffer (voteSlot i voteAmount)).shown shown =
        shownCount content.votes.entries[i].count := by
      have value := toUInt64_of_pos own
      have low := Int64.lt_iff_toInt_lt.mp own
      have text := putVotes_count ctx cleared content.votes.entries 0 few positive i inside'
      rw [Nat.zero_add, amountShown_count (by simp at low; omega)] at text
      rw [shown_eq]
      exact text
    simp [TagValue.screened, voteField, address, counted]
  have sum : (field "Total Vote Count" .fullContract).screens shown = [textLine "Total Vote Count"
      (decimal content.votes.entries.length ++ ascii ": " ++ decimal (totalCount content.votes.entries))] := by
    refine text_screens (by simp) (by simp) ?_
    have size : (decimal content.votes.entries.length).length ≤ 1 := (decimal_length_le (by decide)).mpr (by omega)
    have sized : (decimal (totalCount content.votes.entries)).length ≤ 20 :=
      (decimal_length_le (by decide)).mpr (total.trans (by decide))
    have middle : (ascii ": ").length = 2 := by decide
    rw [shown_eq]
    refine (putFullContract_shown (fun c among => ?_) _).mpr ?_
    · simp only [List.mem_append] at among
      obtain (among | among) | among := among
      · exact decimal_nonzero _ c among
      · exact (by decide +kernel : ∀ c ∈ ascii ": ", c ≠ 0) c among
      · exact decimal_nonzero _ c among
    · simp only [List.length_append]
      omega
  have fields : reviewFields .witnessVoteTransaction .voteWitness shown =
      (List.range shown.votesCount).map voteField ++ [field "Total Vote Count" .fullContract, field "From" .fromAddress] := rfl
  simp only [type, fields, screenLines, List.flatMap_append, List.flatMap_cons, List.flatMap_nil, votes, sum, sender]
  simp

/-- The contracts with a resource, an amount and a recipient. -/
theorem ResourceShows.lines {recipient : Address} {state : ApprovalState}
    (shows : ResourceShows ctx content recipient state ui kind shown) (mainnet : recipient.bytes.head? = some 0x41)
    (type : (content.contractType = .freezeBalance ∧ state = .freezeAssetTransaction ∧
        recipient = receiverOrOwner content) ∨
      (content.contractType = .freezeBalanceV2 ∧ state = .freezeAssetV2Transaction ∧ recipient = content.account) ∨
      (content.contractType = .unfreezeBalanceV2 ∧ state = .unfreezeAssetV2Transaction ∧
        recipient = content.account) ∨
      (content.contractType = .undelegateResource ∧ state = .undelegateResourceTransaction ∧
        recipient = content.destination)) :
    (reviewFields kind content.contractType shown).flatMap (TagValue.screens shown) =
      screenLines ctx.sdk ctx.contacts content ctx.msg ctx.hash := by
  have amount := shows.amount
  obtain ⟨rfl, -, shown_eq⟩ := shows
  have resource (label : String) := @resource_screens content ui shown label
    (by rw [shown_eq]; rfl)
  have partner := setRecipientAddress_screens encodes shown_eq mainnet
  obtain ⟨type, rfl, rfl⟩ | ⟨type, rfl, rfl⟩ | ⟨type, rfl, rfl⟩ | ⟨type, rfl, rfl⟩ := type
  all_goals
    simp only [reviewFields, screenLines, type, List.flatMap_cons, List.flatMap_nil, resource, amount, partner, sender]
    simp

theorem DelegateShows.lines (shows : DelegateShows ctx content ui kind shown)
    (type : content.contractType = .delegateResource) (mainnet : content.destination.bytes.head? = some 0x41) :
    (reviewFields kind content.contractType shown).flatMap (TagValue.screens shown) =
      screenLines ctx.sdk ctx.contacts content ctx.msg ctx.hash := by
  obtain ⟨rfl, short, shown_eq⟩ := shows
  have amount : (field "Amount" (.apduBuffer 0)).screens shown = [sumLine "Amount" content.amount.first sunDig] :=
    text_screens (by simp) (by simp) (apdu_amount short (by decide) (by decide) (by rw [shown_eq]; rfl))
  have lock : (field "Lock" (.apduBuffer 100)).screens shown =
      [textLine "Lock" (ascii (if content.customData = 0 then "False" else "True"))] := by
    obtain ⟨length, -⟩ := shownAmount_fits short (show sunDig ≤ 18 by decide)
    rw [← amountShown_eq short (by decide) (show 35 ≤ 100 by decide)] at length
    refine text_screens (by simp) (by simp) ?_
    have same : shown.apduBuffer = (ui.apduBuffer.strcpy 100
        (if content.customData = 0 then ascii "False" else ascii "True")).strcpy 0
          (amountShown content.amount.first 100 sunDig) := by
      rw [shown_eq]
      rfl
    rw [Slot.shown, same, Buf.strcpy, str_write_before _ _ _ (by simp; omega) (by simp; omega)]
    split
    · exact Buf.str_strcpy _ 100 _ (by decide +kernel) (by decide)
    · exact Buf.str_strcpy _ 100 _ (by decide +kernel) (by decide)
  have resource := @resource_screens content ui shown "Resource" (by rw [shown_eq]; rfl)
  have partner := setRecipientAddress_screens encodes shown_eq mainnet
  simp only [reviewFields, screenLines, type, List.flatMap_cons, List.flatMap_nil, resource, amount, lock, partner,
    sender]
  simp

theorem RecipientShows.lines {recipient : Address} {state : ApprovalState} {write : Ui → Ui}
    (shows : RecipientShows ctx recipient state write ui kind shown)
    (type : (content.contractType = .unfreezeBalance ∧ state = .unfreezeAssetTransaction ∧
        write = Ui.putResource content ∧ recipient = receiverOrOwner content ∧
        recipient.bytes.head? = some 0x41) ∨
      (content.contractType = .withdrawExpireUnfreeze ∧ state = .withdrawExpireUnfreezeTransaction) ∨
      (content.contractType = .withdrawBalance ∧ state = .withdrawBalanceTransaction)) :
    (reviewFields kind content.contractType shown).flatMap (TagValue.screens shown) =
      screenLines ctx.sdk ctx.contacts content ctx.msg ctx.hash := by
  obtain ⟨rfl, shown_eq⟩ := shows
  obtain ⟨type, rfl, rfl, rfl, mainnet⟩ | ⟨type, rfl⟩ | ⟨type, rfl⟩ := type
  · have resource := @resource_screens content ui shown "Resource"
      (by rw [shown_eq]; rfl)
    have partner := setRecipientAddress_screens encodes shown_eq mainnet
    simp only [reviewFields, screenLines, type, List.flatMap_cons, List.flatMap_nil, resource, partner, sender]
    simp
  all_goals
    simp only [reviewFields, screenLines, type, List.flatMap_cons, List.flatMap_nil, sender]
    simp

theorem PermissionShows.lines (formats : ctx.sdk.FormatsHex) (shows : PermissionShows ctx ui kind shown)
    (type : content.contractType = .accountPermissionUpdate) (sized : ctx.msg.Sized) (mainnet : ctx.msg.Mainnet) :
    (reviewFields kind content.contractType shown).flatMap (TagValue.screens shown) =
      screenLines ctx.sdk ctx.contacts content ctx.msg ctx.hash := by
  have entries := shows.entries encodes formats sized mainnet
  obtain ⟨rfl, -⟩ := shows
  have fields : reviewFields .permissionUpdate content.contractType shown =
      field "From" .fromAddress :: permissionUpdateFields shown.permissionEntries := rfl
  rw [fields, List.flatMap_cons, sender, entries, permissionUpdateFields_screens]
  simp only [screenLines, type]
  rfl

end Kinds

/-- **The lines of a review of a contract**, where it shows addresses of the network. -/
theorem ContractShows.lines (encodes : ctx.sdk.EncodesBase58) (formats : ctx.sdk.FormatsHex)
    (shows : ContractShows ctx content ui kind shown)
    (sender : ∀ label, (field label .fromAddress).screens shown = [accountLine ctx.sdk ctx.contacts label content])
    (presentable : Presentable content ctx.msg) (bare : ui.recipientContact = none ∧ ui.recipientService = none)
    (mainnet : ∀ a ∈ shownAddresses content ctx.msg, a.bytes.head? = some 0x41) :
    (reviewFields kind content.contractType shown).flatMap (TagValue.screens shown) =
      screenLines ctx.sdk ctx.contacts content ctx.msg ctx.hash := by
  obtain ⟨measured, bounded, named, sized⟩ := presentable
  unfold ContractShows at shows
  unfold TokensMeasured at measured
  unfold shownAddresses at mainnet
  simp only [List.forall_mem_cons] at mainnet
  obtain ⟨account, mainnet⟩ := mainnet
  split at shows
  case h_19 =>
    refine shows.lines sender formats ?_
    unfold screenLines
    split <;> first | contradiction | rfl
  all_goals rename_i type; simp only [type] at mainnet
  case h_1 => exact shows.lines encodes sender (.inl type) (named (.inl type)) bounded (mainnet _ (by simp))
  case h_2 =>
    have own := (measured (0, 1) (by simp [tokenFields, type])).ends
    exact shows.lines encodes sender (.inr type) own bounded (mainnet _ (by simp))
  case h_3 =>
    split at shows
    · rename_i known
      exact shows.lines encodes sender type known (named (.inr ⟨type, known⟩)) (mainnet _ (by simp [known]))
    · rename_i unknown
      exact shows.lines encodes sender type unknown bare (mainnet _ (by simp [unknown]))
  case h_4 =>
    have first := measured (0, 2) (by simp [tokenFields, type])
    have second := measured (1, 4) (by simp [tokenFields, type])
    exact shows.lines sender type ⟨first, second⟩ bounded bare
  case h_5 => exact shows.lines sender (.inl type) (measured (0, 3) (by simp [tokenFields, type])) bounded bare
  case h_6 => exact shows.lines sender (.inr type) (measured (0, 3) (by simp [tokenFields, type])) bounded bare
  case h_7 => exact shows.lines sender type bounded bare
  case h_8 => exact shows.lines encodes sender type fun vote among => mainnet _ (List.mem_map_of_mem among)
  case h_9 => exact shows.lines encodes sender (mainnet _ (by simp)) (.inl ⟨type, rfl, rfl⟩)
  case h_10 => exact shows.lines encodes sender (.inl ⟨type, rfl, rfl, rfl, mainnet _ (by simp)⟩)
  case h_11 => exact shows.lines encodes sender account (.inr (.inl ⟨type, rfl, rfl⟩))
  case h_12 => exact shows.lines encodes sender account (.inr (.inr (.inl ⟨type, rfl, rfl⟩)))
  case h_13 => exact shows.lines encodes sender type (mainnet _ (by simp))
  case h_14 => exact shows.lines encodes sender (mainnet _ (by simp)) (.inr (.inr (.inr ⟨type, rfl, rfl⟩)))
  case h_15 => exact shows.lines encodes sender (.inr (.inl ⟨type, rfl⟩))
  case h_16 => exact shows.lines encodes sender (.inr (.inr ⟨type, rfl⟩))
  case h_17 =>
    refine shows.lines encodes sender formats type (sized type) fun slot among perm present key within => mainnet _ ?_
    obtain rfl := Option.mem_def.mp present
    exact List.mem_flatMap.mpr ⟨_, among, by simpa using ⟨key, within, rfl⟩⟩
  case h_18 => exact shows.elim

/-- The lines of a transaction that is rendered without labels. -/
theorem TransactionShows.lines {before : Ui} (encodes : ctx.sdk.EncodesBase58) (formats : ctx.sdk.FormatsHex)
    (shows : TransactionShows ctx content before kind shown) (recipient : before.recipientContact = none)
    (account : before.senderContact = none) (service : before.recipientService = none)
    (presentable : Presentable content ctx.msg)
    (mainnet : ∀ a ∈ shownAddresses content ctx.msg, a.bytes.head? = some 0x41) :
    (reviewFields kind content.contractType shown).flatMap (TagValue.screens shown) =
      screenLines ctx.sdk ctx.contacts content ctx.msg ctx.hash := by
  have sender := account_screens encodes shows account (mainnet _ List.mem_cons_self)
  obtain ⟨contact, serving⟩ := @renderSender_recipient _ _ ctx content before
  exact shows.contract.lines encodes formats sender presentable ⟨contact.trans recipient, serving.trans service⟩ mainnet

end Contracts

end TronLedger
