import TronLedger.SignSteps

/-!
# What a rendering leaves on the screen

The display buffers of a review, in terms of the transaction and of the buffers before.

* `ContractShows` lists, for every contract, the kind of its review, the checks it passed and
  the writes that led to the buffers shown.
* `Renders.shows` is the inversion every result about a displayed field starts from.
-/

namespace TronLedger

/-- The text `print_amount` leaves for an amount it prints. -/
def amountShown (amount : UInt64) (outlen sun : Nat) : Bytes :=
  fitted outlen (adjustDecimals (amountText amount) 25 sun)

/-- What is claimed of a review that is started; other verdicts start none. -/
def Verdict.Displays (shows : ApprovalState → Ui → Prop) (verdict : Verdict) (ui : Ui) : Prop :=
  ∀ kind, verdict = .display kind → shows kind ui

/-- A rendering from the buffers `ui` starts reviews only as claimed. -/
def Render.Displays (r : Render Verdict) (ui : Ui) (shows : ApprovalState → Ui → Prop) : Prop :=
  wp r (Verdict.Displays shows) (Verdict.Displays shows) ui

section Displays

variable {shows : ApprovalState → Ui → Prop} {ui : Ui}

@[simp] theorem displays_refuse (sw : Sw) : (Verdict.refuse sw).Displays shows ui := by
  simp [Verdict.Displays]

@[simp] theorem displays_thrown (e : Sw) : (Verdict.thrown e).Displays shows ui := by
  simp [Verdict.Displays]

@[simp] theorem displays_swapSign : Verdict.swapSign.Displays shows ui := by
  simp [Verdict.Displays]

@[simp] theorem displays_display (kind : ApprovalState) :
    (Verdict.display kind).Displays shows ui ↔ shows kind ui := by
  simp [Verdict.Displays]

theorem Verdict.Displays.mono {shows' : ApprovalState → Ui → Prop} {verdict : Verdict}
    (h : verdict.Displays shows ui) (le : ∀ kind, shows kind ui → shows' kind ui) :
    verdict.Displays shows' ui :=
  fun kind same => le kind (h kind same)

theorem Render.Displays.mono {r : Render Verdict} {shows' : ApprovalState → Ui → Prop}
    (h : r.Displays ui shows) (le : ∀ kind shown, shows kind shown → shows' kind shown) :
    r.Displays ui shows' :=
  wp_mono h (fun _ _ displays => displays.mono fun kind => le kind _)
    fun _ _ displays => displays.mono fun kind => le kind _

end Displays

section Contracts

variable {σ κ : Type} (ctx : RenderContext σ κ) (content : TxContent)

/-- The action line of a transfer. -/
def Ui.putAction (action : Bytes) (ui : Ui) : Ui :=
  { ui with trc20ActionSendAllow := ui.trc20ActionSendAllow.strcpy 0 action }

def Ui.putTrc20Action (action : Bytes) (ui : Ui) : Ui :=
  { ui with trc20Action := ui.trc20Action.strcpy 0 action }

/-- The recipient and the token of a transfer, behind its amount. -/
def Ui.putTransfer (ui : Ui) : Ui :=
  Ui.copyTokenName content (setRecipientAddress ctx content.destination ui)

/-- A transfer of TRX or a TRC10 token. -/
structure TransferShows (ui : Ui) (kind : ApprovalState) (shown : Ui) : Prop where
  kind_eq : kind = .transfer
  short : tooLong content.amount.first = false
  shown_eq : shown = Ui.putTransfer ctx content (Ui.putApdu 0 (amountShown content.amount.first 100
    (if content.contractType = .transfer then sunDig else content.decimals.first.toNat))
    (Ui.putAction (ascii "To") ui))

/-- A transfer or an approval of a known TRC20 token. -/
structure TokenShows (ui : Ui) (kind : ApprovalState) (shown : Ui) : Prop where
  kind_eq : kind = .transfer
  noAmount : content.amount.first = 0
  noToken : content.callTokenValue = 0
  short : tooLong content.feeLimit = false
  shown_eq : ∃ text before, adjustDecimals content.trc20Digits 100 content.decimals.first.toNat =
      some text ∧
    before = (if content.trc20Method = 1 then Ui.putTrc20Action (ascii "Asset") (Ui.putAction (ascii "To") ui)
      else Ui.putTrc20Action (ascii "Approve") (Ui.putAction (ascii "Allow") (Ui.putAction (ascii "To") ui))) ∧
    shown = Ui.putMaxFee (amountShown content.feeLimit 50 sunDig)
      (Ui.putTransfer ctx content (Ui.putApdu 0 text (Ui.putApdu 100 content.trc20Digits before)))

/-- The contract and the selector of a call. -/
def Ui.putCall (ui : Ui) : Ui :=
  { ui with
    customContractField := 1
    fullContract := getBase58FromAddress ctx.sdk content.contractAddress ui.fullContract 0
    trc20Action := ui.trc20Action.strlcpy 0 (hex32 content.customSelector) 9
    apduBuffer := (ui.apduBuffer.write 0 [0]).write 100 [0]
    toAddress := ui.toAddress.write 0 [0] }

/-- The review says that a call moves a value. -/
def Ui.markValue (ui : Ui) : Ui := { ui with customContractField := ui.customContractField ||| 0x60 }

/-- What a call moves. -/
def Ui.putCallValue (ui : Ui) : Ui :=
  if content.amount.first ≠ 0 then
    Ui.markValue (Ui.putApdu 0 (amountShown content.amount.first 100 sunDig)
      (Ui.putToAddress (ascii "TRX") ui))
  else if content.callTokenValue ≠ 0 then
    Ui.markValue (Ui.putApdu 0 (amountShown content.callTokenValue.toUInt64 100 0)
      { ui with toAddress :=
        ui.toAddress.strlcpy 0 (ascii "Token #" ++ signedDecimal content.callTokenId.toInt) 35 })
  else Ui.putApdu 0 (ascii "0") (Ui.putToAddress (ascii "-") ui)

/-- A call of another contract. -/
structure CallShows (ui : Ui) (kind : ApprovalState) (shown : Ui) : Prop where
  kind_eq : kind = .customContract
  allowed : ctx.settings.customContract = true
  oneValue : content.amount.first = 0 ∨ content.callTokenValue = 0
  shortAmount : tooLong content.amount.first = false
  shortToken : tooLong content.callTokenValue.toUInt64 = false
  short : tooLong content.feeLimit = false
  shown_eq : shown = Ui.putMaxFee (amountShown content.feeLimit 50 sunDig)
    (Ui.putCallValue content (Ui.putCall ctx content ui))

/-- The second token of a new exchange stands where addresses do. -/
def Ui.putSecondToken (ui : Ui) : Ui :=
  let name := content.tokenNames.second.bytes.take (content.tokenNamesLength.second.toNat + 1)
  { ui with toAddress := ui.toAddress.write 0 name }

structure ExchangeCreateShows (ui : Ui) (kind : ApprovalState) (shown : Ui) : Prop where
  kind_eq : kind = .exchangeCreate
  fits : content.tokenNamesLength.second.toNat + 1 ≤ 35
  short : tooLong content.amount.first = false
  shortSecond : tooLong content.amount.second = false
  shown_eq : shown = Ui.putApdu 100 (amountShown content.amount.second 100 (exchangeDecimals content 1))
    (Ui.putApdu 0 (amountShown content.amount.first 100 (exchangeDecimals content 0))
      (Ui.putSecondToken content (Ui.copyTokenName content ui)))

structure ExchangeWithdrawInjectShows (ui : Ui) (kind : ApprovalState) (shown : Ui) : Prop where
  kind_eq : kind = .exchangeWithdrawInject
  shortId : tooLong content.exchangeID = false
  short : tooLong content.amount.first = false
  shown_eq : ∃ detail, exchangeContractDetail content.contractType = some detail ∧
    shown = Ui.putApdu 100 detail
      (Ui.putApdu 0 (amountShown content.amount.first 100 (exchangeDecimals content 0))
        (Ui.putToAddress (amountShown content.exchangeID 35 0) (Ui.copyTokenName content ui)))

structure ExchangeTransactionShows (ui : Ui) (kind : ApprovalState) (shown : Ui) : Prop where
  kind_eq : kind = .exchangeTransaction
  shortId : tooLong content.exchangeID = false
  short : tooLong content.amount.first = false
  shortSecond : tooLong content.amount.second = false
  shown_eq : shown =
    Ui.putApdu 100 (amountShown content.amount.second 100 content.decimals.second.toNat)
      (Ui.putApdu 0 (amountShown content.amount.first 100 content.decimals.first.toNat)
        (Ui.putToAddress (amountShown content.exchangeID 35 0)
          (Ui.putFullContract (content.tokenName 0 ++ ascii " -> " ++ content.tokenName 1) ui)))

/-- The slots of one vote. -/
def Ui.putVote (index : Nat) (vote : VoteEntry) (ui : Ui) : Ui :=
  let fullContract := getBase58FromAddress ctx.sdk vote.address ui.fullContract 0
  Ui.putApdu (voteSlot index voteAmount) (amountShown vote.count.toUInt64 15 0)
    { ui with
      fullContract := fullContract
      apduBuffer := (ui.apduBuffer.write (voteSlot index 0) (List.replicate 50 0)).write
        (voteSlot index 0) (fullContract.bytes.take 35) }

/-- The slots of the votes from `index` on. -/
def Ui.putVotes : List VoteEntry → Nat → Ui → Ui
  | [], _, ui => ui
  | vote :: votes, index, ui => Ui.putVotes votes (index + 1) (Ui.putVote ctx index vote ui)

/-- The sum of the counts. -/
def totalCount (votes : List VoteEntry) : Nat := (votes.map fun vote => vote.count.toUInt64.toNat).sum

structure VotesShow (ui : Ui) (kind : ApprovalState) (shown : Ui) : Prop where
  kind_eq : kind = .witnessVoteTransaction
  some : content.votes.entries ≠ []
  positive : ∀ vote ∈ content.votes.entries, 0 < vote.count
  total : totalCount content.votes.entries < 2 ^ 64
  shown_eq : shown = Ui.putFullContract (decimal content.votes.entries.length ++ ascii ": " ++
      decimal (totalCount content.votes.entries))
    (Ui.putVotes ctx content.votes.entries 0 { ui with
      apduBuffer := ui.apduBuffer.write 0 (List.replicate 200 0)
      votesCount := content.votes.entries.length })

/-- A resource, an amount and a recipient. -/
structure ResourceShows (recipient : Address) (state : ApprovalState) (ui : Ui) (kind : ApprovalState)
    (shown : Ui) : Prop where
  kind_eq : kind = state
  short : tooLong content.amount.first = false
  shown_eq : shown = setRecipientAddress ctx recipient
    (Ui.putApdu 0 (amountShown content.amount.first 100 sunDig) (Ui.putResource content ui))

structure DelegateShows (ui : Ui) (kind : ApprovalState) (shown : Ui) : Prop where
  kind_eq : kind = .delegateResourceTransaction
  short : tooLong content.amount.first = false
  shown_eq : shown = setRecipientAddress ctx content.destination
    (Ui.putApdu 0 (amountShown content.amount.first 100 sunDig)
      (Ui.putApdu 100 (if content.customData = 0 then ascii "False" else ascii "True")
        (Ui.putResource content ui)))

/-- A review with a recipient and no amount. -/
structure RecipientShows (recipient : Address) (state : ApprovalState) (write : Ui → Ui) (ui : Ui)
    (kind : ApprovalState) (shown : Ui) : Prop where
  kind_eq : kind = state
  shown_eq : shown = setRecipientAddress ctx recipient (write ui)

structure PermissionShows (ui : Ui) (kind : ApprovalState) (shown : Ui) : Prop where
  kind_eq : kind = .permissionUpdate
  shown_eq : ∃ entries, (permissionUpdateSlots ctx.msg).mapIdx
      (fun index slot => slot.map (permissionEntry ctx index)) =
        entries.map (fun entry => entry.map some) ∧
    shown = { ui with permissionEntries := entries }

/-- A contract shown by its hash. -/
structure HashShows (ui : Ui) (kind : ApprovalState) (shown : Ui) : Prop where
  kind_eq : kind = .simpleTransaction
  allowed : ctx.settings.signByHash = true
  shown_eq : ∃ name, contractTypeName content.contractType = some name ∧
    shown = Ui.putFullContract name
      { ui with fullHash := ctx.sdk.putHex ui.fullHash 0 ctx.hash.bytes 65 }

/-- The review of each contract. -/
def ContractShows (ui : Ui) (kind : ApprovalState) (shown : Ui) : Prop :=
  match content.contractType with
  | .transfer | .transferAsset => TransferShows ctx content ui kind shown
  | .triggerSmart =>
    if content.trc20Method = 1 ∨ content.trc20Method = 2 then TokenShows ctx content ui kind shown
    else CallShows ctx content (Ui.putAction (ascii "To") ui) kind shown
  | .exchangeCreate => ExchangeCreateShows content ui kind shown
  | .exchangeInject | .exchangeWithdraw => ExchangeWithdrawInjectShows content ui kind shown
  | .exchangeTransaction => ExchangeTransactionShows content ui kind shown
  | .voteWitness => VotesShow ctx content ui kind shown
  | .freezeBalance =>
    ResourceShows ctx content (receiverOrOwner content) .freezeAssetTransaction ui kind shown
  | .unfreezeBalance => RecipientShows ctx (receiverOrOwner content) .unfreezeAssetTransaction
      (Ui.putResource content) ui kind shown
  | .freezeBalanceV2 =>
    ResourceShows ctx content content.account .freezeAssetV2Transaction ui kind shown
  | .unfreezeBalanceV2 =>
    ResourceShows ctx content content.account .unfreezeAssetV2Transaction ui kind shown
  | .delegateResource => DelegateShows ctx content ui kind shown
  | .undelegateResource =>
    ResourceShows ctx content content.destination .undelegateResourceTransaction ui kind shown
  | .withdrawExpireUnfreeze =>
    RecipientShows ctx content.account .withdrawExpireUnfreezeTransaction id ui kind shown
  | .withdrawBalance =>
    RecipientShows ctx content.account .withdrawBalanceTransaction id ui kind shown
  | .accountPermissionUpdate => PermissionShows ctx ui kind shown
  | .invalidContract => False
  | _ => HashShows ctx content ui kind shown

theorem displays_printAmount {put : Bytes → Ui → Ui} {amount : UInt64} {outlen sun : Nat} {ui : Ui}
    {post : Unit → Ui → Prop} {shows : ApprovalState → Ui → Prop} :
    wp (Render.printAmount put amount outlen sun) post (Verdict.Displays shows) ui ↔
      (tooLong amount = false → post () (put (amountShown amount outlen sun) ui)) := by
  simp [amountShown]

variable {ctx content}

/-- The last steps of a transfer. -/
theorem finishTransfer_displays {ui : Ui} : Render.Displays (finishTransfer ctx content) ui
    fun kind shown => kind = .transfer ∧
      if content.contractType = .triggerSmart then
        tooLong content.feeLimit = false ∧ shown =
          Ui.putMaxFee (amountShown content.feeLimit 50 sunDig) (Ui.putTransfer ctx content ui)
      else shown = Ui.putTransfer ctx content ui := by
  unfold Render.Displays finishTransfer
  simp only [wp_bind, wp_modify, wp_ite, displays_printAmount, wp_refuse, wp_get, wp_pure,
    displays_refuse, displays_swapSign, displays_display, implies_true, and_true, true_and]
  refine ⟨fun type short _ => ?_, fun type _ => ?_⟩
  · rw [if_pos type]
    exact ⟨short, rfl⟩
  · rw [if_neg type]
    rfl

theorem renderTransfer_displays
    (type : content.contractType = .transfer ∨ content.contractType = .transferAsset) {ui : Ui} :
    Render.Displays (renderTransfer ctx content) ui (TransferShows ctx content ui) := by
  have notSmart : content.contractType ≠ .triggerSmart := by rcases type with type | type <;> simp [type]
  unfold Render.Displays renderTransfer
  simp only [wp_bind, wp_modify, displays_printAmount]
  intro short
  refine finishTransfer_displays.mono ?_
  rintro kind shown ⟨rfl, shown_eq⟩
  rw [if_neg notSmart] at shown_eq
  exact ⟨rfl, short, shown_eq⟩

variable (ctx) in
theorem renderTrc20_displays (type : content.contractType = .triggerSmart) (ui : Ui) {before : Ui}
    (written : before =
      (if content.trc20Method = 1 then
        Ui.putTrc20Action (ascii "Asset") (Ui.putAction (ascii "To") ui)
      else Ui.putTrc20Action (ascii "Approve")
        (Ui.putAction (ascii "Allow") (Ui.putAction (ascii "To") ui)))) :
    Render.Displays (do renderTrc20Amount content; finishTransfer ctx content) before
      (TokenShows ctx content ui) := by
  unfold Render.Displays renderTrc20Amount
  simp only [wp_bind, wp_ite, wp_refuse, wp_modify, displays_refuse, implies_true, true_and]
  intro still
  simp only [not_or, not_not] at still
  split
  · simp
  · rename_i text printable
    rw [wp_modify]
    refine finishTransfer_displays.mono ?_
    rintro kind shown ⟨rfl, shown_eq⟩
    rw [if_pos type] at shown_eq
    exact ⟨rfl, still.1, still.2, shown_eq.1, text, before, printable, written, shown_eq.2⟩

theorem renderCustomContract_displays {ui : Ui} :
    Render.Displays (renderCustomContract ctx content) ui (CallShows ctx content ui) := by
  unfold Render.Displays renderCustomContract
  simp only [wp_bind, wp_modify, wp_ite, displays_printAmount, wp_refuse, wp_pure, displays_refuse,
    displays_display, implies_true, true_and]
  intro on one
  have allowed : ctx.settings.customContract = true := by simpa using on
  have oneValue : content.amount.first = 0 ∨ content.callTokenValue = 0 := by tauto
  refine ⟨fun some short fee => ?_, fun noAmount => ⟨fun some short fee => ?_, fun noToken fee => ?_⟩⟩
  · have noToken : content.callTokenValue = 0 := by tauto
    refine ⟨rfl, allowed, oneValue, short, by rw [noToken]; decide, fee, ?_⟩
    rw [Ui.putCallValue, if_pos some]
    rfl
  · have noAmount : content.amount.first = 0 := by tauto
    refine ⟨rfl, allowed, oneValue, by rw [noAmount]; decide, short, fee, ?_⟩
    rw [Ui.putCallValue, if_neg (by simp [noAmount]), if_pos some]
    rfl
  · have noAmount : content.amount.first = 0 := by tauto
    have noToken : content.callTokenValue = 0 := by tauto
    refine ⟨rfl, allowed, oneValue, by rw [noAmount]; decide, by rw [noToken]; decide, fee, ?_⟩
    rw [Ui.putCallValue, if_neg (by simp [noAmount]), if_neg (by simp [noToken])]
    rfl

theorem renderExchangeCreate_displays {ui : Ui} :
    Render.Displays (renderExchangeCreate content) ui (ExchangeCreateShows content ui) := by
  unfold Render.Displays renderExchangeCreate
  simp only [wp_bind, wp_modify, wp_ite, displays_printAmount, wp_refuse, wp_pure, displays_refuse,
    displays_display, implies_true, true_and]
  intro fits short shortSecond
  exact ⟨rfl, by omega, short, shortSecond, rfl⟩

theorem renderExchangeWithdrawInject_displays {ui : Ui} :
    Render.Displays (renderExchangeWithdrawInject content) ui
      (ExchangeWithdrawInjectShows content ui) := by
  unfold Render.Displays renderExchangeWithdrawInject
  simp only [wp_bind, wp_modify, displays_printAmount]
  intro shortId short
  split
  · exact displays_refuse _
  · rename_i detail known
    refine (displays_display _).mpr ?_
    exact ⟨rfl, shortId, short, detail, known, rfl⟩

theorem renderExchangeTransaction_displays {ui : Ui} :
    Render.Displays (renderExchangeTransaction content) ui (ExchangeTransactionShows content ui) := by
  unfold Render.Displays renderExchangeTransaction
  simp only [wp_bind, wp_modify, displays_printAmount, wp_pure, displays_display]
  intro shortId short shortSecond
  exact ⟨rfl, shortId, short, shortSecond, rfl⟩

theorem renderResource_displays {recipient : Address} {state : ApprovalState} {ui : Ui} :
    Render.Displays (renderResource ctx content recipient state) ui
      (ResourceShows ctx content recipient state ui) := by
  unfold Render.Displays renderResource
  simp only [wp_bind, wp_modify, displays_printAmount, wp_pure, displays_display]
  exact fun short => ⟨rfl, short, rfl⟩

theorem renderDelegateResource_displays {ui : Ui} :
    Render.Displays (renderDelegateResource ctx content) ui (DelegateShows ctx content ui) := by
  unfold Render.Displays renderDelegateResource
  simp only [wp_bind, wp_modify, displays_printAmount, wp_pure, displays_display]
  exact fun short => ⟨rfl, short, rfl⟩

theorem renderByHash_displays {ui : Ui} :
    Render.Displays (renderByHash ctx content) ui (HashShows ctx content ui) := by
  unfold Render.Displays renderByHash
  simp only [wp_bind, wp_modify, wp_ite, wp_refuse, displays_refuse, implies_true, true_and]
  intro on
  split
  · exact displays_refuse _
  · rename_i name known
    refine (displays_display _).mpr ?_
    exact ⟨rfl, by simpa using on, name, known, rfl⟩

/-- A rendering of permission slots ends with the entries they fill. -/
theorem renderPermissionEntries_fills (slots : List (Option Permission)) (index : Nat) (ui : Ui)
    (shows : ApprovalState → Ui → Prop) :
    wp (renderPermissionEntries ctx slots index)
      (fun entries ui' => ui' = ui ∧
        slots.mapIdx (fun i slot => slot.map (permissionEntry ctx (index + i))) =
          entries.map fun entry => entry.map some) (Verdict.Displays shows) ui := by
  induction slots generalizing index with
  | nil => exact ⟨rfl, rfl⟩
  | cons slot slots ih =>
    have ih := ih (index + 1)
    have shift : (fun i (slot : Option Permission) => slot.map (permissionEntry ctx (index + (i + 1)))) =
        fun i slot => slot.map (permissionEntry ctx (index + 1 + i)) := by
      funext i slot
      rw [Nat.add_assoc, Nat.add_comm 1 i]
    cases slot with
    | none =>
      simp only [renderPermissionEntries, wp_bind, wp_pure]
      refine wp_mono ih ?_ fun _ _ stopped => stopped
      rintro entries _ ⟨rfl, filled⟩
      exact ⟨rfl, by rw [List.mapIdx_cons, shift, filled]; rfl⟩
    | some perm =>
      simp only [renderPermissionEntries]
      cases entry : permissionEntry ctx index perm with
      | none => simp
      | some shown =>
        simp only [wp_bind, wp_pure]
        refine wp_mono ih ?_ fun _ _ stopped => stopped
        rintro entries _ ⟨rfl, filled⟩
        exact ⟨rfl, by rw [List.mapIdx_cons, shift, filled, Nat.add_zero, Option.map_some, entry]; rfl⟩

theorem renderPermissionUpdate_displays {ui : Ui} :
    Render.Displays (renderPermissionUpdate ctx) ui (PermissionShows ctx ui) := by
  unfold Render.Displays renderPermissionUpdate
  simp only [wp_bind, wp_ite, wp_refuse, displays_refuse, implies_true, true_and, wp_modify, wp_pure,
    displays_display]
  intro _
  refine wp_mono (renderPermissionEntries_fills _ 0 ui _) ?_ fun _ _ stopped => stopped
  rintro entries _ ⟨rfl, filled⟩
  exact ⟨rfl, entries, by simpa using filled, rfl⟩

/-- A count that passes the check of the loop does not overflow the sum. -/
theorem room_of_check {total count : UInt64} (room : ¬0xFFFFFFFFFFFFFFFF - total < count) :
    total.toNat + count.toNat < 2 ^ 64 := by
  have bound := total.toNat_lt
  have top : (0xFFFFFFFFFFFFFFFF : UInt64).toNat = 2 ^ 64 - 1 := by decide
  have le : total ≤ 0xFFFFFFFFFFFFFFFF := by
    rw [UInt64.le_iff_toNat_le, top]
    omega
  rw [UInt64.not_lt, UInt64.le_iff_toNat_le, UInt64.toNat_sub_of_le _ _ le, top] at room
  omega

/-- The slots of the votes are filled one after the other; every count is positive, and their
sum fits. -/
theorem renderVotes_fills (votes : List VoteEntry) (index : Nat) (total : UInt64) (ui : Ui)
    (shows : ApprovalState → Ui → Prop) :
    wp (renderVotes ctx votes index total)
      (fun sum ui' => ui' = Ui.putVotes ctx votes index ui ∧ (∀ vote ∈ votes, 0 < vote.count) ∧
        sum.toNat = total.toNat + totalCount votes) (Verdict.Displays shows) ui := by
  induction votes generalizing index total ui with
  | nil => exact ⟨rfl, by simp, by simp [totalCount]⟩
  | cons vote votes ih =>
    unfold renderVotes
    dsimp only
    rw [wp_ite]
    refine ⟨fun _ => displays_refuse _, fun positive => ?_⟩
    rw [wp_bind, wp_modify, wp_ite]
    refine ⟨fun _ => displays_refuse _, fun room => ?_⟩
    rw [wp_bind]
    unfold fillVoteSlots
    rw [wp_bind, wp_modify, displays_printAmount]
    intro short
    refine wp_mono (ih _ _ _) ?_ fun _ _ stopped => stopped
    rintro sum ui' ⟨rfl, all, sum_eq⟩
    refine ⟨rfl, ?_, ?_⟩
    · intro v among
      rcases List.mem_cons.mp among with rfl | later
      · exact Int64.not_le.mp positive
      · exact all v later
    · have fits := room_of_check room
      have step : (total + vote.count.toUInt64).toNat = total.toNat + vote.count.toUInt64.toNat := by
        rw [UInt64.toNat_add]
        exact Nat.mod_eq_of_lt fits
      rw [sum_eq, step, totalCount, totalCount, List.map_cons, List.sum_cons]
      exact Nat.add_assoc ..

theorem renderVoteWitness_displays {ui : Ui} :
    Render.Displays (renderVoteWitness ctx content) ui (VotesShow ctx content ui) := by
  unfold Render.Displays renderVoteWitness
  simp only [wp_bind, wp_ite, wp_refuse, displays_refuse, implies_true, true_and, wp_modify, wp_pure,
    displays_display]
  intro some
  refine wp_mono (renderVotes_fills _ _ _ _ _) ?_ fun _ _ stopped => stopped
  rintro sum _ ⟨rfl, positive, sum_eq⟩
  have sum_eq : sum.toNat = totalCount content.votes.entries := by simpa using sum_eq
  refine ⟨rfl, by simpa using some, positive, ?_, ?_⟩
  · rw [← sum_eq]
    exact sum.toNat_lt
  · rw [sum_eq]

theorem renderTriggerSmart_displays (type : content.contractType = .triggerSmart) {ui : Ui} :
    Render.Displays (renderTriggerSmart ctx content) ui fun kind shown =>
      if content.trc20Method = 1 ∨ content.trc20Method = 2 then TokenShows ctx content ui kind shown
      else CallShows ctx content (Ui.putAction (ascii "To") ui) kind shown := by
  unfold Render.Displays renderTriggerSmart
  simp only [wp_bind, wp_modify, wp_ite]
  refine ⟨fun transfer => ?_, fun other => ⟨fun approve => ?_, fun custom => ?_⟩⟩
  · have displays := renderTrc20_displays ctx type ui rfl
    simp only [if_pos transfer, Render.Displays, wp_bind] at displays
    simp only [transfer, true_or, if_true]
    exact displays
  · have displays := renderTrc20_displays ctx type ui rfl
    simp only [if_neg other, Render.Displays, wp_bind] at displays
    simp only [approve, or_true, if_true]
    exact displays
  · refine (renderCustomContract_displays).mono fun kind shown calls => ?_
    rw [if_neg (by tauto)]
    exact calls

theorem renderUnfreezeBalance_displays {ui : Ui} :
    Render.Displays (renderUnfreezeBalance ctx content) ui (RecipientShows ctx
      (receiverOrOwner content) .unfreezeAssetTransaction (Ui.putResource content) ui) := by
  unfold Render.Displays renderUnfreezeBalance
  simp only [wp_bind, wp_modify, wp_pure, displays_display]
  exact ⟨rfl, rfl⟩

theorem renderWithdrawExpireUnfreeze_displays {ui : Ui} :
    Render.Displays (renderWithdrawExpireUnfreeze ctx content) ui
      (RecipientShows ctx content.account .withdrawExpireUnfreezeTransaction id ui) := by
  unfold Render.Displays renderWithdrawExpireUnfreeze
  simp only [wp_bind, wp_modify, wp_pure, displays_display]
  exact ⟨rfl, rfl⟩

theorem renderWithdrawBalance_displays {ui : Ui} :
    Render.Displays (renderWithdrawBalance ctx content) ui
      (RecipientShows ctx content.account .withdrawBalanceTransaction id ui) := by
  unfold Render.Displays renderWithdrawBalance
  simp only [wp_bind, wp_modify, wp_pure, displays_display]
  exact ⟨rfl, rfl⟩

/-- Every contract shows what the table says. -/
theorem renderContract_displays {ui : Ui} :
    Render.Displays (renderContract ctx content) ui (ContractShows ctx content ui) := by
  unfold renderContract
  split
  case h_19 =>
    refine renderByHash_displays.mono fun kind shown hash => ?_
    unfold ContractShows
    split <;> first | exact hash | contradiction
  all_goals rename_i type; unfold ContractShows; simp only [type]
  case h_1 => exact renderTransfer_displays (.inl type)
  case h_2 => exact renderTransfer_displays (.inr type)
  case h_3 => exact renderTriggerSmart_displays type
  case h_4 => exact renderExchangeCreate_displays
  case h_5 | h_6 => exact renderExchangeWithdrawInject_displays
  case h_7 => exact renderExchangeTransaction_displays
  case h_8 => exact renderVoteWitness_displays
  case h_10 => exact renderUnfreezeBalance_displays
  case h_13 => exact renderDelegateResource_displays
  case h_15 => exact renderWithdrawExpireUnfreeze_displays
  case h_16 => exact renderWithdrawBalance_displays
  case h_17 => exact renderPermissionUpdate_displays
  case h_18 =>
    unfold Render.Displays
    simp only [wp_refuse, displays_refuse]
  all_goals exact renderResource_displays

/-- What a review on screen says about the transaction and its checks. -/
structure TransactionShows (ctx : RenderContext σ κ) (content : TxContent) (ui : Ui)
    (kind : ApprovalState) (shown : Ui) : Prop where
  data : ctx.settings.dataAllowed = true ∨ content.dataBytes = 0
  permission : 0 ≤ content.permissionId ∧ content.permissionId ≤ 9
  contract : ContractShows ctx content (renderSender ctx content ui) kind shown

variable (ctx content) in
theorem renderTransaction_displays (ui : Ui) :
    Render.Displays (renderTransaction ctx content) ui (TransactionShows ctx content ui) := by
  unfold Render.Displays renderTransaction
  simp only [wp_bind, wp_ite, wp_refuse, displays_refuse, implies_true, true_and, wp_modify]
  intro data id _
  refine renderContract_displays.mono fun kind shown contract => ⟨?_, ?_, contract⟩
  · simpa [or_iff_not_imp_left] using data
  · simpa [Int32.not_lt] using id

end Contracts

section Sessions

variable {σ κ : Type} {sdk : Sdk σ κ}

/-- **What the session of a review shows.** -/
theorem Renders.shows {s : Session σ κ} {kind : ApprovalState} {ui : Ui}
    (renders : s.Renders sdk (.display kind) ui) :
    ∃ contacts residue before,
      TransactionShows (s.renderContext sdk contacts residue) s.txContent before kind ui := by
  obtain ⟨contacts, residue, before, rendered⟩ := renders
  have displays := verdict_of_wp (renderTransaction_displays
    (s.renderContext sdk contacts residue) s.txContent before)
  rw [rendered] at displays
  exact ⟨contacts, residue, before, displays kind rfl⟩

end Sessions

end TronLedger
