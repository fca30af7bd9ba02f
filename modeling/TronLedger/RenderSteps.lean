import TronLedger.AmountText
import TronLedger.HandlerSteps

/-!
# What a rendering can end in

A rendering refuses, throws, starts a review, or in a swap signs. `Verdict.Sound` is what
each of these says about the transaction.

* `printedAmounts` are the amounts a contract puts on the screen; `print_amount` throws on
  one of 20 digits.
* `neverShown` holds of a transaction that no settings and no metadata make printable.
-/

namespace TronLedger

/-- `print_amount` throws on it. -/
def tooLong (amount : UInt64) : Bool := 10 ^ 19 ≤ amount.toNat

/-- The amounts of a contract that are printed, in the order of the source. -/
def printedAmounts (content : TxContent) : List UInt64 :=
  match content.contractType with
  | .transfer | .transferAsset | .freezeBalance | .freezeBalanceV2 | .unfreezeBalanceV2
  | .delegateResource | .undelegateResource => [content.amount.first]
  | .triggerSmart =>
    if content.trc20Method = 1 ∨ content.trc20Method = 2 then [content.feeLimit]
    else [content.amount.first, content.callTokenValue.toUInt64, content.feeLimit]
  | .exchangeCreate => [content.amount.first, content.amount.second]
  | .exchangeInject | .exchangeWithdraw => [content.exchangeID, content.amount.first]
  | .exchangeTransaction => [content.exchangeID, content.amount.first, content.amount.second]
  | _ => []

/-- The digits of a TRC20 amount. -/
def TxContent.trc20Digits (content : TxContent) : Bytes :=
  ((convertUint256BE content.trc20Amount.bytes).tostring 10 100).2

/-- The refusals of a contract that come before anything is printed. -/
def refusedFirst (settings : Settings) (content : TxContent) : Bool :=
  match content.contractType with
  | .triggerSmart =>
    if content.trc20Method = 1 ∨ content.trc20Method = 2 then
      content.amount.first ≠ 0 ∨ content.callTokenValue ≠ 0 ∨
        adjustDecimals content.trc20Digits 100 content.decimals.first.toNat = none
    else !settings.customContract ∨ (content.amount.first ≠ 0 ∧ content.callTokenValue ≠ 0)
  | .exchangeCreate => 35 < content.tokenNamesLength.second.toNat + 1
  | _ => false

section

variable {σ κ : Type} (sdk : Sdk σ κ)

/-- The permission update names no permission at all. -/
def permissionEmpty (msg : Msg) : Bool :=
  !msg.hasOwner ∧ !msg.hasWitness ∧ msg.actives.length = 0

/-- The rendering of the contract throws. -/
def contractThrows (settings : Settings) (content : TxContent) : Bool :=
  !refusedFirst settings content && (printedAmounts content).any tooLong

/-- The contract can be shown under no settings. -/
def neverShown (content : TxContent) (msg : Msg) : Bool :=
  (printedAmounts content).any tooLong ∨
    (content.contractType = .accountPermissionUpdate ∧ permissionEmpty msg)

/-- The checks of `handleSign` before the contract is rendered. -/
def refusedAtOnce (settings : Settings) (calledFromSwap : Bool) (content : TxContent) : Bool :=
  (!settings.dataAllowed ∧ content.dataBytes ≠ 0) ∨
    (content.permissionId < 0 ∨ 9 < content.permissionId) ∨
    (calledFromSwap ∧
      ((content.contractType ≠ .transfer ∧ content.contractType ≠ .triggerSmart) ∨
        (content.contractType = .triggerSmart ∧ content.trc20Method ≠ 1) ∨
        content.dataBytes ≠ 0))

theorem neverShown_of_contractThrows {settings : Settings} {content : TxContent} (msg : Msg)
    (h : contractThrows settings content = true) : neverShown content msg = true := by
  simp only [contractThrows, Bool.and_eq_true] at h
  simp [neverShown, h.2]

/-- A transaction that may be signed in a swap without a review. -/
structure SwapSound (ctx : RenderContext σ κ) (content : TxContent) (ui : Ui) : Prop where
  swap : ctx.calledFromSwap = true
  contract : content.contractType = .transfer ∨
    (content.contractType = .triggerSmart ∧ content.trc20Method = 1)
  printable : neverShown content ctx.msg = false
  noData : content.dataBytes = 0
  fee : content.feeLimit ≤ maxSwapFeeLimit
  valid : swapCheckValidity ctx.swapValidated (ui.apduBuffer.str 0) (ui.fullContract.str 0)
    (ui.trc20ActionSendAllow.str 0) (ui.toAddress.str 0) = true

/-- What a verdict says about the transaction. -/
def Verdict.Sound (ctx : RenderContext σ κ) (content : TxContent) (throws : Bool) :
    Verdict → Ui → Prop
  | .refuse sw, _ => sw ≠ .ok ∧ throws = false
  | .thrown e, _ => e ≠ .ok ∧ throws = true
  | .display state, ui =>
    throws = false ∧ neverShown content ctx.msg = false ∧ ctx.calledFromSwap = false ∧
      state.isTransaction = true ∧ (state = .witnessVoteTransaction → ui.votesCount ≤ 5)
  | .swapSign, ui => throws = false ∧ SwapSound ctx content ui

end

section Programs

variable {post : Unit → Ui → Prop} {stop : Verdict → Ui → Prop} {ui : Ui}

@[simp] theorem wp_refuse {α : Type} {post : α → Ui → Prop} (sw : Sw) :
    wp (Render.refuse sw) post stop ui ↔ stop (.refuse sw) ui := Iff.rfl

@[simp] theorem wp_printAmount (put : Bytes → Ui → Ui) (amount : UInt64) (outlen sun : Nat) :
    wp (Render.printAmount put amount outlen sun) post stop ui ↔
      (tooLong amount = true → stop (.thrown .incorrectLength) ui) ∧
        (tooLong amount = false →
          post () (put (fitted outlen (adjustDecimals (amountText amount) 25 sun)) ui)) := by
  unfold Render.printAmount
  rw [printAmount_eq]
  by_cases long : 10 ^ 19 ≤ amount.toNat
  · have throws : tooLong amount = true := decide_eq_true long
    rw [if_pos long]
    simp [throws]
  · have prints : tooLong amount = false := decide_eq_false long
    rw [if_neg long]
    simp [prints]

/-- Both ways a rendering ends give its verdict. -/
theorem verdict_of_wp {r : Render Verdict} {sound : Verdict → Ui → Prop}
    (h : wp r sound sound ui) : sound (r.verdict ui).1 (r.verdict ui).2 := by
  unfold wp at h
  unfold Render.verdict
  split at h <;> rename_i run <;> rw [run] <;> exact h

end Programs

section Contracts

variable {σ κ : Type} {ctx : RenderContext σ κ} {content : TxContent}

/-- A rendering of the contract ends soundly from any display buffers. -/
def Render.Sound (ctx : RenderContext σ κ) (content : TxContent) (r : Render Verdict) : Prop :=
  ∀ ui, wp r (Verdict.Sound ctx content (contractThrows ctx.settings content))
    (Verdict.Sound ctx content (contractThrows ctx.settings content)) ui

/-- A contract that prints `long` amounts or not, and refuses nothing first, throws exactly
when it can never be shown. -/
structure Prints (ctx : RenderContext σ κ) (content : TxContent) (long : Bool) : Prop where
  throws : contractThrows ctx.settings content = long
  never : neverShown content ctx.msg = long

variable (content) in
theorem prints (plain : content.contractType ≠ .accountPermissionUpdate)
    (first : refusedFirst ctx.settings content = false) :
    Prints ctx content ((printedAmounts content).any tooLong) where
  throws := by
    simp only [contractThrows, first]
    cases (printedAmounts content).any tooLong <;> rfl
  never := by
    simp only [neverShown, plain]
    cases (printedAmounts content).any tooLong <;> rfl

theorem Prints.thrown {long : Bool} (p : Prints ctx content long) (h : long = true) (ui : Ui) :
    (Verdict.thrown .incorrectLength).Sound ctx content
      (contractThrows ctx.settings content) ui := ⟨by decide, p.throws.trans h⟩

theorem Prints.display {long : Bool} (p : Prints ctx content long) (h : long = false)
    (noSwap : ctx.calledFromSwap = false) {state : ApprovalState} (own : state.isTransaction = true)
    {ui : Ui} (votes : state = .witnessVoteTransaction → ui.votesCount ≤ 5) :
    (Verdict.display state).Sound ctx content
      (contractThrows ctx.settings content) ui :=
  ⟨p.throws.trans h, p.never.trans h, noSwap, own, votes⟩

/-- The contracts with one amount, which is printed between writes that cannot stop. -/
theorem printOneAmount_sound (p : Prints ctx content (tooLong content.amount.first))
    (noSwap : ctx.calledFromSwap = false) (before after : Ui → Ui) {state : ApprovalState}
    (own : state.isTransaction = true) (vote : state ≠ .witnessVoteTransaction) :
    Render.Sound ctx content (do
      modify before
      Render.printAmount (Ui.putApdu 0) content.amount.first 100 sunDig
      modify after
      return .display state) := by
  intro ui
  simp only [wp_bind, wp_modify, wp_printAmount, wp_pure]
  exact ⟨fun long => p.thrown long _, fun short => p.display short noSwap own (fun h => absurd h vote)⟩

theorem renderResource_sound (recipient : Address) (state : ApprovalState)
    (p : Prints ctx content (tooLong content.amount.first)) (noSwap : ctx.calledFromSwap = false)
    (own : state.isTransaction = true) (vote : state ≠ .witnessVoteTransaction) :
    Render.Sound ctx content (renderResource ctx content recipient state) :=
  printOneAmount_sound p noSwap _ _ own vote

theorem renderFreezeBalance_sound (p : Prints ctx content (tooLong content.amount.first))
    (noSwap : ctx.calledFromSwap = false) :
    Render.Sound ctx content (renderFreezeBalance ctx content) :=
  printOneAmount_sound p noSwap _ _ rfl (by decide)

theorem renderDelegateResource_sound (p : Prints ctx content (tooLong content.amount.first))
    (noSwap : ctx.calledFromSwap = false) :
    Render.Sound ctx content (renderDelegateResource ctx content) := by
  intro ui
  simp only [renderDelegateResource, wp_bind, wp_modify, wp_printAmount, wp_pure]
  exact ⟨fun long => p.thrown long _, fun short => p.display short noSwap rfl (by simp)⟩

theorem renderUnfreezeBalance_sound (p : Prints ctx content false)
    (noSwap : ctx.calledFromSwap = false) :
    Render.Sound ctx content (renderUnfreezeBalance ctx content) := by
  intro ui
  simp only [renderUnfreezeBalance, wp_bind, wp_modify, wp_pure]
  exact p.display rfl noSwap rfl (by simp)

theorem renderWithdrawExpireUnfreeze_sound (p : Prints ctx content false)
    (noSwap : ctx.calledFromSwap = false) :
    Render.Sound ctx content (renderWithdrawExpireUnfreeze ctx content) := by
  intro ui
  simp only [renderWithdrawExpireUnfreeze, wp_bind, wp_modify, wp_pure]
  exact p.display rfl noSwap rfl (by simp)

theorem renderWithdrawBalance_sound (p : Prints ctx content false)
    (noSwap : ctx.calledFromSwap = false) :
    Render.Sound ctx content (renderWithdrawBalance ctx content) := by
  intro ui
  simp only [renderWithdrawBalance, wp_bind, wp_modify, wp_pure]
  exact p.display rfl noSwap rfl (by simp)

theorem renderExchangeCreate_sound (type : content.contractType = .exchangeCreate)
    (noSwap : ctx.calledFromSwap = false) :
    Render.Sound ctx content (renderExchangeCreate content) := by
  intro ui
  have plain : content.contractType ≠ .accountPermissionUpdate := by simp [type]
  simp only [renderExchangeCreate, wp_bind, wp_modify, wp_ite, wp_refuse, wp_printAmount, wp_pure]
  constructor
  · intro wide
    exact ⟨by decide, by simp [contractThrows, refusedFirst, type, wide]⟩
  · intro fits
    have p : Prints ctx content (tooLong content.amount.first || tooLong content.amount.second) := by
      simpa [printedAmounts, type] using
        prints content plain (by simpa [refusedFirst, type] using fits)
    refine ⟨fun long => p.thrown (by simp [long]) _, fun short => ⟨fun long => ?_, fun short' => ?_⟩⟩
    · exact p.thrown (by simp [long]) _
    · exact p.display (by simp [short, short']) noSwap rfl (by simp)

theorem renderExchangeWithdrawInject_sound
    (type : content.contractType = .exchangeInject ∨ content.contractType = .exchangeWithdraw)
    (noSwap : ctx.calledFromSwap = false) :
    Render.Sound ctx content (renderExchangeWithdrawInject content) := by
  intro ui
  have p : Prints ctx content (tooLong content.exchangeID || tooLong content.amount.first) := by
    rcases type with type | type <;> simpa [printedAmounts, type] using
      prints content (by simp [type]) (by simp [refusedFirst, type])
  obtain ⟨detail, known⟩ : ∃ detail, exchangeContractDetail content.contractType = some detail := by
    rcases type with type | type <;> exact ⟨_, by rw [type]; rfl⟩
  simp only [renderExchangeWithdrawInject, wp_bind, wp_modify, wp_printAmount, known, wp_pure]
  refine ⟨fun long => p.thrown (by simp [long]) _, fun short => ⟨fun long => ?_, fun short' => ?_⟩⟩
  · exact p.thrown (by simp [long]) _
  · exact p.display (by simp [short, short']) noSwap rfl (by simp)

theorem renderExchangeTransaction_sound (type : content.contractType = .exchangeTransaction)
    (noSwap : ctx.calledFromSwap = false) :
    Render.Sound ctx content (renderExchangeTransaction content) := by
  intro ui
  have p : Prints ctx content (tooLong content.exchangeID || (tooLong content.amount.first ||
      tooLong content.amount.second)) := by
    simpa [printedAmounts, type] using
      prints content (by simp [type]) (by simp [refusedFirst, type])
  simp only [renderExchangeTransaction, wp_bind, wp_modify, wp_printAmount, wp_pure]
  refine ⟨fun long => p.thrown (by simp [long]) _, fun id => ⟨fun long => ?_, fun first =>
    ⟨fun long => ?_, fun second => ?_⟩⟩⟩
  · exact p.thrown (by simp [long]) _
  · exact p.thrown (by simp [long]) _
  · exact p.display (by simp [id, first, second]) noSwap rfl (by simp)

/-- A positive vote count always prints. -/
theorem tooLong_of_positive {count : Int64} (positive : ¬count ≤ 0) :
    tooLong count.toUInt64 = false := by
  have nonneg : 0 ≤ count := by
    rw [Int64.le_iff_toInt_le] at positive ⊢
    omega
  have value := Int64.toNat_toUInt64_of_le nonneg
  have bound := count.toNatClampNeg_lt
  simp only [tooLong, decide_eq_false_iff_not]
  omega

theorem fillVoteSlots_ends (index : Nat) (vote : VoteEntry) (positive : ¬vote.count ≤ 0)
    (stop : Verdict → Ui → Prop) (ui : Ui) :
    wp (fillVoteSlots index vote) (fun _ ui' => ui'.votesCount = ui.votesCount) stop ui := by
  simp only [fillVoteSlots, wp_bind, wp_modify, wp_printAmount, tooLong_of_positive positive]
  exact ⟨fun h => absurd h (by decide), fun _ => rfl⟩

theorem renderVotes_ends (votes : List VoteEntry) (index : Nat) (total : UInt64) (ui : Ui) :
    wp (renderVotes ctx votes index total) (fun _ ui' => ui'.votesCount = ui.votesCount)
      (fun verdict _ => verdict = .refuse .incorrectData) ui := by
  induction votes generalizing index total ui with
  | nil => rfl
  | cons vote votes ih =>
    unfold renderVotes
    dsimp only
    rw [wp_ite]
    refine ⟨fun _ => rfl, fun positive => ?_⟩
    rw [wp_bind, wp_modify, wp_ite]
    refine ⟨fun _ => rfl, fun _ => ?_⟩
    rw [wp_bind]
    refine wp_mono (fillVoteSlots_ends index vote positive _ _) ?_ fun _ _ stopped => stopped
    intro _ filled kept
    exact wp_mono (ih _ _ _) (fun _ _ same => same.trans kept) fun _ _ stopped => stopped

theorem renderVoteWitness_sound (type : content.contractType = .voteWitness)
    (noSwap : ctx.calledFromSwap = false) :
    Render.Sound ctx content (renderVoteWitness ctx content) := by
  intro ui
  have p : Prints ctx content false := by
    simpa [printedAmounts, type] using
      prints content (by simp [type]) (by simp [refusedFirst, type])
  simp only [renderVoteWitness, wp_bind, wp_ite, wp_refuse, wp_modify, wp_pure]
  refine ⟨fun _ => ⟨by decide, p.throws⟩, fun _ => wp_mono (renderVotes_ends _ _ _ _) ?_ ?_⟩
  · intro total ui' kept
    refine p.display rfl noSwap rfl fun _ => ?_
    rw [show (Ui.putFullContract _ ui').votesCount = ui'.votesCount from rfl, kept]
    exact content.votes.bounded
  · rintro verdict ui' rfl
    exact ⟨by decide, p.throws⟩

/-- What the checks before the `switch` leave of a swap. -/
def SwapAdmits (ctx : RenderContext σ κ) (content : TxContent) : Prop :=
  ctx.calledFromSwap = true → (content.contractType = .transfer ∨
    (content.contractType = .triggerSmart ∧ content.trc20Method = 1)) ∧ content.dataBytes = 0

theorem finishTransfer_sound {long : Bool} (p : Prints ctx content long)
    (fee : content.contractType = .triggerSmart → long = tooLong content.feeLimit)
    (noFee : content.contractType ≠ .triggerSmart → long = false)
    (admits : SwapAdmits ctx content) : Render.Sound ctx content (finishTransfer ctx content) := by
  intro ui
  -- behind the fee line the transfer is shown, or compared with the validated one
  have ending (ui : Ui) (short : long = false) :
      wp (if ctx.calledFromSwap then do
          if maxSwapFeeLimit < content.feeLimit then Render.refuse .swapCheckingFail
          let ui ← get
          if swapCheckValidity ctx.swapValidated (ui.apduBuffer.str 0) (ui.fullContract.str 0)
              (ui.trc20ActionSendAllow.str 0) (ui.toAddress.str 0) then return Verdict.swapSign
          else Render.refuse .swapCheckingFail
        else return Verdict.display .transfer)
        (Verdict.Sound ctx content (contractThrows ctx.settings content))
        (Verdict.Sound ctx content (contractThrows ctx.settings content)) ui := by
    simp only [wp_ite, wp_bind, wp_refuse, wp_get, wp_pure]
    refine ⟨fun swap => ⟨fun _ => ⟨by decide, p.throws.trans short⟩, fun cheap => ⟨fun valid => ?_,
      fun _ => ⟨by decide, p.throws.trans short⟩⟩⟩, fun noSwap => ?_⟩
    · obtain ⟨contract, noData⟩ := admits swap
      exact ⟨p.throws.trans short, swap, contract, p.never.trans short, noData,
        UInt64.not_lt.mp cheap, valid⟩
    · exact p.display short (by simpa using noSwap) rfl (by simp)
  unfold finishTransfer
  simp only [wp_bind, wp_modify, wp_ite, wp_printAmount]
  simp only [wp_ite, wp_bind] at ending
  refine ⟨fun type => ⟨fun tooMuch => p.thrown ((fee type).trans tooMuch) _, fun short => ?_⟩,
    fun type => ?_⟩
  · exact ending _ ((fee type).trans short)
  · exact ending _ (noFee type)

theorem renderTransfer_sound
    (type : content.contractType = .transfer ∨ content.contractType = .transferAsset)
    (admits : SwapAdmits ctx content) : Render.Sound ctx content (renderTransfer ctx content) := by
  intro ui
  have p : Prints ctx content (tooLong content.amount.first) := by
    rcases type with type | type <;> simpa [printedAmounts, type] using
      prints content (by simp [type]) (by simp [refusedFirst, type])
  have notSmart : content.contractType ≠ .triggerSmart := by rcases type with type | type <;> simp [type]
  simp only [renderTransfer, wp_bind, wp_modify, wp_printAmount]
  exact ⟨fun long => p.thrown long _, fun short =>
    finishTransfer_sound p (fun smart => absurd smart notSmart) (fun _ => short) admits _⟩

theorem renderTrc20Amount_ends {stop : Verdict → Ui → Prop} (ui : Ui)
    (refused : ∀ sw ui', sw ≠ Sw.ok → (content.amount.first ≠ 0 ∨ content.callTokenValue ≠ 0 ∨
      adjustDecimals content.trc20Digits 100 content.decimals.first.toNat = none) →
      stop (.refuse sw) ui') :
    wp (renderTrc20Amount content) (fun _ _ => ¬(content.amount.first ≠ 0 ∨
      content.callTokenValue ≠ 0 ∨
      adjustDecimals content.trc20Digits 100 content.decimals.first.toNat = none)) stop ui := by
  simp only [renderTrc20Amount, wp_bind, wp_ite, wp_refuse, wp_modify]
  refine ⟨fun moves => refused _ _ (by decide) (by tauto), fun still => ?_⟩
  split
  · rename_i unprintable
    exact refused _ _ (by decide) (.inr (.inr unprintable))
  · rename_i text printable
    simp only [wp_modify, TxContent.trc20Digits, printable]
    simp only [not_or] at still
    simp [still]

/-- A known token call: refused before anything is printed, or a transfer. -/
theorem renderTrc20_sound (type : content.contractType = .triggerSmart)
    (method : content.trc20Method = 1 ∨ content.trc20Method = 2)
    (admits : SwapAdmits ctx content) :
    Render.Sound ctx content (do renderTrc20Amount content; finishTransfer ctx content) := by
  intro ui
  have plain : content.contractType ≠ .accountPermissionUpdate := by simp [type]
  have refused (sw : Sw) (ui' : Ui) (bad : sw ≠ .ok) (early : content.amount.first ≠ 0 ∨
      content.callTokenValue ≠ 0 ∨
      adjustDecimals content.trc20Digits 100 content.decimals.first.toNat = none) :
      (Verdict.refuse sw).Sound ctx content
        (contractThrows ctx.settings content) ui' := by
    have first : refusedFirst ctx.settings content = true := by
      simp only [refusedFirst, type, if_pos method, decide_eq_true_eq]
      exact early
    exact ⟨bad, by simp [contractThrows, first]⟩
  rw [wp_bind]
  refine wp_mono (renderTrc20Amount_ends ui refused) ?_ fun _ _ stopped => stopped
  intro _ ui' late
  have p : Prints ctx content (tooLong content.feeLimit) := by
    simpa [printedAmounts, type, method] using
      prints content plain (by simpa [refusedFirst, type, method] using late)
  exact finishTransfer_sound p (fun _ => rfl) (fun other => absurd type other) admits ui'

theorem renderCustomContract_sound (type : content.contractType = .triggerSmart)
    (method : ¬(content.trc20Method = 1 ∨ content.trc20Method = 2))
    (noSwap : ctx.calledFromSwap = false) :
    Render.Sound ctx content (renderCustomContract ctx content) := by
  intro ui
  have plain : content.contractType ≠ .accountPermissionUpdate := by simp [type]
  have refused (h : ctx.settings.customContract = false ∨
      (content.amount.first ≠ 0 ∧ content.callTokenValue ≠ 0)) :
      contractThrows ctx.settings content = false := by
    have first : refusedFirst ctx.settings content = true := by
      simpa [refusedFirst, type, method] using h
    simp [contractThrows, first]
  simp only [renderCustomContract, wp_bind, wp_ite, wp_refuse, wp_modify, wp_printAmount, wp_pure]
  refine ⟨fun off => ⟨by decide, refused (.inl (by simpa using off))⟩, fun on =>
    ⟨fun both => ⟨by decide, refused (.inr both)⟩, fun one => ?_⟩⟩
  have p : Prints ctx content (tooLong content.amount.first ||
      (tooLong content.callTokenValue.toUInt64 || tooLong content.feeLimit)) := by
    simpa [printedAmounts, type, method] using
      prints content plain (by simpa [refusedFirst, type, method] using ⟨by simpa using on, by tauto⟩)
  have none : tooLong 0 = false := by decide
  have none' : tooLong (Int64.toUInt64 0) = false := none
  refine ⟨fun some => ?_, fun noAmount => ⟨fun some => ?_, fun noToken => ?_⟩⟩
  · have noToken : content.callTokenValue = 0 := by tauto
    refine ⟨fun long => p.thrown (by simp [long]) _, fun short => ⟨fun long => ?_, fun short' => ?_⟩⟩
    · exact p.thrown (by simp [long]) _
    · exact p.display (by simp [short, short', noToken, none']) noSwap rfl (by simp)
  · have noAmount : content.amount.first = 0 := by tauto
    refine ⟨fun long => p.thrown (by simp [long]) _, fun short => ⟨fun long => ?_, fun short' => ?_⟩⟩
    · exact p.thrown (by simp [long]) _
    · exact p.display (by simp [short, short', noAmount, none]) noSwap rfl (by simp)
  · have noAmount : content.amount.first = 0 := by tauto
    have noToken : content.callTokenValue = 0 := by tauto
    refine ⟨fun long => p.thrown (by simp [long]) _, fun short => ?_⟩
    exact p.display (by simp [short, noAmount, noToken, none, none']) noSwap rfl (by simp)

theorem renderTriggerSmart_sound (type : content.contractType = .triggerSmart)
    (admits : SwapAdmits ctx content) : Render.Sound ctx content (renderTriggerSmart ctx content) := by
  intro ui
  simp only [renderTriggerSmart, wp_bind, wp_ite, wp_modify]
  refine ⟨fun transfer => ?_, fun other => ⟨fun approve => ?_, fun custom => ?_⟩⟩
  · simpa only [wp_bind] using renderTrc20_sound type (.inl transfer) admits _
  · simpa only [wp_bind] using renderTrc20_sound type (.inr approve) admits _
  · refine renderCustomContract_sound type (by tauto) ?_ _
    by_contra swap
    have := (admits (by simpa using swap)).1
    simp_all

/-- The terminator of an address stands behind 34 characters, whatever was encoded. -/
theorem getBase58FromAddress_length (sdk : Sdk σ κ) (address : Address) (out : Buf 35) :
    ((getBase58FromAddress sdk address out 0).str 0).length ≤ 34 := by
  refine Buf.str_length_le _ 0 34 ?_
  have fits : 0 + 34 + ([0] : Bytes).length ≤ 35 := by decide
  have inside : 0 < ([0] : Bytes).length := by decide
  exact Buf.getElem?_write_inside _ [0] fits inside

/-- A key line has at most 64 characters and is never cut. -/
theorem permissionKeyLines_some (keys : List Key) (address : Buf 35) :
    ∃ lines, permissionKeyLines ctx keys address = some lines := by
  induction keys generalizing address with
  | nil => exact ⟨[], rfl⟩
  | cons key keys ih =>
    obtain ⟨lines, rest⟩ := ih (getBase58FromAddress ctx.sdk key.address address 0)
    have text := getBase58FromAddress_length ctx.sdk key.address address
    have weight := signedDecimal_length key.weight
    have lead : (ascii " (weight ").length = 9 := by decide
    have trail : (ascii ")").length = 1 := by decide
    simp only [permissionKeyLines, rest]
    rw [if_neg]
    · exact ⟨_, rfl⟩
    · simp only [List.length_append, lead, trail]
      omega

variable (ctx) in
theorem permissionEntry_some (index : Nat) (perm : Permission) :
    ∃ entry, permissionEntry ctx index perm = some entry := by
  obtain ⟨lines, filled⟩ := permissionKeyLines_some (perm.keys.take 3) (ctx.residue index)
  exact ⟨_, by rw [permissionEntry, filled]⟩

theorem renderPermissionEntries_ends (slots : List (Option Permission)) (index : Nat) (ui : Ui)
    {stop : Verdict → Ui → Prop} :
    wp (renderPermissionEntries ctx slots index) (fun _ ui' => ui' = ui) stop ui := by
  induction slots generalizing index with
  | nil => rfl
  | cons slot slots ih =>
    cases slot with
    | none =>
      simp only [renderPermissionEntries, wp_bind, wp_pure]
      exact ih (index + 1)
    | some perm =>
      obtain ⟨entry, filled⟩ := permissionEntry_some ctx index perm
      simp only [renderPermissionEntries, filled, wp_bind, wp_pure]
      exact ih (index + 1)

theorem renderPermissionUpdate_sound (type : content.contractType = .accountPermissionUpdate)
    (noSwap : ctx.calledFromSwap = false) :
    Render.Sound ctx content (renderPermissionUpdate ctx) := by
  intro ui
  have throws : contractThrows ctx.settings content = false := by
    simp [contractThrows, printedAmounts, type]
  have never : neverShown content ctx.msg = permissionEmpty ctx.msg := by
    simp [neverShown, printedAmounts, type]
  simp only [renderPermissionUpdate, wp_bind, wp_ite, wp_refuse, wp_modify, wp_pure]
  refine ⟨fun _ => ⟨by decide, throws⟩, fun named => ?_⟩
  have named' : permissionEmpty ctx.msg = false := by simpa [permissionEmpty] using named
  refine wp_mono (renderPermissionEntries_ends _ 0 ui) ?_ fun _ _ stopped => stopped
  rintro entries ui' rfl
  exact ⟨throws, by rw [never, named'], noSwap, rfl, by simp⟩

theorem renderByHash_sound (p : Prints ctx content false) (noSwap : ctx.calledFromSwap = false) :
    Render.Sound ctx content (renderByHash ctx content) := by
  intro ui
  simp only [renderByHash, wp_bind, wp_ite, wp_refuse, wp_modify]
  refine ⟨fun _ => ⟨by decide, p.throws⟩, fun _ => ?_⟩
  split
  · exact ⟨by decide, p.throws⟩
  · exact p.display rfl noSwap rfl (by simp)

/-- In a swap only two contracts get as far as the `switch`. -/
theorem SwapAdmits.noSwap (admits : SwapAdmits ctx content) (notTransfer : content.contractType ≠ .transfer)
    (notSmart : content.contractType ≠ .triggerSmart) : ctx.calledFromSwap = false := by
  by_contra swap
  rcases (admits (by simpa using swap)).1 with type | ⟨type, -⟩
  · exact notTransfer type
  · exact notSmart type

/-- The contracts that print one amount and refuse nothing first. -/
theorem prints_one (plain : content.contractType ≠ .accountPermissionUpdate)
    (first : refusedFirst ctx.settings content = false)
    (one : printedAmounts content = [content.amount.first]) :
    Prints ctx content (tooLong content.amount.first) := by
  simpa [one] using prints content plain first

theorem prints_none (plain : content.contractType ≠ .accountPermissionUpdate)
    (first : refusedFirst ctx.settings content = false) (none : printedAmounts content = []) :
    Prints ctx content false := by
  simpa [none] using prints content plain first

theorem renderContract_sound (admits : SwapAdmits ctx content) :
    Render.Sound ctx content (renderContract ctx content) := by
  have noSwap := admits.noSwap
  unfold renderContract
  split
  case h_1 type => exact renderTransfer_sound (.inl type) admits
  case h_2 type => exact renderTransfer_sound (.inr type) admits
  case h_3 type => exact renderTriggerSmart_sound type admits
  case h_4 type => exact renderExchangeCreate_sound type (noSwap (by simp [type]) (by simp [type]))
  case h_5 type =>
    exact renderExchangeWithdrawInject_sound (.inl type) (noSwap (by simp [type]) (by simp [type]))
  case h_6 type =>
    exact renderExchangeWithdrawInject_sound (.inr type) (noSwap (by simp [type]) (by simp [type]))
  case h_7 type =>
    exact renderExchangeTransaction_sound type (noSwap (by simp [type]) (by simp [type]))
  case h_8 type => exact renderVoteWitness_sound type (noSwap (by simp [type]) (by simp [type]))
  case h_17 type =>
    exact renderPermissionUpdate_sound type (noSwap (by simp [type]) (by simp [type]))
  case h_18 type =>
    intro ui
    exact ⟨by decide, by simp [contractThrows, refusedFirst, printedAmounts, type]⟩
  case h_19 =>
    have first : refusedFirst ctx.settings content = false := by
      unfold refusedFirst
      split <;> first | rfl | contradiction
    have none : printedAmounts content = [] := by
      unfold printedAmounts
      split <;> first | rfl | contradiction
    exact renderByHash_sound (prints_none (by assumption) first none)
      (noSwap (by assumption) (by assumption))
  -- what is left prints one amount or none, outside a swap
  all_goals
    rename_i type
    have noSwap := noSwap (by simp [type]) (by simp [type])
    have plain : content.contractType ≠ .accountPermissionUpdate := by simp [type]
    have first : refusedFirst ctx.settings content = false := by simp [refusedFirst, type]
  case h_9 => exact renderFreezeBalance_sound (prints_one plain first (by simp [printedAmounts, type])) noSwap
  case h_10 =>
    exact renderUnfreezeBalance_sound (prints_none plain first (by simp [printedAmounts, type])) noSwap
  case h_13 =>
    exact renderDelegateResource_sound (prints_one plain first (by simp [printedAmounts, type])) noSwap
  case h_15 =>
    exact renderWithdrawExpireUnfreeze_sound (prints_none plain first (by simp [printedAmounts, type]))
      noSwap
  case h_16 =>
    exact renderWithdrawBalance_sound (prints_none plain first (by simp [printedAmounts, type])) noSwap
  all_goals
    exact renderResource_sound _ _ (prints_one plain first (by simp [printedAmounts, type])) noSwap
      rfl (by decide)

end Contracts

section Whole

variable {σ κ : Type}

/-- The rendering of a transaction throws. -/
def renderThrows (settings : Settings) (calledFromSwap : Bool) (content : TxContent) : Bool :=
  !refusedAtOnce settings calledFromSwap content && contractThrows settings content

theorem neverShown_of_renderThrows {settings : Settings} {calledFromSwap : Bool}
    {content : TxContent} (msg : Msg)
    (h : renderThrows settings calledFromSwap content = true) :
    neverShown content msg = true := by
  simp only [renderThrows, Bool.and_eq_true] at h
  exact neverShown_of_contractThrows msg h.2

variable (ctx : RenderContext σ κ) (content : TxContent)

/-- **A transaction on screen, or signed in a swap, passed every check, and an exception is
thrown only where an amount or a permission key is too long.** -/
theorem renderTransaction_sound (ui : Ui) :
    Verdict.Sound ctx content
      (renderThrows ctx.settings ctx.calledFromSwap content)
      ((renderTransaction ctx content).verdict ui).1 ((renderTransaction ctx content).verdict ui).2 := by
  refine verdict_of_wp ?_
  have refused (h : refusedAtOnce ctx.settings ctx.calledFromSwap content = true) :
      renderThrows ctx.settings ctx.calledFromSwap content = false := by
    simp [renderThrows, h]
  simp only [renderTransaction, wp_bind, wp_ite, wp_refuse, wp_modify]
  refine ⟨fun noData => ⟨by decide, refused (by simp [refusedAtOnce, noData])⟩, fun data =>
    ⟨fun id => ⟨by decide, refused (by simp [refusedAtOnce, id])⟩, fun id =>
    ⟨fun swap => ⟨by decide, refused ?_⟩, fun swap => ?_⟩⟩⟩
  · simp only [swapRefuses, decide_eq_true_eq] at swap
    simp only [refusedAtOnce, decide_eq_true_eq]
    exact .inr (.inr swap)
  · have admitted : refusedAtOnce ctx.settings ctx.calledFromSwap content = false := by
      simp only [swapRefuses, decide_eq_true_eq] at swap
      simp only [refusedAtOnce, decide_eq_false_iff_not]
      tauto
    have admits : SwapAdmits ctx content := by
      intro called
      simp only [swapRefuses, decide_eq_true_eq, not_and, not_or, not_not] at swap
      have := swap called
      refine ⟨?_, this.2.2⟩
      by_cases transfer : content.contractType = .transfer
      · exact .inl transfer
      · have smart := this.1 transfer
        exact .inr ⟨smart, this.2.1 smart⟩
    have same : renderThrows ctx.settings ctx.calledFromSwap content =
        contractThrows ctx.settings content := by
      simp [renderThrows, admitted]
    rw [same]
    exact renderContract_sound admits _

/-- Without a contract there is nothing to show. -/
theorem renderTransaction_invalid (type : content.contractType = .invalidContract)
    (ui : Ui) : ∃ sw, ((renderTransaction ctx content).verdict ui).1 = .refuse sw := by
  have refused : wp (renderTransaction ctx content) (fun verdict _ => ∃ sw, verdict = .refuse sw)
      (fun verdict _ => ∃ sw, verdict = .refuse sw) ui := by
    simp only [renderTransaction, renderContract, type, wp_bind, wp_ite, wp_refuse, wp_modify]
    exact ⟨fun _ => ⟨_, rfl⟩, fun _ => ⟨fun _ => ⟨_, rfl⟩, fun _ => ⟨fun _ => ⟨_, rfl⟩, fun _ => ⟨_, rfl⟩⟩⟩⟩
  exact verdict_of_wp refused

end Whole

end TronLedger
