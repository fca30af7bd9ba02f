import TronLedger.Chunking

/-!
# What decides about a transaction

Outside a swap the settings, the contract and its message decide whether a transaction is
reviewed, or with which status it is refused. The display buffers have no part in it.

* `transactionEnd` is the decision, `renderTransaction_end` says that a rendering takes it.
-/

namespace TronLedger

/-- Amounts that are printed in turn before a review. -/
def printedEnd (amounts : List UInt64) (kind : ApprovalState) : Verdict :=
  if amounts.any tooLong then .thrown .incorrectLength else .display kind

/-- A transfer or an approval of a known token moves nothing else. -/
def tokenCallEnd (content : TxContent) : Verdict :=
  if content.amount.first ≠ 0 ∨ content.callTokenValue ≠ 0 then .refuse .incorrectData
  else if adjustDecimals content.trc20Digits 100 content.decimals.first.toNat = none then .refuse .incorrectLength
  else printedEnd [content.feeLimit] .transfer

/-- Any other call moves TRX or a token, not both. -/
def customCallEnd (settings : Settings) (content : TxContent) : Verdict :=
  if settings.customContract = false then .refuse .missingSettingCustomContract
  else if content.amount.first ≠ 0 ∧ content.callTokenValue ≠ 0 then .refuse .incorrectData
  else printedEnd [content.amount.first, content.callTokenValue.toUInt64, content.feeLimit] .customContract

/-- The votes are all positive, and so few that their sum does not overflow. -/
def VotesAdd (votes : List VoteEntry) (total : UInt64) : Prop :=
  (∀ vote ∈ votes, 0 < vote.count) ∧ total.toNat + totalCount votes < 2 ^ 64

instance (votes : List VoteEntry) (total : UInt64) : Decidable (VotesAdd votes total) :=
  inferInstanceAs (Decidable (_ ∧ _))

def votesEnd (votes : List VoteEntry) : Verdict :=
  if votes ≠ [] ∧ VotesAdd votes 0 then .display .witnessVoteTransaction else .refuse .incorrectData

/-- A contract without a review of its own. -/
def byHashEnd (settings : Settings) (type : ContractType) : Verdict :=
  if settings.signByHash = false then .refuse .missingSettingSignByHash
  else if contractTypeName type = none then .refuse .incorrectData
  else .display .simpleTransaction

/-- The decision about a contract. -/
def contractEnd (settings : Settings) (content : TxContent) (msg : Msg) : Verdict :=
  match content.contractType with
  | .transfer | .transferAsset => printedEnd [content.amount.first] .transfer
  | .triggerSmart =>
    if content.trc20Method = 1 ∨ content.trc20Method = 2 then tokenCallEnd content
    else customCallEnd settings content
  | .exchangeCreate =>
    if 35 < content.tokenNamesLength.second.toNat + 1 then .refuse .incorrectData
    else printedEnd [content.amount.first, content.amount.second] .exchangeCreate
  | .exchangeInject | .exchangeWithdraw =>
    printedEnd [content.exchangeID, content.amount.first] .exchangeWithdrawInject
  | .exchangeTransaction =>
    printedEnd [content.exchangeID, content.amount.first, content.amount.second] .exchangeTransaction
  | .voteWitness => votesEnd content.votes.entries
  | .freezeBalance => printedEnd [content.amount.first] .freezeAssetTransaction
  | .unfreezeBalance => .display .unfreezeAssetTransaction
  | .freezeBalanceV2 => printedEnd [content.amount.first] .freezeAssetV2Transaction
  | .unfreezeBalanceV2 => printedEnd [content.amount.first] .unfreezeAssetV2Transaction
  | .delegateResource => printedEnd [content.amount.first] .delegateResourceTransaction
  | .undelegateResource => printedEnd [content.amount.first] .undelegateResourceTransaction
  | .withdrawExpireUnfreeze => .display .withdrawExpireUnfreezeTransaction
  | .withdrawBalance => .display .withdrawBalanceTransaction
  | .accountPermissionUpdate => permissionEnd msg
  | .invalidContract => .refuse .incorrectData
  | type => byHashEnd settings type

/-- **The decision about a transaction.** -/
def transactionEnd (settings : Settings) (content : TxContent) (msg : Msg) : Verdict :=
  if settings.dataAllowed = false ∧ content.dataBytes ≠ 0 then .refuse .missingSettingDataAllowed
  else if content.permissionId < 0 ∨ 9 < content.permissionId then .refuse .incorrectData
  else contractEnd settings content msg

section

variable {σ κ : Type} {ctx : RenderContext σ κ} {content : TxContent}

/-- A rendering ends with `verdict` from any display buffers. -/
def Render.Ends (r : Render Verdict) (verdict : Verdict) : Prop :=
  ∀ ui, wp r (fun ended _ => ended = verdict) (fun ended _ => ended = verdict) ui

theorem Render.Ends.verdict {r : Render Verdict} {verdict : Verdict} (ends : r.Ends verdict) (ui : Ui) :
    (r.verdict ui).1 = verdict :=
  @verdict_of_wp ui r (fun ended _ => ended = verdict) (ends ui)

theorem printedEnd_long {amounts : List UInt64} {kind : ApprovalState} (long : amounts.any tooLong = true) :
    Verdict.thrown .incorrectLength = printedEnd amounts kind := (if_pos long).symm

theorem printedEnd_short {amounts : List UInt64} {kind : ApprovalState} (short : amounts.any tooLong = false) :
    Verdict.display kind = printedEnd amounts kind := (if_neg (by simp [short])).symm

/-- One amount, printed between writes that cannot stop. -/
theorem printOneAmount_end (before after : Ui → Ui) (amount : UInt64) (sun : Nat) (kind : ApprovalState) :
    Render.Ends (do
      modify before
      Render.printAmount (Ui.putApdu 0) amount 100 sun
      modify after
      return .display kind) (printedEnd [amount] kind) := by
  intro ui
  simp only [wp_bind, wp_modify, wp_printAmount, wp_pure]
  refine ⟨fun long => printedEnd_long ?_, fun short => printedEnd_short ?_⟩
  · simp [long]
  · simp [short]

theorem renderDelegateResource_end :
    Render.Ends (renderDelegateResource ctx content) (printedEnd [content.amount.first] .delegateResourceTransaction) := by
  intro ui
  simp only [renderDelegateResource, wp_bind, wp_modify, wp_printAmount, wp_pure]
  refine ⟨fun long => printedEnd_long ?_, fun short => printedEnd_short ?_⟩
  · simp [long]
  · simp [short]

theorem renderTransfer_end (noSwap : ctx.calledFromSwap = false) (plain : content.contractType ≠ .triggerSmart) :
    Render.Ends (renderTransfer ctx content) (printedEnd [content.amount.first] .transfer) := by
  intro ui
  simp only [renderTransfer, finishTransfer, wp_bind, wp_modify, wp_printAmount, wp_ite, wp_pure]
  refine ⟨fun long => printedEnd_long (by simp [long]), fun short => ⟨fun smart => absurd smart plain, fun _ =>
    ⟨fun swap => by simp [noSwap] at swap, fun _ => printedEnd_short (by simp [short])⟩⟩⟩

theorem renderTokenCall_end (noSwap : ctx.calledFromSwap = false) (smart : content.contractType = .triggerSmart) :
    Render.Ends (do renderTrc20Amount content; finishTransfer ctx content) (tokenCallEnd content) := by
  intro ui
  unfold tokenCallEnd
  simp only [renderTrc20Amount, wp_bind, wp_ite, wp_refuse]
  refine ⟨fun moves => (if_pos moves).symm, fun still => ?_⟩
  rw [if_neg still, wp_modify]
  split
  · rename_i unprintable
    exact (if_pos unprintable).symm
  · rename_i text printed
    have printable : adjustDecimals content.trc20Digits 100 content.decimals.first.toNat ≠ none := by
      rw [TxContent.trc20Digits, printed]
      simp
    rw [if_neg printable]
    simp only [finishTransfer, wp_bind, wp_modify, wp_ite, wp_printAmount, wp_pure]
    refine ⟨fun _ => ⟨fun long => printedEnd_long (by simp [long]), fun short =>
      ⟨fun swap => by simp [noSwap] at swap, fun _ => printedEnd_short (by simp [short])⟩⟩,
      fun plain => absurd smart plain⟩

theorem renderCustomContract_end : Render.Ends (renderCustomContract ctx content)
    (customCallEnd ctx.settings content) := by
  intro ui
  unfold customCallEnd
  simp only [renderCustomContract, wp_bind, wp_modify, wp_ite, wp_refuse, wp_printAmount, wp_pure]
  refine ⟨fun off => (if_pos (by simpa using off)).symm, fun on => ?_⟩
  rw [if_neg (by simpa using on)]
  refine ⟨fun both => (if_pos both).symm, fun one => ?_⟩
  rw [if_neg one]
  have nothing : tooLong 0 = false := by decide
  refine ⟨fun value => ?_, fun noValue => ⟨fun tokens => ?_, fun noTokens => ?_⟩⟩
  · have noTokens : content.callTokenValue = 0 := by
      by_contra tokens
      exact one ⟨value, tokens⟩
    rw [noTokens]
    exact ⟨fun long => printedEnd_long (by simp [long]), fun short =>
      ⟨fun long => printedEnd_long (by simp [long]), fun short' => printedEnd_short (by
        simp [short, short', show tooLong (0 : Int64).toUInt64 = false by decide])⟩⟩
  · have noValue : content.amount.first = 0 := by simpa using noValue
    rw [noValue]
    exact ⟨fun long => printedEnd_long (by simp [long]), fun short =>
      ⟨fun long => printedEnd_long (by simp [long]), fun short' => printedEnd_short (by
        simp [short, short', nothing])⟩⟩
  · have noValue : content.amount.first = 0 := by simpa using noValue
    have noTokens : content.callTokenValue = 0 := by simpa using noTokens
    rw [noValue, noTokens]
    exact ⟨fun long => printedEnd_long (by simp [long]), fun short => printedEnd_short (by
      simp [short, nothing, show tooLong (0 : Int64).toUInt64 = false by decide])⟩

theorem renderTriggerSmart_end (noSwap : ctx.calledFromSwap = false) (smart : content.contractType = .triggerSmart) :
    Render.Ends (renderTriggerSmart ctx content)
      (if content.trc20Method = 1 ∨ content.trc20Method = 2 then tokenCallEnd content
        else customCallEnd ctx.settings content) := by
  intro ui
  simp only [renderTriggerSmart, wp_bind, wp_modify, wp_ite]
  refine ⟨fun transfer => ?_, fun other => ⟨fun approve => ?_, fun custom => ?_⟩⟩
  · rw [if_pos (.inl transfer)]
    simpa only [wp_bind] using renderTokenCall_end noSwap smart _
  · rw [if_pos (.inr approve)]
    simpa only [wp_bind] using renderTokenCall_end noSwap smart _
  · rw [if_neg (not_or.mpr ⟨other, custom⟩)]
    exact renderCustomContract_end _

theorem renderExchangeCreate_end : Render.Ends (renderExchangeCreate content)
    (if 35 < content.tokenNamesLength.second.toNat + 1 then .refuse .incorrectData
      else printedEnd [content.amount.first, content.amount.second] .exchangeCreate) := by
  intro ui
  simp only [renderExchangeCreate, wp_bind, wp_modify, wp_ite, wp_refuse, wp_printAmount, wp_pure]
  refine ⟨fun wide => (if_pos wide).symm, fun fits => ?_⟩
  rw [if_neg fits]
  refine ⟨fun long => printedEnd_long ?_, fun short => ⟨fun long => printedEnd_long ?_, fun short' => printedEnd_short ?_⟩⟩
  · simp [long]
  · simp [long]
  · simp [short, short']

theorem renderExchangeWithdrawInject_end
    (type : content.contractType = .exchangeInject ∨ content.contractType = .exchangeWithdraw) :
    Render.Ends (renderExchangeWithdrawInject content)
      (printedEnd [content.exchangeID, content.amount.first] .exchangeWithdrawInject) := by
  intro ui
  obtain ⟨detail, known⟩ : ∃ detail, exchangeContractDetail content.contractType = some detail := by
    rcases type with type | type <;> exact ⟨_, by rw [type]; rfl⟩
  simp only [renderExchangeWithdrawInject, wp_bind, wp_modify, wp_printAmount, known, wp_pure]
  refine ⟨fun long => printedEnd_long ?_, fun short => ⟨fun long => printedEnd_long ?_, fun short' => printedEnd_short ?_⟩⟩
  · simp [long]
  · simp [long]
  · simp [short, short']

theorem renderExchangeTransaction_end : Render.Ends (renderExchangeTransaction content)
    (printedEnd [content.exchangeID, content.amount.first, content.amount.second] .exchangeTransaction) := by
  intro ui
  simp only [renderExchangeTransaction, wp_bind, wp_modify, wp_printAmount, wp_pure]
  refine ⟨fun long => printedEnd_long ?_, fun id => ⟨fun long => printedEnd_long ?_, fun first =>
    ⟨fun long => printedEnd_long ?_, fun second => printedEnd_short ?_⟩⟩⟩
  · simp [long]
  · simp [long]
  · simp [long]
  · simp [id, first, second]

/-- The check of the loop finds every sum that overflows. -/
theorem room_iff {total count : UInt64} :
    0xFFFFFFFFFFFFFFFF - total < count ↔ 2 ^ 64 ≤ total.toNat + count.toNat := by
  have bound := total.toNat_lt
  have top : (0xFFFFFFFFFFFFFFFF : UInt64).toNat = 2 ^ 64 - 1 := by decide
  have le : total ≤ 0xFFFFFFFFFFFFFFFF := by
    rw [UInt64.le_iff_toNat_le, top]
    omega
  rw [UInt64.lt_iff_toNat_lt, UInt64.toNat_sub_of_le _ _ le, top]
  omega

theorem VotesAdd.cons_iff {vote : VoteEntry} (votes : List VoteEntry) {total : UInt64}
    (room : ¬0xFFFFFFFFFFFFFFFF - total < vote.count.toUInt64) :
    VotesAdd (vote :: votes) total ↔ 0 < vote.count ∧ VotesAdd votes (total + vote.count.toUInt64) := by
  rw [room_iff, Nat.not_le] at room
  have sum : (total + vote.count.toUInt64).toNat = total.toNat + vote.count.toUInt64.toNat := by
    rw [UInt64.toNat_add]
    exact Nat.mod_eq_of_lt room
  simp only [VotesAdd, List.forall_mem_cons, sum, totalCount, List.map_cons, List.sum_cons, and_assoc, Nat.add_assoc]

/-- The loop gets through the votes that add up, and refuses the others. -/
theorem renderVotes_adds (votes : List VoteEntry) (index : Nat) (total : UInt64) (ui : Ui) :
    wp (renderVotes ctx votes index total) (fun _ _ => VotesAdd votes total)
      (fun verdict _ => verdict = .refuse .incorrectData ∧ ¬VotesAdd votes total) ui := by
  induction votes generalizing index total ui with
  | nil => exact ⟨by simp, by simpa [totalCount] using total.toNat_lt⟩
  | cons vote votes ih =>
    unfold renderVotes
    dsimp only
    rw [wp_ite]
    refine ⟨fun low => ⟨rfl, fun adds => ?_⟩, fun positive => ?_⟩
    · exact absurd (adds.1 vote List.mem_cons_self) (Int64.not_lt.mpr low)
    rw [wp_bind, wp_modify, wp_ite]
    refine ⟨fun full => ⟨rfl, fun adds => ?_⟩, fun room => ?_⟩
    · have bound := adds.2
      rw [totalCount, List.map_cons, List.sum_cons, ← Nat.add_assoc] at bound
      have overflows := room_iff.mp full
      omega
    rw [wp_bind]
    refine wp_mono (fillVoteSlots_ends index vote positive _ _) ?_ fun _ _ stopped => stopped
    intro _ filled _
    have cons := VotesAdd.cons_iff votes room
    refine wp_mono (ih _ _ _) (fun _ _ adds => ?_) ?_
    · exact cons.mpr ⟨Int64.not_le.mp positive, adds⟩
    · rintro verdict _ ⟨refused, overflows⟩
      exact ⟨refused, fun adds => overflows (cons.mp adds).2⟩

theorem renderVoteWitness_end : Render.Ends (renderVoteWitness ctx content) (votesEnd content.votes.entries) := by
  intro ui
  unfold votesEnd
  simp only [renderVoteWitness, wp_bind, wp_ite, wp_refuse, wp_modify, wp_pure]
  refine ⟨fun none => ?_, fun some => wp_mono (renderVotes_adds _ _ _ _) ?_ ?_⟩
  · rw [if_neg fun votes => votes.1 (List.length_eq_zero_iff.mp none)]
  · intro _ _ adds
    rw [if_pos ⟨fun none => some (List.length_eq_zero_iff.mpr none), adds⟩]
  · rintro verdict _ ⟨rfl, overflows⟩
    rw [if_neg fun votes => overflows votes.2]

theorem renderByHash_end : Render.Ends (renderByHash ctx content) (byHashEnd ctx.settings content.contractType) := by
  intro ui
  unfold byHashEnd
  simp only [renderByHash, wp_bind, wp_ite, wp_refuse, wp_modify]
  refine ⟨fun off => (if_pos (by simpa using off)).symm, fun on => ?_⟩
  rw [if_neg (by simpa using on)]
  split
  · rename_i unnamed
    exact (if_pos unnamed).symm
  · rename_i name named
    have some : contractTypeName content.contractType ≠ none := by simp [named]
    exact (if_neg some).symm

/-- A rendering with a recipient and no amount. -/
theorem display_end (before after : Ui → Ui) (kind : ApprovalState) :
    Render.Ends (do
      modify before
      modify after
      return .display kind) (.display kind) := by
  intro ui
  simp only [wp_bind, wp_modify, wp_pure]

theorem renderPermissionUpdate_end : Render.Ends (renderPermissionUpdate ctx) (permissionEnd ctx.msg) := by
  intro ui
  simp only [renderPermissionUpdate, wp_bind, wp_ite, wp_refuse, wp_modify, wp_pure]
  refine ⟨fun empty => ?_, fun named => wp_mono (renderPermissionEntries_ends _ 0 ui) ?_ fun _ _ stopped => stopped⟩
  · rw [permissionEnd, if_pos (by simpa [permissionEmpty] using empty)]
  · rintro entries _ rfl
    rw [permissionEnd, if_neg (by simpa [permissionEmpty] using named)]

theorem renderContract_end (noSwap : ctx.calledFromSwap = false) :
    Render.Ends (renderContract ctx content) (contractEnd ctx.settings content ctx.msg) := by
  unfold renderContract
  split
  case h_19 =>
    have decided : contractEnd ctx.settings content ctx.msg = byHashEnd ctx.settings content.contractType := by
      unfold contractEnd
      split <;> first | rfl | contradiction
    rw [decided]
    exact renderByHash_end
  all_goals rename_i type; simp only [contractEnd, type]
  case h_1 | h_2 => exact renderTransfer_end noSwap (by simp [type])
  case h_3 => exact renderTriggerSmart_end noSwap type
  case h_4 => exact renderExchangeCreate_end
  case h_5 => exact renderExchangeWithdrawInject_end (.inl type)
  case h_6 => exact renderExchangeWithdrawInject_end (.inr type)
  case h_7 => exact renderExchangeTransaction_end
  case h_8 => exact renderVoteWitness_end
  case h_13 => exact renderDelegateResource_end
  case h_17 => exact renderPermissionUpdate_end
  case h_18 => exact fun ui => rfl
  case h_10 => exact display_end _ _ _
  case h_15 | h_16 => exact fun ui => rfl
  all_goals exact printOneAmount_end _ _ _ _ _

/-- **Outside a swap a rendering takes the decision.** -/
theorem renderTransaction_end (noSwap : ctx.calledFromSwap = false) (ui : Ui) :
    ((renderTransaction ctx content).verdict ui).1 = transactionEnd ctx.settings content ctx.msg := by
  have swap : swapRefuses ctx content = false := by simp [swapRefuses, noSwap]
  rw [renderTransaction_verdict, transactionEnd]
  by_cases data : ctx.settings.dataAllowed = false ∧ content.dataBytes ≠ 0
  · rw [if_pos data, if_pos (by simpa using data)]
  rw [if_neg data, if_neg (by simpa using data)]
  by_cases id : content.permissionId < 0 ∨ 9 < content.permissionId
  · rw [if_pos id, if_pos id]
  rw [if_neg id, if_neg id, if_neg (by simp [swap])]
  exact (renderContract_end noSwap).verdict _

end

end TronLedger
