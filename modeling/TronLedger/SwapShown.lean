import TronLedger.RenderShown

/-!
# What a swap signs

A swap compares the display buffers with what was validated and signs without a review. The buffers
are those of the transfer that would have been reviewed.
-/

namespace TronLedger

/-- What is claimed of a transaction that is signed without a review. -/
def Verdict.Signs (signs : Ui → Prop) (verdict : Verdict) (ui : Ui) : Prop := verdict = .swapSign → signs ui

section Contracts

variable {σ κ : Type} {ctx : RenderContext σ κ} {content : TxContent} {signs : Ui → Prop} {ui : Ui}

@[simp] theorem signs_refuse (sw : Sw) : (Verdict.refuse sw).Signs signs ui := by simp [Verdict.Signs]

@[simp] theorem signs_thrown (e : Sw) : (Verdict.thrown e).Signs signs ui := by simp [Verdict.Signs]

@[simp] theorem signs_display (kind : ApprovalState) : (Verdict.display kind).Signs signs ui := by
  simp [Verdict.Signs]

@[simp] theorem signs_swapSign : Verdict.swapSign.Signs signs ui ↔ signs ui := by simp [Verdict.Signs]

theorem signs_printAmount {put : Bytes → Ui → Ui} {amount : UInt64} {outlen sun : Nat}
    {post : Unit → Ui → Prop} :
    wp (Render.printAmount put amount outlen sun) post (Verdict.Signs signs) ui ↔
      (tooLong amount = false → post () (put (amountShown amount outlen sun) ui)) := by
  simp [amountShown]

/-- The last steps of a transfer: what is compared. -/
theorem finishTransfer_signs {ui : Ui}
    (smart : content.contractType = .triggerSmart → tooLong content.feeLimit = false →
      signs (Ui.putMaxFee (amountShown content.feeLimit 50 sunDig) (Ui.putTransfer ctx content ui)))
    (plain : content.contractType ≠ .triggerSmart → signs (Ui.putTransfer ctx content ui)) :
    wp (finishTransfer ctx content) (Verdict.Signs signs) (Verdict.Signs signs) ui := by
  unfold finishTransfer
  simp only [wp_bind, wp_modify, wp_ite, signs_printAmount, wp_refuse, wp_get, wp_pure, signs_refuse,
    signs_swapSign, signs_display, implies_true, and_true, true_and]
  constructor
  · intro type short _ _ _
    exact smart type short
  · intro type _ _ _
    exact plain type

theorem renderTransfer_signs (type : content.contractType = .transfer) :
    wp (renderTransfer ctx content) (Verdict.Signs (TransferShows ctx content ui .transfer))
      (Verdict.Signs (TransferShows ctx content ui .transfer)) ui := by
  unfold renderTransfer
  simp only [wp_bind, wp_modify, signs_printAmount]
  intro short
  refine finishTransfer_signs (fun smart => ?_) fun _ => ⟨rfl, short, rfl⟩
  rw [type] at smart
  simp at smart

theorem renderTriggerSmart_signs (type : content.contractType = .triggerSmart) (method : content.trc20Method = 1) :
    wp (renderTriggerSmart ctx content) (Verdict.Signs (TokenShows ctx content ui .transfer))
      (Verdict.Signs (TokenShows ctx content ui .transfer)) ui := by
  unfold renderTriggerSmart renderTrc20Amount
  simp only [wp_bind, wp_modify, wp_ite, wp_refuse, signs_refuse, implies_true, true_and]
  refine ⟨fun _ still => ?_, fun other => absurd method other⟩
  simp only [not_or, not_not] at still
  split
  · simp
  · rename_i text printable
    rw [wp_modify]
    refine finishTransfer_signs (fun _ short => ?_) fun plain => absurd type plain
    refine ⟨rfl, still.1, still.2, short, text, _, printable, ?_, rfl⟩
    rw [if_pos method]
    rfl

/-- What passes the comparison was shown as a transfer. -/
theorem renderTransaction_compared {before : Ui}
    (rendered : (renderTransaction ctx content).verdict before = (.swapSign, ui)) :
    SwapSound ctx content ui ∧ ContractShows ctx content (renderSender ctx content before) .transfer ui := by
  have sound := renderTransaction_sound ctx content before
  rw [rendered] at sound
  refine ⟨sound.2, ?_⟩
  have compared : Verdict.Signs (ContractShows ctx content (renderSender ctx content before) .transfer)
      ((renderTransaction ctx content).verdict before).1 ((renderTransaction ctx content).verdict before).2 := by
    refine verdict_of_wp ?_
    unfold renderTransaction renderContract
    simp only [wp_bind, wp_ite, wp_refuse, signs_refuse, implies_true, true_and, wp_modify]
    intro _ _ _
    rcases sound.2.contract with type | ⟨type, method⟩
    · have same (ui : Ui) : ContractShows ctx content ui .transfer = TransferShows ctx content ui .transfer := by
        funext shown
        simp only [ContractShows, type]
      rw [same]
      simp only [type]
      exact renderTransfer_signs type
    · have same (ui : Ui) : ContractShows ctx content ui .transfer = TokenShows ctx content ui .transfer := by
        funext shown
        simp only [ContractShows, type, method, true_or, if_true]
      rw [same]
      simp only [type]
      exact renderTriggerSmart_signs type method
  rw [rendered] at compared
  exact compared rfl

/-- What passes the comparison has a permission id of one digit. -/
theorem renderTransaction_permission {before : Ui}
    (rendered : (renderTransaction ctx content).verdict before = (.swapSign, ui)) :
    0 ≤ content.permissionId ∧ content.permissionId ≤ 9 := by
  have admitted : Verdict.Signs (fun _ => 0 ≤ content.permissionId ∧ content.permissionId ≤ 9)
      ((renderTransaction ctx content).verdict before).1 ((renderTransaction ctx content).verdict before).2 := by
    refine verdict_of_wp ?_
    unfold renderTransaction
    simp only [wp_bind, wp_ite, wp_refuse, signs_refuse, implies_true, true_and, wp_modify]
    intro _ admitted _
    have digit : 0 ≤ content.permissionId ∧ content.permissionId ≤ 9 := by simpa [not_or] using admitted
    exact wp_of_forall _ (fun _ _ _ => digit) fun _ _ _ => digit
  rw [rendered] at admitted
  exact admitted rfl

/-- **What a swap signs is a transfer with the buffers of its review, compared with what was validated.** -/
theorem Renders.compared {sdk : Sdk σ κ} {s : Session σ κ} {ui : Ui} (renders : s.Renders sdk .swapSign ui) :
    ∃ contacts residue before, SwapSound (s.renderContext sdk contacts residue) s.txContent ui ∧
      ContractShows (s.renderContext sdk contacts residue) s.txContent
        (renderSender (s.renderContext sdk contacts residue) s.txContent before) .transfer ui := by
  obtain ⟨contacts, residue, before, rendered⟩ := renders
  exact ⟨contacts, residue, before, renderTransaction_compared rendered⟩

end Contracts

end TronLedger
