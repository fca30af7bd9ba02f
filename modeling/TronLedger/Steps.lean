import TronLedger.AppMain
import TronLedger.Lib.ExceptState
import Mathlib.Data.List.TakeDrop

/-!
# What a step can do

One specification for each handler, in terms of the globals that outlive a review: the
`Session`. Every invariant over runs is derived from these.

* `Session` leaves out the display buffers and the public key.
* A handler other than `handleSign` answers or starts one review; only the personal-message
  handler also touches `txContent`, in its counter.
-/

namespace TronLedger

/-- The globals the signing protocols share. -/
structure Session (σ κ : Type) where
  settings : Settings
  calledFromSwap : Bool
  swapResponseReady : Bool
  swapValidated : SwapValidated
  txContext : TxContext σ
  txContent : TxContent
  msg : Msg
  path : Bip32Path
  hash : Buf 32
  personal : PersonalMsgCtx κ
  pending : Option ApprovalState
  exited : Bool

section

variable {σ κ : Type}

def World.session (w : World σ κ) : Session σ κ where
  settings := w.app.settings
  calledFromSwap := w.app.calledFromSwap
  swapResponseReady := w.app.swapResponseReady
  swapValidated := w.app.swapValidated
  txContext := w.app.txContext
  txContent := w.app.txContent
  msg := w.app.msg
  path := w.app.transactionContext.bip32Path
  hash := w.app.transactionContext.hash
  personal := w.app.personalMsgCtx
  pending := w.app.pending
  exited := w.app.exited

/-- `w'` follows `w` with some news in the log; `move` relates the news to the session left. -/
def World.Takes (w w' : World σ κ) (move : List Effect → Session σ κ → Prop) : Prop :=
  ∃ news, w'.trace = news ++ w.trace ∧ move news w'.session

theorem World.Takes.intro {w w' : World σ κ} {move : List Effect → Session σ κ → Prop}
    (news : List Effect) {s' : Session σ κ} (trace : w'.trace = news ++ w.trace)
    (session : w'.session = s') (moved : move news s') : w.Takes w' move :=
  ⟨news, trace, session ▸ moved⟩

theorem World.Takes.mono {w w' : World σ κ} {move move' : List Effect → Session σ κ → Prop}
    (takes : w.Takes w' move) (h : ∀ news s', move news s' → move' news s') : w.Takes w' move' := by
  obtain ⟨news, trace, moved⟩ := takes
  exact ⟨news, trace, h _ _ moved⟩

/-- What a later world takes from `v`, `w` takes with the news that led to `v`. -/
theorem World.Takes.after {w v w' : World σ κ} {move : List Effect → Session σ κ → Prop}
    (first : List Effect) (trace : v.trace = first ++ w.trace) (takes : v.Takes w' move) :
    w.Takes w' fun news s' => ∃ rest, news = rest ++ first ∧ move rest s' := by
  obtain ⟨news, trace', moved⟩ := takes
  exact ⟨news ++ first, by rw [trace', trace, List.append_assoc], news, rfl, moved⟩

/-- `terminate_signing_session` on the session. -/
def Session.terminated (sdk : Sdk σ κ) (s : Session σ κ) : Session σ κ :=
  { s with txContext := ⟨sdk.sha256.zeroed, false⟩, txContent := .empty }

variable (sdk : Sdk σ κ) (w : World σ κ)

@[simp] theorem log_trace (e : Effect) : (w.log e).trace = e :: w.trace := rfl
@[simp] theorem log_session (e : Effect) : (w.log e).session = w.session := rfl
@[simp] theorem log_app (e : Effect) : (w.log e).app = w.app := rfl
@[simp] theorem setUi_trace (ui : Ui) : (w.setUi ui).trace = w.trace := rfl
@[simp] theorem setUi_session (ui : Ui) : (w.setUi ui).session = w.session := rfl
@[simp] theorem ioSendResponse_trace (data : Bytes) (sw : Sw) :
    (w.ioSendResponse data sw).trace = .reply data sw :: w.trace := rfl
@[simp] theorem ioSendResponse_session (data : Bytes) (sw : Sw) :
    (w.ioSendResponse data sw).session = w.session := rfl
@[simp] theorem ioSendSw_trace (sw : Sw) : (w.ioSendSw sw).trace = .reply [] sw :: w.trace := rfl
@[simp] theorem ioSendSw_session (sw : Sw) : (w.ioSendSw sw).session = w.session := rfl
@[simp] theorem throwSw_trace (e : Sw) : (w.throwSw e).trace = .reply [] e :: w.trace := rfl
@[simp] theorem throwSw_session (e : Sw) : (w.throwSw e).session = w.session := rfl
@[simp] theorem osSchedExit_trace : w.osSchedExit.trace = .exit :: w.trace := rfl
@[simp] theorem osSchedExit_session :
    w.osSchedExit.session = { w.session with exited := true } := rfl
@[simp] theorem initTx_trace : (w.initTx sdk).trace = .initTx :: w.trace := rfl
@[simp] theorem initTx_session : (w.initTx sdk).session =
    { w.session with txContext := ⟨sdk.sha256.init, true⟩, txContent := .empty } := rfl
@[simp] theorem terminateSigningSession_trace :
    (w.terminateSigningSession sdk).trace = w.trace := rfl
@[simp] theorem terminateSigningSession_session :
    (w.terminateSigningSession sdk).session = w.session.terminated sdk := rfl
@[simp] theorem refuse_trace (sw : Sw) :
    (w.refuse sdk sw).trace = .reply [] sw :: w.trace := rfl
@[simp] theorem refuse_session (sw : Sw) :
    (w.refuse sdk sw).session = w.session.terminated sdk := rfl
@[simp] theorem setPath_trace (path : Bip32Path) : (w.setPath path).trace = w.trace := rfl
@[simp] theorem setPath_session (path : Bip32Path) :
    (w.setPath path).session = { w.session with path := path } := rfl
@[simp] theorem setHash_trace (hash : Buf 32) : (w.setHash hash).trace = w.trace := rfl
@[simp] theorem setHash_session (hash : Buf 32) :
    (w.setHash hash).session = { w.session with hash := hash } := rfl
@[simp] theorem setContent_trace (content : TxContent) :
    (w.setContent content).trace = w.trace := rfl
@[simp] theorem setContent_session (content : TxContent) :
    (w.setContent content).session = { w.session with txContent := content } := rfl
@[simp] theorem setTip712_trace (context : MessageSigningContext712) :
    (w.setTip712 context).trace = w.trace := rfl
@[simp] theorem setTip712_session (context : MessageSigningContext712) :
    (w.setTip712 context).session = w.session := rfl
@[simp] theorem clearPersonalMsgCtx_trace : (w.clearPersonalMsgCtx sdk).trace = w.trace := rfl
@[simp] theorem clearPersonalMsgCtx_session : (w.clearPersonalMsgCtx sdk).session =
    { w.session with personal := ⟨sdk.keccak256.zeroed, false⟩ } := rfl
@[simp] theorem forgetContacts_trace : w.forgetContacts.trace = w.trace := rfl
@[simp] theorem forgetContacts_session : w.forgetContacts.session = w.session := rfl
@[simp] theorem receive_trace (c : Command) : (w.receive c).trace = .apdu c :: w.trace := rfl
@[simp] theorem receive_session (c : Command) : (w.receive c).session = w.session := rfl
@[simp] theorem hashTx_trace (payload : Bytes) :
    (w.hashTx sdk payload).trace = .hashTx payload :: w.trace := rfl
@[simp] theorem hashTx_session (payload : Bytes) : (w.hashTx sdk payload).session =
    { w.session with txContext :=
      { w.session.txContext with sha2 := sdk.sha256.update w.session.txContext.sha2 payload } } := rfl
@[simp] theorem setSwapResponseReady_trace :
    w.setSwapResponseReady.trace = .swapResponseReady :: w.trace := rfl
@[simp] theorem setSwapResponseReady_session :
    w.setSwapResponseReady.session = { w.session with swapResponseReady := true } := rfl
@[simp] theorem finishHash_trace : (w.finishHash sdk).trace = w.trace := rfl
@[simp] theorem finishHash_session : (w.finishHash sdk).session = { w.session with
    hash := (sdk.sha256.last w.session.txContext.sha2).1
    txContext := { w.session.txContext with sha2 := (sdk.sha256.last w.session.txContext.sha2).2 } } :=
  rfl

section Reviews

/-- The service label goes to a recipient address, which only short reviews show. -/
theorem insertKnownServiceLabel_some (service : Option Bytes) (fields : List TagValue)
    (room : fields.length < maxTxFields ∨ ∀ f ∈ fields, f.value ≠ .toAddress) :
    ∃ shown, insertKnownServiceLabel service fields = some shown := by
  cases service with
  | none => exact ⟨fields, rfl⟩
  | some label =>
    simp only [insertKnownServiceLabel]
    rw [List.span_eq_takeWhile_dropWhile]
    cases found : fields.dropWhile fun f => decide (f.value ≠ .toAddress) with
    | nil => exact ⟨fields, by simp⟩
    | cons address after =>
      have short : fields.length < maxTxFields := by
        refine room.resolve_right fun none => ?_
        have all : fields.dropWhile (fun f => decide (f.value ≠ .toAddress)) = [] := by
          rw [List.dropWhile_eq_nil_iff]
          intro f hf
          simpa using none f hf
        rw [all] at found
        simp at found
      exact ⟨_, if_neg (Nat.not_le.mpr short)⟩

theorem permissionUpdateFields_value (entries : List (Option PermissionEntry)) :
    ∀ f ∈ permissionUpdateFields entries, f.value ≠ .toAddress := by
  intro f hf
  simp only [permissionUpdateFields, List.mem_flatMap] at hf
  obtain ⟨⟨entry, e⟩, -, hf⟩ := hf
  cases entry with
  | none => simp at hf
  | some entry =>
    simp only [permissionFields, List.mem_append, List.mem_singleton, List.mem_map] at hf
    obtain (rfl | ⟨⟨key, k⟩, -, rfl⟩) | rfl := hf <;> simp

theorem reviewFields_room (state : ApprovalState) (type : ContractType) (ui : Ui) :
    (reviewFields state type ui).length < maxTxFields ∨
      ∀ f ∈ reviewFields state type ui, f.value ≠ .toAddress := by
  cases state with
  | permissionUpdate =>
    refine .inr fun f hf => ?_
    simp only [reviewFields, List.mem_cons] at hf
    rcases hf with rfl | hf
    · simp [field]
    · exact permissionUpdateFields_value _ f hf
  | witnessVoteTransaction =>
    refine .inr fun f hf => ?_
    simp only [reviewFields, List.mem_append, List.mem_map, List.mem_cons, List.not_mem_nil,
      or_false] at hf
    obtain ⟨i, -, rfl⟩ | rfl | rfl := hf <;> simp [field]
  | transfer =>
    left
    simp only [reviewFields, maxTxFields]
    split <;> simp
  | _ => left; simp [reviewFields, maxTxFields]

theorem prepareTxInfos_ready (state : ApprovalState) (dataWarning : Bool) (type : ContractType)
    (ui : Ui) (votes : state = .witnessVoteTransaction → ui.votesCount ≤ 5) :
    ∃ infos, prepareTxInfos state dataWarning type ui = .ready infos ∧ infos.state = state ∧
      infos.dataWarning = dataWarning := by
  obtain ⟨shown, inserted⟩ := insertKnownServiceLabel_some ui.recipientService
    (reviewFields state type ui) (reviewFields_room state type ui)
  have few : ¬(state = .witnessVoteTransaction ∧ maxTxFields - 2 < ui.votesCount) := by
    rintro ⟨vote, many⟩
    have := votes vote
    simp only [maxTxFields] at many
    omega
  simp only [prepareTxInfos, if_neg few, inserted]
  exact ⟨_, rfl, rfl, rfl⟩

/-- A started review shows the globals of the session that started it. -/
structure ReviewOf (s : Session σ κ) (state : ApprovalState) (dataWarning : Bool) (r : Review) :
    Prop where
  state_eq : r.infos.state = state
  warning_eq : r.infos.dataWarning = dataWarning
  content_eq : r.content = s.txContent
  msg_eq : r.msg = s.msg
  hash_eq : r.hash = s.hash
  path_eq : r.path = s.path
  ready : prepareTxInfos state dataWarning s.txContent.contractType r.ui = .ready r.infos

theorem uxFlowDisplay_spec (state : ApprovalState) (dataWarning : Bool)
    (shown : state ≠ .verifyAddress)
    (votes : state = .witnessVoteTransaction → w.app.ui.votesCount ≤ 5) :
    ∃ r, ReviewOf w.session state dataWarning r ∧
      (uxFlowDisplay sdk state dataWarning w).trace = .review r :: w.trace ∧
      (uxFlowDisplay sdk state dataWarning w).session =
        { w.session with pending := some state } ∧
      (state ≠ .signTip72Transaction → r.ui = w.app.ui) := by
  simp only [uxFlowDisplay, if_neg shown]
  obtain ⟨infos, prepared, stateEq, warningEq⟩ :=
    prepareTxInfos_ready state dataWarning w.app.txContent.contractType
      (if state = .signTip72Transaction then { w.app.ui with
        strings := formatTip712Hashes sdk w.app.messageSigningContext712 w.app.ui.strings } else w.app.ui)
      (by intro vote; subst vote; simpa using votes rfl)
  have prepared' := prepared
  simp only [World.setUi] at prepared' ⊢
  rw [prepared']
  refine ⟨_, ⟨stateEq, warningEq, rfl, rfl, rfl, rfl, ?_⟩, rfl, rfl, fun other => ?_⟩
  · exact prepared
  · simp [other]

end Reviews

end

end TronLedger
