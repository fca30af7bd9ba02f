import TronLedger.ClientCalls
import TronLedger.Lib.Lockstep
import TronLedger.LabelRuns
import TronLedger.WhatIsShown

/-!
# Sessions are isolated

What a session of INS_SIGN does from its opening APDU on depends on that APDU and on what follows,
on the settings and on the contacts. Nothing an earlier session left, in the display buffers, the
message, the digest or the path, is seen in its answers, its reviews or its signatures.

* `Alike` relates the worlds of two such sessions; `Alike.step` says that one event keeps it.
-/

namespace TronLedger

section

variable {σ κ : Type} (sdk : Sdk σ κ)

/-- The instructions beside INS_SIGN that keep something in the globals. -/
def otherInstructions : List UInt8 :=
  [Ins.getPublicKey, Ins.signTxnHash, Ins.getEcdhSecret, Ins.signPersonalMessage, Ins.signTip712Message]

/-- An event that is not one of the other instructions. -/
def Event.onlySigns : Event → Bool
  | .apdu c => c.cla ≠ Ins.cla || !otherInstructions.contains c.ins
  | _ => true

/-- Two worlds in which a session was opened by the same APDU. -/
structure Alike (w v : World σ κ) : Prop where
  settings : w.app.settings = v.app.settings
  contacts : w.app.contacts = v.app.contacts
  noSwap : w.app.calledFromSwap = false
  noSwap' : v.app.calledFromSwap = false
  txContext : w.app.txContext = v.app.txContext
  txContent : w.app.txContent = v.app.txContent
  path : w.app.transactionContext.bip32Path = v.app.transactionContext.bip32Path
  pending : w.app.pending = v.app.pending
  own : ∀ kind, w.app.pending = some kind → kind.isTransaction = true
  exited : w.app.exited = v.app.exited
  msg : w.app.txContent.contractType ≠ .invalidContract → w.app.msg = v.app.msg
  hash : w.app.pending ≠ none → w.app.transactionContext.hash = v.app.transactionContext.hash

/-- Two reviews of one transaction. -/
structure Review.Same (r r' : Review) : Prop where
  state : r.infos.state = r'.infos.state
  dataWarning : r.infos.dataWarning = r'.infos.dataWarning
  content : r.content = r'.content
  msg : r.msg = r'.msg
  hash : r.hash = r'.hash
  path : r.path = r'.path

/-- The same effect; the display buffers of a review are not looked at. -/
def Effect.Same (e e' : Effect) : Prop := e = e' ∨ ∃ r r', e = .review r ∧ e' = .review r' ∧ r.Same r'

/-- From `w` and `v` on, the same effects lead to alike worlds. -/
def Mirrors (w v w' v' : World σ κ) : Prop := Alike w' v' ∧ LoggedAlike World.trace Effect.Same w v w' v'

variable {w v : World σ κ}

theorem Mirrors.after {w₁ v₁ w₂ v₂ : World σ κ} {e : Effect} (mirrors : Mirrors w₁ v₁ w₂ v₂)
    (trace : w₁.trace = e :: w.trace) (trace' : v₁.trace = e :: v.trace) : Mirrors w v w₂ v₂ :=
  ⟨mirrors.1, (LoggedAlike.single trace trace' (.inl rfl)).trans mirrors.2⟩

/-- The same answer. -/
theorem Alike.reply {w₁ v₁ : World σ κ} (alike : Alike w₁ v₁) (trace : w₁.trace = w.trace) (trace' : v₁.trace = v.trace)
    (data : Bytes) (sw : Sw) : Mirrors w v (w₁.ioSendResponse data sw) (v₁.ioSendResponse data sw) :=
  ⟨{ alike with }, .single (congrArg _ trace) (congrArg _ trace') (.inl rfl)⟩

theorem Alike.setContent (alike : Alike w v) (typed : w.app.txContent.contractType ≠ .invalidContract)
    (content : TxContent) : Alike (w.setContent content) (v.setContent content) :=
  { alike with txContent := rfl, msg := fun _ => alike.msg typed }

theorem Alike.terminated (alike : Alike w v) : Alike (w.terminateSigningSession sdk) (v.terminateSigningSession sdk) :=
  { alike with txContext := rfl, txContent := rfl, msg := fun typed => absurd rfl typed }

theorem Alike.initialised (alike : Alike w v) : Alike (w.initTx sdk) (v.initTx sdk) :=
  { alike with txContext := rfl, txContent := rfl, msg := fun typed => absurd rfl typed }

theorem Alike.setUi (alike : Alike w v) (ui ui' : Ui) : Alike (w.setUi ui) (v.setUi ui') := { alike with }

section Parsing

/-- The message before a chunk counts for nothing, unless the chunk is empty. -/
theorem processTx_msg (allowed : Bool) (payload : Bytes) (content : TxContent) (msg msg' : Msg) :
    processTx allowed payload content msg = processTx allowed payload content msg' ∨
      processTx allowed payload content msg = (.finished, content, msg) ∧
        processTx allowed payload content msg' = (.finished, content, msg') := by
  by_cases empty : payload.length = 0
  · exact .inr ⟨if_pos empty, if_pos empty⟩
  · left
    rw [processTx, processTx, if_neg empty, if_neg empty]

theorem Alike.hashTx (alike : Alike w v) (payload : Bytes) : Alike (w.hashTx sdk payload) (v.hashTx sdk payload) := by
  refine { alike with txContext := ?_ }
  change TxContext.mk _ _ = TxContext.mk _ _
  rw [alike.txContext]

/-- A chunk is parsed with the same status. -/
theorem Alike.processTx (alike : Alike w v) (payload : Bytes) :
    (w.processTx payload).1 = (v.processTx payload).1 ∧ Alike (w.processTx payload).2 (v.processTx payload).2 := by
  have parsed := processTx_msg w.app.settings.dataAllowed payload w.app.txContent w.app.msg v.app.msg
  have read : TronLedger.processTx v.app.settings.dataAllowed payload v.app.txContent v.app.msg =
      TronLedger.processTx w.app.settings.dataAllowed payload w.app.txContent v.app.msg := by
    rw [alike.settings, alike.txContent]
  unfold World.processTx
  rw [read]
  obtain parsed | ⟨kept, kept'⟩ := parsed
  · rw [parsed]
    exact ⟨rfl, { alike with txContent := rfl, msg := fun _ => rfl }⟩
  · rw [kept, kept']
    exact ⟨rfl, { alike with txContent := rfl }⟩

end Parsing

section Rendering

/-- A transaction without a contract is refused, whatever the message. -/
theorem transactionEnd_msg {settings : Settings} {content : TxContent} {msg msg' : Msg}
    (same : content.contractType ≠ .invalidContract → msg = msg') :
    transactionEnd settings content msg = transactionEnd settings content msg' := by
  by_cases type : content.contractType = .invalidContract
  · simp [transactionEnd, contractEnd, type]
  · rw [same type]

/-- The verdict on a transaction is the same. -/
theorem Alike.verdict (alike : Alike w v) : (w.rendered sdk).1 = (v.rendered sdk).1 := by
  have ends : (w.rendered sdk).1 = transactionEnd w.app.settings w.app.txContent w.app.msg :=
    renderTransaction_end alike.noSwap _
  have ends' : (v.rendered sdk).1 = transactionEnd v.app.settings v.app.txContent v.app.msg :=
    renderTransaction_end alike.noSwap' _
  rw [ends, ends', ← alike.settings, ← alike.txContent]
  exact transactionEnd_msg alike.msg

/-- The world in which a verdict is applied. -/
def World.atVerdict (w : World σ κ) : World σ κ :=
  ((w.finishHash sdk).setUi (w.rendered sdk).2).setContent (renderedContent w.app.txContent)

/-- The same digest. -/
theorem Alike.digest (alike : Alike w v) :
    (w.atVerdict sdk).app.transactionContext.hash = (v.atVerdict sdk).app.transactionContext.hash := by
  change (sdk.sha256.last w.app.txContext.sha2).1 = (sdk.sha256.last v.app.txContext.sha2).1
  rw [alike.txContext]

theorem Alike.atVerdict (alike : Alike w v) : Alike (w.atVerdict sdk) (v.atVerdict sdk) where
  __ := alike
  txContext := by
    change TxContext.mk _ _ = TxContext.mk _ _
    rw [alike.txContext]
  txContent := congrArg renderedContent alike.txContent
  msg typed := alike.msg ((renderedContent_type w.app.txContent) ▸ typed)
  hash _ := alike.digest sdk

/-- The same review is started. -/
theorem Alike.display (alike : Alike w v) (hash : w.app.transactionContext.hash = v.app.transactionContext.hash)
    (typed : w.app.txContent.contractType ≠ .invalidContract) {kind : ApprovalState} (own : kind.isTransaction = true)
    (votes : kind = .witnessVoteTransaction → w.app.ui.votesCount ≤ 5)
    (votes' : kind = .witnessVoteTransaction → v.app.ui.votesCount ≤ 5) (dataWarning : Bool) :
    Mirrors w v (uxFlowDisplay sdk kind dataWarning w) (uxFlowDisplay sdk kind dataWarning v) := by
  have notVerify : kind ≠ .verifyAddress := by
    rintro rfl
    simp [ApprovalState.isTransaction] at own
  obtain ⟨r, shown, trace, session, -⟩ := uxFlowDisplay_spec sdk w kind dataWarning notVerify votes
  obtain ⟨r', shown', trace', session', -⟩ := uxFlowDisplay_spec sdk v kind dataWarning notVerify votes'
  have kept {α : Type} (project : Session σ κ → α) :
      project (uxFlowDisplay sdk kind dataWarning w).session = project { w.session with pending := some kind } := by
    rw [session]
  have kept' {α : Type} (project : Session σ κ → α) :
      project (uxFlowDisplay sdk kind dataWarning v).session = project { v.session with pending := some kind } := by
    rw [session']
  have field {α : Type} (project : Session σ κ → α)
      (same : project { w.session with pending := some kind } = project { v.session with pending := some kind }) :
      project (uxFlowDisplay sdk kind dataWarning w).session =
        project (uxFlowDisplay sdk kind dataWarning v).session :=
    (kept project).trans (same.trans (kept' project).symm)
  have msg : w.app.msg = v.app.msg := alike.msg typed
  refine ⟨?_, .single trace trace' (.inr ⟨r, r', rfl, rfl, ?_⟩)⟩
  · constructor
    case settings => exact field Session.settings alike.settings
    case contacts => rw [uxFlowDisplay_contacts, uxFlowDisplay_contacts, alike.contacts]
    case noSwap => exact (kept Session.calledFromSwap).trans alike.noSwap
    case noSwap' => exact (kept' Session.calledFromSwap).trans alike.noSwap'
    case txContext => exact field Session.txContext alike.txContext
    case txContent => exact field Session.txContent alike.txContent
    case path => exact field Session.path alike.path
    case pending => exact field Session.pending rfl
    case own =>
      intro other waits
      obtain rfl := Option.some.inj ((kept Session.pending).symm.trans waits)
      exact own
    case exited => exact field Session.exited alike.exited
    case msg => exact fun _ => field Session.msg msg
    case hash => exact fun _ => field Session.hash hash
  · constructor
    · rw [shown.state_eq, shown'.state_eq]
    · rw [shown.warning_eq, shown'.warning_eq]
    · rw [shown.content_eq, shown'.content_eq]
      exact alike.txContent
    · rw [shown.msg_eq, shown'.msg_eq]
      exact msg
    · rw [shown.hash_eq, shown'.hash_eq]
      exact hash
    · rw [shown.path_eq, shown'.path_eq]
      exact alike.path

/-- **A completed transaction ends alike.** -/
theorem Alike.finalises (alike : Alike w v) : Mirrors w v (signFinalise sdk w) (signFinalise sdk v) := by
  have ends : signFinalise sdk w = applyVerdict sdk (w.rendered sdk).1 (w.atVerdict sdk) := rfl
  have ends' : signFinalise sdk v = applyVerdict sdk (v.rendered sdk).1 (v.atVerdict sdk) := rfl
  have sound : Verdict.Sound (renderContext sdk (w.finishHash sdk)) w.app.txContent _ (w.rendered sdk).1
    (w.rendered sdk).2 := renderTransaction_sound _ _ w.app.ui
  have sound' : Verdict.Sound (renderContext sdk (v.finishHash sdk)) v.app.txContent _ (v.rendered sdk).1
    (v.rendered sdk).2 := renderTransaction_sound _ _ v.app.ui
  have begun := alike.atVerdict sdk
  have data : (w.atVerdict sdk).app.txContent.dataBytes = (v.atVerdict sdk).app.txContent.dataBytes := by
    rw [begun.txContent]
  rw [ends, ends']
  rw [← alike.verdict sdk] at sound' ⊢
  have typed : ∀ kind, (w.rendered sdk).1 = .display kind → w.app.txContent.contractType ≠ .invalidContract := by
    intro kind display type
    obtain ⟨sw, refused⟩ :=
      renderTransaction_invalid (renderContext sdk (w.finishHash sdk)) w.app.txContent type w.app.ui
    exact absurd (display.symm.trans refused) (by simp)
  cases verdict : (w.rendered sdk).1 with
  | refuse sw => exact (begun.terminated sdk).reply rfl rfl [] sw
  | thrown e => exact begun.reply rfl rfl [] e
  | swapSign =>
    rw [verdict] at sound
    have swap : w.app.calledFromSwap = true := sound.2.swap
    simp [alike.noSwap] at swap
  | display kind =>
    rw [verdict] at sound sound'
    obtain ⟨-, -, -, own, votes⟩ := sound
    obtain ⟨-, -, -, -, votes'⟩ := sound'
    simp only [applyVerdict, ← data]
    exact begun.display sdk (alike.digest sdk)
      (fun type => typed kind verdict ((renderedContent_type _).symm.trans type)) own votes votes' _

end Rendering

section Frames

theorem Alike.parses (alike : Alike w v) (p1 : UInt8) (payload : Bytes) :
    Mirrors w v (signParse sdk p1 payload w) (signParse sdk p1 payload v) := by
  obtain ⟨status, parsed⟩ := alike.processTx payload
  have trace := processTx_trace w payload
  have trace' : (v.processTx payload).2.trace = .processTx payload (w.session.parseStatus payload) :: v.trace :=
    (processTx_trace v payload).trans (congrArg (fun status => Effect.processTx payload status :: v.trace) status.symm)
  have status' : v.session.parseStatus payload = w.session.parseStatus payload := status.symm
  unfold signParse
  rw [processTx_eq w payload, processTx_eq v payload, status']
  cases w.session.parseStatus payload with
  | processing =>
    dsimp only
    split
    · exact (parsed.finalises sdk).after trace trace'
    · exact (parsed.reply rfl rfl [] .ok).after trace trace'
  | finished => exact (parsed.finalises sdk).after trace trace'
  | fault =>
    have again := (parsed.initialised sdk).reply rfl rfl [] .incorrectData
    exact (again.after rfl rfl).after trace trace'
  | missingSettingDataAllowed =>
    have again := (parsed.initialised sdk).reply rfl rfl [] .missingSettingDataAllowed
    simp only [parsed.noSwap, parsed.noSwap', Bool.false_eq_true, if_false]
    exact (again.after rfl rfl).after trace trace'

theorem Alike.hashes (alike : Alike w v) (p1 : UInt8) (payload : Bytes) :
    Mirrors w v (signChunk sdk p1 payload w) (signChunk sdk p1 payload v) := by
  have hashed := alike.hashTx sdk payload
  have noSwap : (w.hashTx sdk payload).app.calledFromSwap = false := hashed.noSwap
  have noSwap' : (v.hashTx sdk payload).app.calledFromSwap = false := hashed.noSwap'
  simp only [signChunk, noSwap, noSwap', Bool.false_eq_true, if_false]
  exact (hashed.parses sdk p1 payload).after rfl rfl

/-- An APDU that gets to its payload, or is answered before. -/
def EntersAlike (w v : World σ κ) (entered entered' : Except (World σ κ) (World σ κ × Bytes)) : Prop :=
  (∃ w' v', entered = .error w' ∧ entered' = .error v' ∧ Mirrors w v w' v') ∨
    ∃ w' v' payload, entered = .ok (w', payload) ∧ entered' = .ok (v', payload) ∧ Mirrors w v w' v'

/-- The path is read alike, and a session is opened. -/
theorem Alike.opens (alike : Alike w v) (workBuffer : Bytes) :
    EntersAlike w v (signOpen sdk workBuffer w) (signOpen sdk workBuffer v) := by
  have read : readBip32Path workBuffer v.app.transactionContext.bip32Path =
      readBip32Path workBuffer w.app.transactionContext.bip32Path := by rw [alike.path]
  unfold signOpen
  rw [read]
  obtain ⟨path, ret⟩ := readBip32Path workBuffer w.app.transactionContext.bip32Path
  have placed : Alike (w.setPath path) (v.setPath path) := { alike with path := rfl }
  cases ret with
  | none => exact .inl ⟨_, _, rfl, rfl, placed.reply rfl rfl [] _⟩
  | some n =>
    refine .inr ⟨_, _, _, rfl, rfl, ?_⟩
    exact ⟨(placed.initialised sdk).setUi _ _, .single rfl rfl (.inl rfl)⟩

/-- Metadata is taken alike. -/
theorem Alike.takes (alike : Alike w v) (p1 : UInt8) (workBuffer : Bytes) :
    EntersAlike w v (signMetadata sdk p1 workBuffer w) (signMetadata sdk p1 workBuffer v) := by
  have answered {content : TxContent} {sw : Sw} (typed : w.app.txContent.contractType ≠ .invalidContract) :
      EntersAlike w v (.error ((w.setContent content).ioSendSw sw)) (.error ((v.setContent content).ioSendSw sw)) :=
    .inl ⟨_, _, rfl, rfl, (alike.setContent typed content).reply rfl rfl [] sw⟩
  have entered {content : TxContent} (typed : w.app.txContent.contractType ≠ .invalidContract) :
      EntersAlike w v (.ok (w.setContent content, [])) (.ok (v.setContent content, [])) :=
    .inr ⟨_, _, _, rfl, rfl, alike.setContent typed content, [], [], rfl, rfl, .nil⟩
  have refused {sw : Sw} : EntersAlike w v (.error (w.ioSendSw sw)) (.error (v.ioSendSw sw)) :=
    .inl ⟨_, _, rfl, rfl, alike.reply rfl rfl [] sw⟩
  unfold signMetadata
  rw [← alike.txContent]
  split <;> rename_i type
  case h_1 | h_2 =>
    have typed : w.app.txContent.contractType ≠ .invalidContract := by simp [type]
    split
    · exact refused
    dsimp only
    generalize parseTokenName sdk (if p1 &&& 0x07 = 0 then 0 else 1) workBuffer w.app.txContent = parsed
    obtain ⟨ok, content⟩ := parsed
    cases ok with
    | false => exact answered typed
    | true =>
      dsimp only
      split
      · exact answered typed
      · exact entered typed
  case h_3 | h_4 | h_5 =>
    have typed : w.app.txContent.contractType ≠ .invalidContract := by simp [type]
    split
    · exact refused
    split
    · exact refused
    generalize parseExchange sdk workBuffer w.app.txContent = parsed
    obtain ⟨ok, content⟩ := parsed
    cases ok with
    | false => exact answered typed
    | true => exact entered typed
  case h_6 => exact refused

theorem Alike.enters (alike : Alike w v) (p1 : UInt8) (workBuffer : Bytes) :
    EntersAlike w v (signEntry sdk p1 workBuffer w) (signEntry sdk p1 workBuffer v) := by
  unfold signEntry
  split
  · exact alike.opens sdk workBuffer
  split
  · exact alike.takes sdk p1 workBuffer
  split
  · exact .inl ⟨_, _, rfl, rfl, alike.reply rfl rfl [] _⟩
  · exact .inr ⟨_, _, _, rfl, rfl, alike, .refl w v⟩

theorem Mirrors.trans {w₁ v₁ w₂ v₂ : World σ κ} (first : Mirrors w v w₁ v₁) (second : Mirrors w₁ v₁ w₂ v₂) :
    Mirrors w v w₂ v₂ := ⟨second.1, first.2.trans second.2⟩

/-- **An APDU of INS_SIGN is handled alike.** -/
theorem Alike.handles (alike : Alike w v) (p1 p2 : UInt8) (workBuffer : Bytes) :
    Mirrors w v (handleSign sdk p1 p2 workBuffer w) (handleSign sdk p1 p2 workBuffer v) := by
  unfold handleSign
  split
  · exact alike.reply rfl rfl [] _
  obtain ⟨w', v', entered, entered', mirrors⟩ | ⟨w', v', payload, entered, entered', mirrors⟩ :=
    alike.enters sdk p1 workBuffer
  · rw [entered, entered']
    exact mirrors
  · rw [entered, entered']
    have opened : w'.app.txContext.initialized = v'.app.txContext.initialized := by rw [mirrors.1.txContext]
    dsimp only
    rw [opened]
    split
    · exact mirrors.trans (mirrors.1.reply rfl rfl [] _)
    · exact mirrors.trans (mirrors.1.hashes sdk p1 payload)

end Frames

section Events

variable {version : AppVersion} {e : Event}

/-- The world with a signature in it. -/
def World.signed (w : World σ κ) (r s : Buf 32) (odd : Bool) : World σ κ :=
  let context := w.app.transactionContext
  World.log { w with app := { w.app with
    transactionContext := { context with
      signature := Buf.ofBytes 65 (r.bytes ++ s.bytes ++ [if odd then 1 else 0]) } } }
    (.signature context.bip32Path context.hash)

/-- The same signature, over the digest of the review. -/
theorem Alike.signs (alike : Alike w v) (hash : w.app.transactionContext.hash = v.app.transactionContext.hash) :
    Mirrors w v (uiCallbackTxOk sdk w) (uiCallbackTxOk sdk v) := by
  have signed : sdk.signHash v.app.transactionContext.bip32Path v.app.transactionContext.hash =
      sdk.signHash w.app.transactionContext.bip32Path w.app.transactionContext.hash := by
    rw [alike.path, hash]
  simp only [uiCallbackTxOk, signAndReply, signTransaction]
  rw [signed]
  cases sdk.signHash w.app.transactionContext.bip32Path w.app.transactionContext.hash with
  | none =>
    obtain ⟨ends, logged⟩ := alike.reply rfl rfl [] .securityStatusNotSatisfied
    exact ⟨ends.terminated sdk, logged⟩
  | some rs =>
    obtain ⟨r, s, odd⟩ := rs
    have signature : Alike (w.signed r s odd) (v.signed r s odd) := { alike with hash := fun _ => hash }
    obtain ⟨ends, logged⟩ :=
      signature.reply rfl rfl (Buf.ofBytes 65 (r.bytes ++ s.bytes ++ [if odd then 1 else 0])).bytes .ok
    have entry : Effect.signature w.app.transactionContext.bip32Path w.app.transactionContext.hash =
        .signature v.app.transactionContext.bip32Path v.app.transactionContext.hash := by
      rw [alike.path, hash]
    have first : LoggedAlike World.trace Effect.Same w v (w.signed r s odd) (v.signed r s odd) :=
      .single rfl rfl (.inl entry)
    exact ⟨ends.terminated sdk, first.trans logged⟩

/-- The answer to a review. -/
theorem Alike.answers (alike : Alike w v) {kind : ApprovalState} (own : kind.isTransaction = true)
    (hash : w.app.transactionContext.hash = v.app.transactionContext.hash) (confirm : Bool) :
    Mirrors w v (reviewChoice sdk confirm kind w) (reviewChoice sdk confirm kind v) := by
  have rejected : Mirrors w v (uiCallbackTxCancel sdk w) (uiCallbackTxCancel sdk v) := by
    obtain ⟨ends, logged⟩ := alike.reply rfl rfl [] .conditionsOfUseNotSatisfied
    exact ⟨ends.terminated sdk, logged⟩
  cases confirm with
  | true =>
    cases kind
    case verifyAddress | signPersonalMessage | sharedEcdhSecret | signTip72Transaction =>
      simp [ApprovalState.isTransaction] at own
    all_goals exact alike.signs sdk hash
  | false =>
    cases kind
    case signTip72Transaction => simp [ApprovalState.isTransaction] at own
    all_goals exact rejected

/-- An APDU that opens a session is one of INS_SIGN. -/
theorem opensSign_onlySigns {c : Command} (opens : c.opensSign = true) : (Event.apdu c).onlySigns = true := by
  simp only [Command.opensSign, Command.isSign, decide_eq_true_eq] at opens
  simp [Event.onlySigns, otherInstructions, opens.1, Ins.sign, Ins.getPublicKey, Ins.signTxnHash, Ins.getEcdhSecret,
    Ins.signPersonalMessage, Ins.signTip712Message]

/-- What is left of the dispatcher. -/
theorem onlySigns_dispatched {c : Command} (only : (Event.apdu c).onlySigns = true) (cla : c.cla = Ins.cla)
    (noSwap : w.app.calledFromSwap = false) : apduDispatcher sdk version c w =
      if c.ins = Ins.sign then handleSign sdk c.p1 c.p2 c.data w.forgetContacts
      else if c.ins = Ins.getAppConfiguration then handleGetAppConfiguration version w.forgetContacts
      else w.forgetContacts.ioSendSw .insNotSupported := by
  have noSwap' : w.forgetContacts.app.calledFromSwap = false := noSwap
  simp [Event.onlySigns, otherInstructions, cla] at only
  obtain ⟨key, hash, secret, message, typed⟩ := only
  simp only [apduDispatcher, cla, ne_eq, not_true_eq_false, noSwap', Bool.false_eq_true, false_and, if_false, dispatchIns,
    if_neg key, if_neg hash, if_neg secret, if_neg message, if_neg typed]

/-- A frame is dispatched alike. -/
theorem Alike.dispatches (alike : Alike w v) {c : Command} (only : (Event.apdu c).onlySigns = true) :
    Mirrors w v (apduDispatcher sdk version c (w.receive c)) (apduDispatcher sdk version c (v.receive c)) := by
  have received : Alike (w.receive c) (v.receive c) := { alike with }
  have forgotten : Alike (w.receive c).forgetContacts (v.receive c).forgetContacts := received.setUi _ _
  by_cases cla : c.cla = Ins.cla
  · rw [onlySigns_dispatched sdk only cla received.noSwap, onlySigns_dispatched sdk only cla received.noSwap']
    split
    · exact (forgotten.handles sdk c.p1 c.p2 c.data).after rfl rfl
    split
    · simp only [handleGetAppConfiguration, ← forgotten.settings]
      exact (forgotten.reply rfl rfl _ _).after rfl rfl
    · exact (forgotten.reply rfl rfl [] _).after rfl rfl
  · simp only [apduDispatcher, ne_eq, cla, not_false_eq_true, if_true]
    exact (received.reply rfl rfl [] _).after rfl rfl

/-- Nothing waits for an answer. -/
theorem Alike.answered (alike : Alike w v) : Alike { w with app := { w.app with pending := none } }
    { v with app := { v.app with pending := none } } where
  __ := alike
  pending := rfl
  own _ waits := nomatch waits
  hash waits := absurd rfl waits

/-- **An event keeps worlds alike.** -/
theorem Alike.step (alike : Alike w v) (only : e.onlySigns = true) {w' : World σ κ}
    (stepped : TronLedger.step sdk version w e = some w') :
    ∃ v', TronLedger.step sdk version v e = some v' ∧ Mirrors w v w' v' := by
  unfold TronLedger.step at stepped ⊢
  rw [← alike.exited, ← alike.pending]
  split at stepped
  · simp at stepped
  rename_i running
  rw [if_neg running]
  cases pending : w.app.pending with
  | some kind =>
    cases e with
    | answer confirm =>
      simp only [pending, Option.some.injEq] at stepped ⊢
      subst stepped
      have waits : w.app.pending ≠ none := by simp [pending]
      exact ⟨_, rfl, alike.answered.answers sdk (alike.own kind pending) (alike.hash waits) confirm⟩
    | _ => simp [pending] at stepped
  | none =>
    cases e with
    | answer confirm => simp [pending] at stepped
    | apdu c =>
      simp only [pending, Option.some.injEq] at stepped ⊢
      subst stepped
      exact ⟨_, rfl, alike.dispatches sdk only⟩
    | badFrame =>
      simp only [pending, Option.some.injEq] at stepped ⊢
      subst stepped
      exact ⟨_, rfl, alike.reply rfl rfl [] _⟩
    | toggleSetting setting =>
      simp only [pending, Option.some.injEq] at stepped ⊢
      subst stepped
      exact ⟨_, rfl, { alike.answered with
        settings := by rw [alike.settings]
        pending := pending.symm.trans alike.pending }, [], [], rfl, rfl, .nil⟩
    | setContacts contacts =>
      simp only [pending, Option.some.injEq] at stepped ⊢
      subst stepped
      exact ⟨_, rfl, { alike.answered with
        contacts := rfl
        pending := pending.symm.trans alike.pending }, [], [], rfl, rfl, .nil⟩
    | ioReset =>
      simp only [pending, Option.some.injEq] at stepped ⊢
      subst stepped
      exact ⟨_, rfl, { alike.terminated sdk with exited := rfl }, .single rfl rfl (.inl rfl)⟩

end Events

section Opening

variable {version : AppVersion} {c : Command}

/-- Two idle worlds of the app, started by the user, with the same settings and contacts. -/
structure Twins (w v : World σ κ) : Prop where
  settings : w.app.settings = v.app.settings
  contacts : w.app.contacts = v.app.contacts
  noSwap : w.app.calledFromSwap = false
  noSwap' : v.app.calledFromSwap = false
  idle : w.app.pending = none
  idle' : v.app.pending = none
  running : w.app.exited = false
  running' : v.app.exited = false

/-- The world in which the first chunk of a session is hashed. -/
def World.accepts (w : World σ κ) (path : Bip32Path) : World σ κ :=
  ((w.setPath path).initTx sdk).setUi { w.app.ui with customContractField := 0 }

theorem opensSign_handled (opens : c.opensSign = true) : ∃ path payload, ∀ w : World σ κ,
    handleSign sdk c.p1 c.p2 c.data w = signChunk sdk c.p1 payload (w.accepts sdk path) := by
  simp only [Command.opensSign, Command.isOpener, decide_eq_true_eq] at opens
  obtain ⟨-, p2, opener, accepted⟩ := opens
  rw [path_isSome [], Option.isSome_iff_exists] at accepted
  obtain ⟨n, read⟩ := accepted
  refine ⟨(readBip32Path c.data []).1, c.data.drop n, fun w => ?_⟩
  have path : readBip32Path c.data w.app.transactionContext.bip32Path = ((readBip32Path c.data []).1, some n) := by
    rw [readBip32Path_accepted read, ← read]
  simp only [handleSign, p2, ne_eq, not_true_eq_false, if_false, signEntry, if_pos opener, signOpen, path]
  rfl

theorem Twins.accepts (twins : Twins w v) (path : Bip32Path) : Alike (w.accepts sdk path) (v.accepts sdk path) where
  settings := twins.settings
  contacts := twins.contacts
  noSwap := twins.noSwap
  noSwap' := twins.noSwap'
  txContext := rfl
  txContent := rfl
  path := rfl
  pending := twins.idle.trans twins.idle'.symm
  own kind waits := absurd (twins.idle.symm.trans waits) (by simp)
  exited := twins.running.trans twins.running'.symm
  msg typed := absurd rfl typed
  hash waits := absurd twins.idle waits

/-- **An APDU that opens a session makes twins alike**, whatever else they keep. -/
theorem Twins.opens (twins : Twins w v) (opens : c.opensSign = true) : ∃ w' v',
    TronLedger.step sdk version w (.apdu c) = some w' ∧ TronLedger.step sdk version v (.apdu c) = some v' ∧
      Mirrors w v w' v' := by
  have own : c.cla = Ins.cla ∧ c.ins = Ins.sign := by
    simp only [Command.opensSign, Command.isSign, decide_eq_true_eq] at opens
    exact opens.1
  obtain ⟨path, payload, handled⟩ := opensSign_handled sdk opens
  have dispatched (u : World σ κ) : dispatchIns sdk version c u = signChunk sdk c.p1 payload (u.accepts sdk path) := by
    unfold dispatchIns
    rw [if_neg (by rw [own.2]; decide), if_pos own.2, handled]
  refine ⟨_, _, step_dispatches sdk twins.idle twins.running twins.noSwap own.1,
    step_dispatches sdk twins.idle' twins.running' twins.noSwap' own.1, ?_⟩
  rw [dispatched, dispatched]
  have received : Twins (w.receive c).forgetContacts (v.receive c).forgetContacts := { twins with }
  have hashed := (received.accepts sdk path).hashes sdk c.p1 payload
  exact (hashed.after (e := .initTx) rfl rfl).after (e := .apdu c) rfl rfl

end Opening

section Shown

variable {version : AppVersion}

/-- No review is started by an APDU that is not one of INS_SIGN. -/
theorem onlySigns_replied {c : Command} (only : (Event.apdu c).onlySigns = true) (other : c.isSign = false)
    (noSwap : w.app.calledFromSwap = false) :
    ∃ data sw, (apduDispatcher sdk version c w).trace = .reply data sw :: w.trace := by
  by_cases cla : c.cla = Ins.cla
  · have notSign : c.ins ≠ Ins.sign := by simpa [Command.isSign, cla] using other
    rw [onlySigns_dispatched sdk only cla noSwap, if_neg notSign]
    split
    · exact ⟨_, _, rfl⟩
    · exact ⟨_, _, rfl⟩
  · simp only [apduDispatcher, ne_eq, cla, not_false_eq_true, if_true]
    exact ⟨_, _, rfl⟩

/-- What is known of the reviews that such an event starts. -/
theorem AppRun.shown (encodes : sdk.EncodesBase58) (formats : sdk.FormatsHex) {b : Boot} {es : List Event}
    (run : AppRun sdk version anyStep b es w) (noSwap : w.app.calledFromSwap = false) {e : Event}
    (only : e.onlySigns = true) {w' : World σ κ} (stepped : TronLedger.step sdk version w e = some w') :
    ∃ news, w'.trace = news ++ w.trace ∧ ∀ r, .review r ∈ news → Shows sdk w.app.contacts r := by
  cases e with
  | apdu c =>
    cases own : c.isSign with
    | true =>
      obtain ⟨news, trace, shows⟩ := AppRun.shows encodes formats run stepped own
      refine ⟨news, trace, fun r among => ?_⟩
      obtain ⟨newer, older, -, shows⟩ := shows.at_mem among
      exact shows r rfl
    | false =>
      unfold TronLedger.step at stepped
      split at stepped
      · simp at stepped
      cases pending : w.app.pending with
      | some kind => simp [pending] at stepped
      | none =>
        simp only [pending, Option.some.injEq] at stepped
        subst stepped
        have replied : ∃ data sw, (apduDispatcher sdk version c (w.receive c)).trace =
            .reply data sw :: (w.receive c).trace := onlySigns_replied sdk only own noSwap
        obtain ⟨data, sw, trace⟩ := replied
        exact ⟨[.reply data sw, .apdu c], trace, by simp⟩
  | answer confirm =>
    obtain ⟨-, news, trace, moved⟩ := step_moves sdk version w stepped
    generalize w'.session = s' at moved
    refine ⟨news, trace, fun r among => ?_⟩
    cases moved with
    | answer _ asked moved => exact absurd (answerMove_news moved _ among) (by simp [Effect.fromAnswer])
  | _ =>
    obtain ⟨-, news, trace, moved⟩ := step_moves sdk version w stepped
    generalize w'.session = s' at moved
    refine ⟨news, trace, fun r among => ?_⟩
    cases moved
    simp at among

/-- Two reviews that look the same, but for addresses of another network. -/
structure Review.Alike (r r' : Review) : Prop extends r.Same r' where
  lines : (∀ a ∈ shownAddresses r.content r.msg, a.bytes.head? = some 0x41) → r.lines = r'.lines

theorem Review.Same.shown {contacts : List Contact} {r r' : Review} (same : r.Same r') (shows : Shows sdk contacts r)
    (shows' : Shows sdk contacts r') : r.Alike r' where
  __ := same
  lines mainnet := by
    have mainnet' : ∀ a ∈ shownAddresses r'.content r'.msg, a.bytes.head? = some 0x41 := by
      rw [← same.content, ← same.msg]
      exact mainnet
    rw [shows.lines mainnet, shows'.lines mainnet', same.content, same.msg, same.hash]

/-- The same effect, as the user sees it. -/
def Effect.Alike (e e' : Effect) : Prop := e = e' ∨ ∃ r r', e = .review r ∧ e' = .review r' ∧ r.Alike r'

/-- Reviews that are known show their lines. -/
theorem effects_shown {contacts : List Contact} {news news' : List Effect} (same : List.Forall₂ Effect.Same news news')
    (shows : ∀ r, .review r ∈ news → Shows sdk contacts r) (shows' : ∀ r, .review r ∈ news' → Shows sdk contacts r) :
    List.Forall₂ Effect.Alike news news' := by
  induction same with
  | nil => exact .nil
  | cons first _ ih =>
    refine .cons ?_ (ih (fun r among => shows r (List.mem_cons_of_mem _ among))
      fun r among => shows' r (List.mem_cons_of_mem _ among))
    obtain rfl | ⟨r, r', rfl, rfl, reviews⟩ := first
    · exact .inl rfl
    · exact .inr ⟨r, r', rfl, rfl, reviews.shown sdk (shows r List.mem_cons_self) (shows' r' List.mem_cons_self)⟩

/-- The app gets to a world. -/
def World.Reached (sdk : Sdk σ κ) (version : AppVersion) (w : World σ κ) : Prop :=
  ∃ b es, AppRun sdk version anyStep b es w

theorem World.Reached.step (reached : w.Reached sdk version) {e : Event} {w' : World σ κ}
    (stepped : TronLedger.step sdk version w e = some w') : w'.Reached sdk version := by
  obtain ⟨b, es, run⟩ := reached
  exact ⟨b, es ++ [e], run.next rfl stepped⟩

/-- What is mirrored looks the same. -/
theorem Mirrors.shown (encodes : sdk.EncodesBase58) (formats : sdk.FormatsHex) (reached : w.Reached sdk version)
    (reached' : v.Reached sdk version)
    (noSwap : w.app.calledFromSwap = false) (noSwap' : v.app.calledFromSwap = false)
    (contacts : w.app.contacts = v.app.contacts) {e : Event} (only : e.onlySigns = true) {w' v' : World σ κ}
    (stepped : TronLedger.step sdk version w e = some w') (stepped' : TronLedger.step sdk version v e = some v')
    (mirrors : Mirrors w v w' v') : LoggedAlike World.trace Effect.Alike w v w' v' := by
  obtain ⟨b, es, run⟩ := reached
  obtain ⟨b', es', run'⟩ := reached'
  obtain ⟨-, news, news', trace, trace', same⟩ := mirrors
  obtain ⟨known, logged, shows⟩ := AppRun.shown sdk encodes formats run noSwap only stepped
  obtain ⟨known', logged', shows'⟩ := AppRun.shown sdk encodes formats run' noSwap' only stepped'
  obtain rfl : known = news := List.append_cancel_right (logged.symm.trans trace)
  obtain rfl : known' = news' := List.append_cancel_right (logged'.symm.trans trace')
  exact ⟨known, known', trace, trace', effects_shown sdk same shows (contacts ▸ shows')⟩

/-- **Sessions are isolated.** From an APDU that opens a session on, what the app answers, shows and signs is the same
in any two worlds it gets to, idle and started by the user, with the same settings and contacts, while no other
instruction comes in between. The lines of a review are the same where its addresses are of the main net. -/
theorem sessions_isolated (encodes : sdk.EncodesBase58) (formats : sdk.FormatsHex) (reached : w.Reached sdk version)
    (reached' : v.Reached sdk version) (twins : Twins w v) {c : Command} (opens : c.opensSign = true) :
    ∃ w₁ v₁, TronLedger.step sdk version w (.apdu c) = some w₁ ∧ TronLedger.step sdk version v (.apdu c) = some v₁ ∧
      ∀ es w₂, Run (TronLedger.step sdk version) (fun _ e => e.onlySigns) w₁ es w₂ →
        ∃ v₂, Run (TronLedger.step sdk version) anyStep v₁ es v₂ ∧
          LoggedAlike World.trace Effect.Alike w v w₂ v₂ := by
  obtain ⟨w₁, v₁, stepped, stepped', mirrors⟩ := twins.opens sdk opens
  have only : (Event.apdu c).onlySigns = true := opensSign_onlySigns opens
  have first : LoggedAlike World.trace Effect.Alike w v w₁ v₁ :=
    mirrors.shown sdk encodes formats reached reached' twins.noSwap twins.noSwap' twins.contacts only stepped stepped'
  refine ⟨w₁, v₁, stepped, stepped', fun es w₂ run => ?_⟩
  -- the worlds stay alike, and both stay worlds the app gets to
  let kept (s t : World σ κ) : Prop := Alike s t ∧ s.Reached sdk version ∧ t.Reached sdk version
  have keeps (s t : World σ κ) (e : Event) (s' : World σ κ) (alike : kept s t) (only : e.onlySigns = true)
      (moves : TronLedger.step sdk version s e = some s') :
      ∃ t', TronLedger.step sdk version t e = some t' ∧ kept s' t' ∧
        LoggedAlike World.trace Effect.Alike s t s' t' := by
    obtain ⟨alike, reached, reached'⟩ := alike
    obtain ⟨t', moves', mirrors⟩ := alike.step sdk only moves
    exact ⟨t', moves', ⟨mirrors.1, reached.step sdk moves, reached'.step sdk moves'⟩,
      mirrors.shown sdk encodes formats reached reached' alike.noSwap alike.noSwap' alike.contacts only moves moves'⟩
  have start : kept w₁ v₁ := ⟨mirrors.1, reached.step sdk stepped, reached'.step sdk stepped'⟩
  obtain ⟨v₂, run', -, later⟩ := run.lockstep w₁ v₁ keeps start
  exact ⟨v₂, run', first.trans later⟩

end Shown

end

/-- A transfer that is approved, behind a rejected transfer of a token and on a device that was just started. -/
theorem sessions_isolated_after_rejection : ∃ w w₁ w₂ v₂,
    AppRun device deviceVersion anyStep deviceBoot
      [command Ins.sign P1.sign 0 sampleTokenTransfer sampleTokenTransfer_short, .answer false] w ∧
    step device deviceVersion w (command Ins.sign P1.sign 0 (pathBytes 0 ++ sampleTransfer)) = some w₁ ∧
    step device deviceVersion w₁ (.answer true) = some w₂ ∧
    LoggedAlike World.trace Effect.Alike w (boot device deviceBoot) w₂ v₂ := by
  obtain ⟨w, run, found⟩ := Run.exists_of_exec (step device deviceVersion) anyStep (boot device deviceBoot)
    [command Ins.sign P1.sign 0 sampleTokenTransfer sampleTokenTransfer_short, .answer false]
    (fun w => w.app.settings = deviceBoot.settings && w.app.contacts = [] && w.app.calledFromSwap = false &&
      w.app.pending = none && w.app.exited = false &&
      (step device deviceVersion w (command Ins.sign P1.sign 0 (pathBytes 0 ++ sampleTransfer))).any fun w₁ =>
        (step device deviceVersion w₁ (.answer true)).isSome) (by decide +kernel)
  simp only [Bool.and_eq_true, decide_eq_true_eq, Option.any_eq_true, Option.isSome_iff_exists] at found
  obtain ⟨⟨⟨⟨⟨settings, contacts⟩, noSwap⟩, idle⟩, running⟩, w₁, opened, w₂, answered⟩ := found
  have twins : Twins w (boot device deviceBoot) := ⟨settings, contacts, noSwap, rfl, idle, rfl, running, rfl⟩
  obtain ⟨w₁', v₁, opened', -, alike⟩ := sessions_isolated device (fun _ _ => rfl) device_formatsHex
    ⟨deviceBoot, _, run⟩ ⟨deviceBoot, [], .start⟩ twins
    (c := ⟨Ins.cla, Ins.sign, P1.sign, 0, pathBytes 0 ++ sampleTransfer, sampleTransfer_short⟩) (by decide)
  obtain rfl : w₁' = w₁ := Option.some.inj (opened'.symm.trans opened)
  obtain ⟨v₂, -, logged⟩ := alike [.answer true] w₂ (Run.start.next rfl answered)
  exact ⟨w, w₁', w₂, v₂, run, opened, answered, logged⟩

end TronLedger
