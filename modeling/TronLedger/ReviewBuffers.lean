import TronLedger.BlindReviews

/-!
# What a review of INS_SIGN is rendered over

The display buffers keep what earlier commands left in them. A review of INS_SIGN is rendered
from the buffers the step found, but for the APDU buffer and the labels of contacts and
services, which every command starts without.

* `handleSign_rule`: what holds of INS_SIGN where it renders nothing and of the rendering holds of it.
-/

namespace TronLedger

section

variable {σ κ : Type}

/-- `w'` follows `w`, and the reviews started on the way meet `holds`. -/
def World.Reviews (w w' : World σ κ) (holds : Review → Prop) : Prop :=
  ∃ news, w'.trace = news ++ w.trace ∧ ∀ r, .review r ∈ news → holds r

theorem World.Reviews.quiet {w w' : World σ κ} {holds : Review → Prop} (news : List Effect)
    (trace : w'.trace = news ++ w.trace) (none : ∀ r, .review r ∉ news) : w.Reviews w' holds :=
  ⟨news, trace, fun r among => absurd among (none r)⟩

theorem World.Reviews.after {w v w' : World σ κ} {holds : Review → Prop} (reviews : v.Reviews w' holds)
    (first : List Effect) (trace : v.trace = first ++ w.trace) (none : ∀ r, .review r ∉ first) :
    w.Reviews w' holds := by
  obtain ⟨news, trace', met⟩ := reviews
  refine ⟨news ++ first, by rw [trace', trace, List.append_assoc], fun r among => met r ?_⟩
  exact (List.mem_append.mp among).resolve_right (none r)

theorem World.Reviews.mono {w w' : World σ κ} {holds holds' : Review → Prop}
    (reviews : w.Reviews w' holds) (le : ∀ r, holds r → holds' r) : w.Reviews w' holds' := by
  obtain ⟨news, trace, met⟩ := reviews
  exact ⟨news, trace, fun r among => le r (met r among)⟩

/-- `r` is what rendering some transaction over the display buffers `before` starts. -/
structure RenderedOver (sdk : Sdk σ κ) (settings : Settings) (contacts : List Contact) (before : Ui)
    (r : Review) : Prop where
  shows : ∃ content calledFromSwap swapValidated time,
    TransactionShows ⟨sdk, settings, contacts, calledFromSwap, swapValidated, r.msg, r.hash,
      sdk.residue time⟩ content before r.infos.state r.ui ∧
    r.content = renderedContent content
  ready : prepareTxInfos r.infos.state r.infos.dataWarning r.content.contractType r.ui =
    .ready r.infos

variable (sdk : Sdk σ κ) (w : World σ κ)

/-- A review that is started shows the display buffers as they are. -/
theorem uxFlowDisplay_reviews {state : ApprovalState} {dataWarning : Bool}
    (own : state.isTransaction = true) :
    w.Reviews (uxFlowDisplay sdk state dataWarning w) fun r => r.infos.state = state ∧
      r.ui = w.app.ui ∧ r.content = w.app.txContent ∧ r.msg = w.app.msg ∧
      r.hash = w.app.transactionContext.hash ∧
      prepareTxInfos r.infos.state r.infos.dataWarning r.content.contractType r.ui =
        .ready r.infos := by
  have shown : state ≠ .verifyAddress := by rintro rfl; simp [ApprovalState.isTransaction] at own
  have notTyped : state ≠ .signTip72Transaction := by
    rintro rfl
    simp [ApprovalState.isTransaction] at own
  unfold uxFlowDisplay
  simp only [if_neg shown, if_neg notTyped, World.setUi]
  cases prepared : prepareTxInfos state dataWarning w.app.txContent.contractType w.app.ui with
  | thrown e => exact .quiet [_] rfl (by simp)
  | noRoom => exact .quiet [_] rfl (by simp)
  | ready infos =>
    refine ⟨[_], rfl, ?_⟩
    rintro r among
    obtain rfl : r = _ := by simpa using among
    have fields : infos.state = state ∧ infos.dataWarning = dataWarning := by
      simp only [prepareTxInfos] at prepared
      split at prepared
      · simp at prepared
      split at prepared
      · simp at prepared
      · obtain rfl := Prepared.ready.inj prepared
        exact ⟨rfl, rfl⟩
    refine ⟨fields.1, rfl, rfl, rfl, rfl, ?_⟩
    simp only [fields.1, fields.2]
    exact prepared

theorem signFinalise_reviews : w.Reviews (signFinalise sdk w)
    (RenderedOver sdk w.app.settings w.app.contacts w.app.ui) := by
  unfold signFinalise
  dsimp only
  have displays := verdict_of_wp (renderTransaction_displays (renderContext sdk (w.finishHash sdk))
    (w.finishHash sdk).app.txContent (w.finishHash sdk).app.ui)
  have sound := renderTransaction_sound (renderContext sdk (w.finishHash sdk))
    (w.finishHash sdk).app.txContent (w.finishHash sdk).app.ui
  generalize (renderTransaction (renderContext sdk (w.finishHash sdk))
    (w.finishHash sdk).app.txContent).verdict (w.finishHash sdk).app.ui = ended at displays sound ⊢
  obtain ⟨verdict, ui⟩ := ended
  cases verdict with
  | refuse sw => exact .quiet [_] rfl (by simp)
  | thrown e => exact .quiet [_] rfl (by simp)
  | display state =>
    have shows := displays state rfl
    obtain ⟨-, -, -, own, -⟩ := sound
    refine ((uxFlowDisplay_reviews sdk (((w.finishHash sdk).setUi ui).setContent
      (renderedContent (w.finishHash sdk).app.txContent)) own).after [] rfl (by simp)).mono ?_
    rintro r ⟨state_eq, ui_eq, content_eq, msg_eq, hash_eq, ready⟩
    refine ⟨⟨(w.finishHash sdk).app.txContent, w.app.calledFromSwap, w.app.swapValidated,
      (w.finishHash sdk).trace.length, ?_, content_eq⟩, ready⟩
    rw [state_eq, ui_eq, msg_eq, hash_eq]
    exact shows
  | swapSign =>
    obtain ⟨news, trace, -, ⟨data, rfl⟩ | rfl⟩ := uiCallbackTxOk_takes sdk
      ((((w.finishHash sdk).setUi ui).setContent
        (renderedContent (w.finishHash sdk).app.txContent)).log
          (.swapAccepted (renderedContent (w.finishHash sdk).app.txContent) ui))
    · exact .quiet [_, _, _] trace (by simp)
    · exact .quiet [_, _] trace (by simp)

/-- The buffers a command renders over: those it found, without the labels of an earlier one. -/
def Ui.Received (old before : Ui) : Prop :=
  ∃ apduBuffer field, before = { old with
    apduBuffer := apduBuffer
    customContractField := field
    recipientContact := none
    senderContact := none
    recipientService := none }

/-- `v` follows `w` in a command of INS_SIGN, before anything is rendered or in place of it. -/
structure Unrendered (w v : World σ κ) : Prop where
  settings : v.app.settings = w.app.settings
  contacts : v.app.contacts = w.app.contacts
  ui : ∃ field, v.app.ui = { w.app.ui with customContractField := field }
  news : ∃ first, v.trace = first ++ w.trace ∧ ∀ entry ∈ first, entry.isPlain = true

section Unrendered

variable {w} {v v' : World σ κ}

theorem Unrendered.refl : Unrendered w w := ⟨rfl, rfl, ⟨_, rfl⟩, [], rfl, by simp⟩

theorem Unrendered.next (before : Unrendered w v) (news : List Effect) (trace : v'.trace = news ++ v.trace)
    (plain : ∀ entry ∈ news, entry.isPlain = true) (settings : v'.app.settings = v.app.settings)
    (contacts : v'.app.contacts = v.app.contacts)
    (ui : ∃ field, v'.app.ui = { v.app.ui with customContractField := field }) : Unrendered w v' := by
  obtain ⟨first, trace', plain'⟩ := before.news
  obtain ⟨old, ui'⟩ := before.ui
  obtain ⟨field, ui⟩ := ui
  refine ⟨settings.trans before.settings, contacts.trans before.contacts, ⟨field, ?_⟩, news ++ first, ?_, ?_⟩
  · rw [ui, ui']
  · rw [trace, trace', List.append_assoc]
  · intro entry among
    exact (List.mem_append.mp among).elim (plain entry) (plain' entry)

theorem Unrendered.noReview (before : Unrendered w v) :
    ∃ first, v.trace = first ++ w.trace ∧ ∀ r, .review r ∉ first := by
  obtain ⟨first, trace, plain⟩ := before.news
  refine ⟨first, trace, fun r among => ?_⟩
  simpa [Effect.isPlain] using plain _ among

end Unrendered

/-- INS_SIGN has rendered nothing once its payload is known, or when it answers at once. -/
theorem signEntry_unrendered (c : Command) :
    (∀ v, signEntry sdk c.p1 c.data w = .error v → Unrendered w v) ∧
      ∀ v payload, signEntry sdk c.p1 c.data w = .ok (v, payload) → Unrendered w v := by
  unfold signEntry
  split
  · unfold signOpen
    dsimp only
    split
    · refine ⟨fun v answered => ?_, by simp⟩
      obtain rfl := Except.error.inj answered
      exact Unrendered.refl.next [_] rfl (by simp [Effect.isPlain]) rfl rfl ⟨_, rfl⟩
    · refine ⟨by simp, fun v payload entered => ?_⟩
      obtain ⟨rfl, -⟩ := Prod.mk.inj (Except.ok.inj entered)
      exact Unrendered.refl.next [.initTx] rfl (by simp [Effect.isPlain]) rfl rfl ⟨0, rfl⟩
  split
  · rcases signMetadata_cases sdk w c with ⟨-, content, sw, same, -⟩ | ⟨-, same, -⟩
    · rw [same]
      refine ⟨fun v answered => ?_, by simp⟩
      obtain rfl := Except.error.inj answered
      exact Unrendered.refl.next [_] rfl (by simp [Effect.isPlain]) rfl rfl ⟨_, rfl⟩
    · rw [same]
      refine ⟨by simp, fun v payload entered => ?_⟩
      obtain ⟨rfl, -⟩ := Prod.mk.inj (Except.ok.inj entered)
      exact Unrendered.refl.next [] rfl (by simp) rfl rfl ⟨_, rfl⟩
  split
  · refine ⟨fun v answered => ?_, by simp⟩
    obtain rfl := Except.error.inj answered
    exact Unrendered.refl.next [_] rfl (by simp [Effect.isPlain]) rfl rfl ⟨_, rfl⟩
  · refine ⟨by simp, fun v payload entered => ?_⟩
    obtain ⟨rfl, -⟩ := Prod.mk.inj (Except.ok.inj entered)
    exact .refl

section Rule

variable {w} {v : World σ κ} {P : World σ κ → Prop} (ends : ∀ v, Unrendered w v → P v)
  (renders : ∀ v, Unrendered w v → P (signFinalise sdk v))

include ends renders

theorem signParse_rule (before : Unrendered w v) (p1 : UInt8) (payload : Bytes) :
    P (signParse sdk p1 payload v) := by
  have parsed : Unrendered w (v.processTx payload).2 :=
    before.next [_] (processTx_trace v payload) (by simp [Effect.isPlain]) rfl rfl ⟨_, rfl⟩
  have refused (sw : Sw) : P (((v.processTx payload).2.initTx sdk).ioSendSw sw) :=
    ends _ (parsed.next [_, _] rfl (by simp [Effect.isPlain]) rfl rfl ⟨_, rfl⟩)
  unfold signParse
  rw [processTx_eq]
  cases v.session.parseStatus payload with
  | processing =>
    dsimp only
    split
    · exact renders _ parsed
    · exact ends _ (parsed.next [_] rfl (by simp [Effect.isPlain]) rfl rfl ⟨_, rfl⟩)
  | finished => exact renders _ parsed
  | fault => exact refused _
  | missingSettingDataAllowed => exact refused _

/-- **INS_SIGN ends before anything is rendered, or with the rendering.** -/
theorem handleSign_rule (c : Command) : P (handleSign sdk c.p1 c.p2 c.data w) := by
  obtain ⟨answers, enters⟩ := signEntry_unrendered sdk w c
  unfold handleSign
  split
  · exact ends _ (Unrendered.refl.next [_] rfl (by simp [Effect.isPlain]) rfl rfl ⟨_, rfl⟩)
  split
  · rename_i v answered
    exact ends v (answers v answered)
  rename_i v payload entered
  have before := enters v payload entered
  split
  · exact ends _ (before.next [_] rfl (by simp [Effect.isPlain]) rfl rfl ⟨_, rfl⟩)
  unfold signChunk
  dsimp only
  split
  · split
    · exact ends _ (before.next [_, _] rfl (by simp [Effect.isPlain]) rfl rfl ⟨_, rfl⟩)
    · have marked : Unrendered w (v.hashTx sdk payload).setSwapResponseReady :=
        before.next [_, _] rfl (by simp [Effect.isPlain]) rfl rfl ⟨_, rfl⟩
      exact signParse_rule sdk ends renders marked c.p1 payload
  · have hashed : Unrendered w (v.hashTx sdk payload) :=
      before.next [_] rfl (by simp [Effect.isPlain]) rfl rfl ⟨_, rfl⟩
    exact signParse_rule sdk ends renders hashed c.p1 payload

end Rule

theorem handleSign_reviews (c : Command) : w.Reviews (handleSign sdk c.p1 c.p2 c.data w) fun r =>
    ∃ field, RenderedOver sdk w.app.settings w.app.contacts
      { w.app.ui with customContractField := field } r := by
  refine handleSign_rule (P := fun v => w.Reviews v _) sdk (fun v before => ?_) (fun v before => ?_) c
  · obtain ⟨first, trace, none⟩ := before.noReview
    exact .quiet first trace none
  · obtain ⟨first, trace, none⟩ := before.noReview
    obtain ⟨field, ui⟩ := before.ui
    refine ((signFinalise_reviews sdk v).after first trace none).mono fun r rendered => ?_
    rw [before.settings, before.contacts, ui] at rendered
    exact ⟨field, rendered⟩

/-- A step of INS_SIGN is its handler, without the labels of an earlier command. -/
theorem step_handleSign {version : AppVersion} {w' : World σ κ} {c : Command} (own : c.isSign = true)
    (stepped : step sdk version w (.apdu c) = some w') :
    w' = handleSign sdk c.p1 c.p2 c.data (w.receive c).forgetContacts := by
  simp only [Command.isSign, decide_eq_true_eq] at own
  unfold step at stepped
  split at stepped
  · simp at stepped
  cases pending : w.app.pending with
  | some state => simp [pending] at stepped
  | none =>
    simp only [pending, Option.some.injEq] at stepped
    subst stepped
    unfold apduDispatcher
    rw [if_neg (by simp [own.1])]
    dsimp only
    rw [if_neg (by simp [own.2])]
    unfold dispatchIns
    rw [if_neg (by rw [own.2]; decide), if_pos own.2]

/-- **A review of INS_SIGN is rendered over the buffers the step found, without labels.** -/
theorem step_reviews {version : AppVersion} {w' : World σ κ} {c : Command} (own : c.isSign = true)
    (stepped : step sdk version w (.apdu c) = some w') : w.Reviews w' fun r =>
      ∃ before, w.app.ui.Received before ∧
        RenderedOver sdk w.app.settings w.app.contacts before r := by
  rw [step_handleSign sdk w own stepped]
  refine ((handleSign_reviews sdk (w.receive c).forgetContacts c).after [.apdu c] rfl (by simp)).mono ?_
  rintro r ⟨field, rendered⟩
  exact ⟨_, ⟨_, field, rfl⟩, rendered⟩

/-- What a vote shows does not depend on the amount that its rendering clears. -/
theorem TransactionShows.rendered {ctx : RenderContext σ κ} {content : TxContent} {before shown : Ui}
    {kind : ApprovalState} (shows : TransactionShows ctx content before kind shown) :
    TransactionShows ctx (renderedContent content) before kind shown := by
  unfold renderedContent
  split
  · rename_i vote
    obtain ⟨data, permission, contract⟩ := shows
    have votes : VotesShow ctx content (renderSender ctx content before) kind shown := by
      simpa only [ContractShows, vote] using contract
    refine ⟨data, permission, ?_⟩
    simp only [ContractShows, vote]
    exact ⟨votes.kind_eq, votes.some, votes.positive, votes.total, votes.shown_eq⟩
  · exact shows

/-- What is known of a review `r` that INS_SIGN starts in a step from `w`, on top of `older`. -/
structure Reviewed (r : Review) (older : List Effect) : Prop where
  of : ∃ content, r.content = renderedContent content ∧ ContractOf older content r.msg
  shows : ∃ before called validated time, w.app.ui.Received before ∧
    TransactionShows ⟨sdk, w.app.settings, w.app.contacts, called, validated, r.msg, r.hash,
      sdk.residue time⟩ r.content before r.infos.state r.ui
  ready : prepareTxInfos r.infos.state r.infos.dataWarning r.content.contractType r.ui =
    .ready r.infos

/-- What an APDU adds to the log, it adds as the last command. -/
theorem step_lastCommand {version : AppVersion} {w' : World σ κ} {c : Command} {news : List Effect}
    (stepped : step sdk version w (.apdu c) = some w') (trace : w'.trace = news ++ w.trace) :
    AlwaysOver (fun entry older => entry = .apdu c ∨ lastCommand older = some c) news w.trace := by
  obtain ⟨-, news', trace', moved⟩ := step_moves sdk version w stepped
  obtain rfl : news' = news := List.append_cancel_right (trace'.symm.trans trace)
  cases moved with
  | apdu _ idle moved => exact lastCommand_over (apduMove_noApdu moved)

/-- A review that INS_SIGN starts comes with INS_SIGN as the last command. -/
theorem step_reviewed {version : AppVersion} {w' : World σ κ} {c : Command} {news : List Effect}
    (stepped : step sdk version w (.apdu c) = some w') (own : c.isSign = true)
    (trace : w'.trace = news ++ w.trace) :
    AlwaysOver (fun entry older => ∀ r, entry = .review r →
      (lastCommand older).any Command.isSign = true) news w.trace := by
  refine (step_lastCommand sdk w stepped trace).mono ?_
  rintro entry older last r rfl
  rw [last.resolve_left (by simp)]
  exact own

/-- **A review of INS_SIGN shows the contract of its session, over the buffers the step found.** -/
theorem AppRun.reviews {version : AppVersion} {b : Boot} {es : List Event} {w w' : World σ κ}
    {c : Command} {guard : World σ κ → Event → Bool} (run : AppRun sdk version guard b es w)
    (stepped : step sdk version w (.apdu c) = some w') (own : c.isSign = true) :
    ∃ news, w'.trace = news ++ w.trace ∧
      AlwaysOver (fun entry older => ∀ r, entry = .review r → Reviewed sdk w r older) news w.trace := by
  obtain ⟨news, trace, shows⟩ := run.stepShows stepped
  obtain ⟨news', trace', met⟩ := step_reviews sdk w own stepped
  obtain rfl : news' = news := List.append_cancel_right (trace'.symm.trans trace)
  refine ⟨news', trace, ((shows.and (step_reviewed sdk w stepped own trace)).and
    (AlwaysOver.of_forall fun entry among _ => among)).mono ?_⟩
  rintro entry older ⟨⟨shows, last⟩, among⟩ r rfl
  obtain ⟨s, -, -, of, -, ofReview⟩ := shows (last r rfl)
  obtain ⟨before, received, ⟨content, called, validated, time, transaction, same⟩, ready⟩ := met r among
  refine ⟨⟨s.txContent, ofReview.content_eq, ?_⟩, ⟨before, called, validated, time, received, ?_⟩, ready⟩
  · rw [ofReview.msg_eq]
    exact of
  · rw [same]
    exact transaction.rendered

end

end TronLedger
