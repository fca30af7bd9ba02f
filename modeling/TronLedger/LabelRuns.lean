import TronLedger.Labels

/-!
# Runs of the app and its list of contacts

The app takes commands and answers, and its list of contacts changes in between.

* `apduDispatcher_labels`: every command starts without labels, and labels what it renders.
* `mainnet_kept`: every contact has an address of the main net.
* `labels_own`: no review of any run labels another address than the one looked up.
-/

namespace TronLedger

section

variable {σ κ : Type} (sdk : Sdk σ κ)

/-- `w'` follows `w` with the same contacts, and reviews that label what is looked up in them. -/
structure World.Labels (w w' : World σ κ) : Prop where
  contacts : w'.app.contacts = w.app.contacts
  reviews : w.Reviews w' (Review.LabelsOwn sdk w.app.contacts)

section Handlers

variable {sdk} {w v w' : World σ κ}

theorem World.Labels.after (labels : v.Labels sdk w') (first : List Effect) (trace : v.trace = first ++ w.trace)
    (none : ∀ r, .review r ∉ first) (contacts : v.app.contacts = w.app.contacts) : w.Labels sdk w' := by
  obtain ⟨kept, reviews⟩ := labels
  rw [contacts] at kept reviews
  exact ⟨kept, reviews.after first trace none⟩

/-- An answer in place of a review. -/
theorem labels_reply (data : Bytes) (sw : Sw) (trace : w'.trace = .reply data sw :: w.trace)
    (contacts : w'.app.contacts = w.app.contacts) : w.Labels sdk w' :=
  ⟨contacts, .quiet [_] trace (by simp)⟩

section Contacts

variable (sdk) (w)

theorem uxFlowDisplay_contacts (state : ApprovalState) (dataWarning : Bool) :
    (uxFlowDisplay sdk state dataWarning w).app.contacts = w.app.contacts := by
  unfold uxFlowDisplay
  split
  · rfl
  dsimp only
  split <;> rfl

theorem signAndReply_contacts : (signAndReply sdk w).app.contacts = w.app.contacts := by
  simp only [signAndReply, signTransaction]
  cases sdk.signHash w.app.transactionContext.bip32Path w.app.transactionContext.hash <;> rfl

theorem confirmReview_contacts (state : ApprovalState) :
    (confirmReview sdk state w).app.contacts = w.app.contacts := by
  cases state with
  | verifyAddress => rfl
  | signTip72Transaction =>
    simp only [confirmReview, uiCallbackSignMessage712Ok]
    split <;> rfl
  | sharedEcdhSecret =>
    simp only [confirmReview, uiCallbackEcdhOk]
    split <;> rfl
  | _ => exact signAndReply_contacts sdk w

/-- No answer changes the contacts. -/
theorem reviewChoice_contacts (confirm : Bool) (state : ApprovalState) :
    (reviewChoice sdk confirm state w).app.contacts = w.app.contacts := by
  cases confirm with
  | true => exact confirmReview_contacts sdk w state
  | false => cases state <;> rfl

theorem signFinalise_contacts : (signFinalise sdk w).app.contacts = w.app.contacts := by
  unfold signFinalise
  dsimp only
  generalize (renderTransaction (renderContext sdk (w.finishHash sdk))
    (w.finishHash sdk).app.txContent).verdict (w.finishHash sdk).app.ui = ended
  obtain ⟨verdict, ui⟩ := ended
  cases verdict with
  | refuse sw => rfl
  | thrown e => rfl
  | display state => exact uxFlowDisplay_contacts sdk _ _ _
  | swapSign => exact signAndReply_contacts sdk _

theorem handleSign_contacts (c : Command) :
    (handleSign sdk c.p1 c.p2 c.data w).app.contacts = w.app.contacts := by
  refine handleSign_rule (P := fun v : World σ κ => v.app.contacts = w.app.contacts) sdk ?_ ?_ c
  · intro v before
    exact before.contacts
  · intro v before
    exact (signFinalise_contacts sdk v).trans before.contacts

end Contacts

variable (sdk) in
/-- A review that is started shows the labels there are. -/
theorem uxFlowDisplay_labels (state : ApprovalState) (dataWarning : Bool)
    (own : w.app.ui.LabelsOwn sdk w.app.contacts) : w.Labels sdk (uxFlowDisplay sdk state dataWarning w) := by
  unfold uxFlowDisplay
  split
  · exact ⟨rfl, .quiet [_] rfl (by simp)⟩
  dsimp only [World.setUi]
  split
  · exact labels_reply _ _ rfl rfl
  · exact labels_reply _ _ rfl rfl
  rename_i infos prepared
  refine ⟨rfl, [_], rfl, ?_⟩
  intro r among
  obtain rfl : r = _ := by simpa using among
  refine reviewed_labels sdk ?_ prepared
  dsimp only
  split
  · exact ⟨own.recipient, own.service, own.sender⟩
  · exact own

/-- A review over buffers without labels has none. -/
theorem display_labels (kind : ApprovalState) (clear : v.app.ui.Unlabelled) (trace : v.trace = w.trace)
    (contacts : v.app.contacts = w.app.contacts) : w.Labels sdk (uxFlowDisplay sdk kind false v) :=
  (uxFlowDisplay_labels sdk kind false clear.own).after [] trace (by simp) contacts

theorem handleSignByHash_labels (clear : w.app.ui.Unlabelled) (p1 p2 : UInt8) (data : Bytes) :
    w.Labels sdk (handleSignByHash sdk p1 p2 data w) := by
  unfold handleSignByHash
  split
  · exact labels_reply _ _ rfl rfl
  split
  · exact labels_reply _ _ rfl rfl
  dsimp only
  split
  · exact labels_reply _ _ rfl rfl
  split
  · exact labels_reply _ _ rfl rfl
  split
  · exact labels_reply _ _ rfl rfl
  · exact display_labels _ ⟨clear.recipient, clear.sender, clear.service⟩ rfl rfl

theorem handleECDHSecret_labels (clear : w.app.ui.Unlabelled) (p1 p2 : UInt8) (data : Bytes) :
    w.Labels sdk (handleECDHSecret sdk p1 p2 data w) := by
  unfold handleECDHSecret
  split
  · exact labels_reply _ _ rfl rfl
  dsimp only
  split
  · exact labels_reply _ _ rfl rfl
  split
  · exact labels_reply _ _ rfl rfl
  split
  · exact labels_reply _ _ rfl rfl
  · exact display_labels _ ⟨clear.recipient, clear.sender, clear.service⟩ rfl rfl

/-- No public key is shown as a review. -/
theorem handleGetPublicKey_labels (p1 p2 : UInt8) (data : Bytes) :
    w.Labels sdk (handleGetPublicKey sdk p1 p2 data w) := by
  unfold handleGetPublicKey
  dsimp only
  split
  · exact labels_reply _ _ rfl rfl
  split
  · exact labels_reply _ _ rfl rfl
  split
  · exact labels_reply _ _ rfl rfl
  split
  · exact labels_reply _ _ rfl rfl
  split
  · exact labels_reply _ _ rfl rfl
  split
  · exact labels_reply _ _ rfl rfl
  · exact ⟨rfl, .quiet [_] rfl (by simp)⟩

theorem personalFinalise_labels (clear : w.app.ui.Unlabelled) : w.Labels sdk (personalFinalise sdk w) := by
  unfold personalFinalise
  dsimp only
  split
  · exact labels_reply _ _ rfl rfl
  · exact display_labels _ ⟨clear.recipient, clear.sender, clear.service⟩ rfl rfl

theorem personalChunk_labels (clear : w.app.ui.Unlabelled) (content : Bytes) :
    w.Labels sdk (personalChunk sdk content w) := by
  unfold personalChunk
  split
  · exact labels_reply _ _ rfl rfl
  dsimp only
  split
  · refine (personalFinalise_labels ?_).after [.messageBytes content] rfl (by simp) rfl
    exact ⟨clear.recipient, clear.sender, clear.service⟩
  · exact ⟨rfl, .quiet [_, _] rfl (by simp)⟩

theorem handleSignPersonalMessage_labels (clear : w.app.ui.Unlabelled) (p1 p2 : UInt8) (data : Bytes) :
    w.Labels sdk (handleSignPersonalMessage sdk p1 p2 data w) := by
  have chunk {v : World σ κ} {content : Bytes} (clear : v.app.ui.Unlabelled) :
      v.Labels sdk (if p2 ≠ 0 then v.ioSendSw .incorrectP1P2 else personalChunk sdk content v) := by
    split
    · exact labels_reply _ _ rfl rfl
    · exact personalChunk_labels clear content
  unfold handleSignPersonalMessage
  split
  · exact labels_reply _ _ rfl rfl
  by_cases opener : p1 = P1.first ∨ p1 = P1.sign
  · simp only [if_pos opener, personalOpen]
    cases (readBip32Path data w.app.transactionContext.bip32Path).2 with
    | none => exact labels_reply _ _ rfl rfl
    | some n =>
      by_cases short : (data.drop n).length < 4
      · simp only [if_pos short]
        exact labels_reply _ _ rfl rfl
      · simp only [if_neg short]
        refine (chunk ?_).after [.messageStart _] rfl (by simp) rfl
        exact ⟨clear.recipient, clear.sender, clear.service⟩
  · simp only [if_neg opener]
    by_cases wrong : p1 ≠ P1.more ∨ !w.app.personalMsgCtx.initialized
    · simp only [if_pos wrong]
      exact labels_reply _ _ rfl rfl
    · simp only [if_neg wrong]
      exact chunk clear

/-- The signer of a typed message is looked up under the address of their own key. -/
theorem handleSignTIP712Message_labels (encodes : sdk.EncodesBase58) (mainnet : Mainnet w.app.contacts)
    (clear : w.app.ui.Unlabelled) (p1 p2 : UInt8) (data : Bytes) :
    w.Labels sdk (handleSignTIP712Message sdk p1 p2 data w) := by
  unfold handleSignTIP712Message
  split
  · exact labels_reply _ _ rfl rfl
  split
  · exact labels_reply _ _ rfl rfl
  split
  · exact labels_reply _ _ rfl rfl
  dsimp only
  split
  · exact labels_reply _ _ rfl rfl
  split
  · exact labels_reply _ _ rfl rfl
  split
  · exact labels_reply _ _ rfl rfl
  split
  · exact labels_reply _ _ rfl rfl
  split
  · exact labels_reply _ _ rfl rfl
  rename_i context fromAddress derived
  refine (uxFlowDisplay_labels sdk _ _ ?_).after [] rfl (by simp) rfl
  refine ⟨?_, ?_, ?_⟩
  · simp only [World.setTip712, clear.recipient]
    exact attached_none _ _
  · simp only [World.setTip712, clear.service]
    exact attached_none _ _
  · unfold initPublicKeyContext at derived
    split at derived
    · simp at derived
    obtain ⟨rfl, rfl⟩ := Prod.mk.inj (Option.some.inj derived)
    exact attached_rendered encodes (contact_mainnet mainnet) _ _ (by decide)

/-- A transaction is rendered over buffers without labels. -/
theorem handleSign_labels (encodes : sdk.EncodesBase58) (mainnet : Mainnet w.app.contacts)
    (clear : w.app.ui.Unlabelled) (c : Command) : w.Labels sdk (handleSign sdk c.p1 c.p2 c.data w) := by
  refine ⟨handleSign_contacts sdk w c, (handleSign_reviews sdk w c).mono ?_⟩
  rintro r ⟨field, ⟨content, called, validated, time, shows, -⟩, ready⟩
  have clear' : Ui.Unlabelled { w.app.ui with customContractField := field } :=
    ⟨clear.recipient, clear.sender, clear.service⟩
  exact reviewed_labels sdk (shows.labelsOwn encodes mainnet clear') ready

variable (sdk) (version : AppVersion)

theorem dispatchIns_labels (encodes : sdk.EncodesBase58) (mainnet : Mainnet w.app.contacts)
    (clear : w.app.ui.Unlabelled) (c : Command) : w.Labels sdk (dispatchIns sdk version c w) := by
  unfold dispatchIns
  split
  · exact handleGetPublicKey_labels _ _ _
  split
  · exact handleSign_labels encodes mainnet clear c
  split
  · exact handleSignByHash_labels clear _ _ _
  split
  · exact labels_reply _ _ rfl rfl
  split
  · exact handleECDHSecret_labels clear _ _ _
  split
  · exact handleSignPersonalMessage_labels clear _ _ _
  split
  · exact handleSignTIP712Message_labels encodes mainnet clear _ _ _
  · exact labels_reply _ _ rfl rfl

/-- **No command starts with a label, and each labels what it renders.** -/
theorem apduDispatcher_labels (encodes : sdk.EncodesBase58) (mainnet : Mainnet w.app.contacts) (c : Command) :
    w.Labels sdk (apduDispatcher sdk version c w) := by
  unfold apduDispatcher
  split
  · exact labels_reply _ _ rfl rfl
  dsimp only
  split
  · exact labels_reply _ _ rfl rfl
  · have mainnet' : Mainnet w.forgetContacts.app.contacts := mainnet
    have clear : w.forgetContacts.app.ui.Unlabelled := ⟨rfl, rfl, rfl⟩
    exact (dispatchIns_labels sdk version encodes mainnet' clear c).after [] rfl (by simp) rfl

/-- What an event of the app does with the contacts and the labels. -/
theorem step_labels (encodes : sdk.EncodesBase58) (mainnet : Mainnet w.app.contacts) {e : Event}
    (keeps : ∀ contacts, e ≠ .setContacts contacts) (stepped : step sdk version w e = some w') :
    w.Labels sdk w' := by
  unfold step at stepped
  split at stepped
  · simp at stepped
  split at stepped <;> simp only [Option.some.injEq, reduceCtorEq] at stepped <;> subst stepped
  · rename_i confirm state asked
    refine ⟨reviewChoice_contacts sdk { w with app := { w.app with pending := none } } confirm state, ?_⟩
    obtain ⟨news, trace, moved⟩ :=
      reviewChoice_takes sdk { w with app := { w.app with pending := none } } confirm state
    refine .quiet news trace fun r among => ?_
    simpa [Effect.fromAnswer] using answerMove_news moved _ among
  · rename_i c idle
    have mainnet' : Mainnet (w.receive c).app.contacts := mainnet
    exact (apduDispatcher_labels sdk version encodes mainnet' c).after [.apdu c] rfl (by simp) rfl
  · exact labels_reply _ _ rfl rfl
  · exact ⟨rfl, .quiet [] rfl (by simp)⟩
  · rename_i contacts idle
    exact absurd rfl (keeps contacts)
  · exact ⟨rfl, .quiet [_] rfl (by simp)⟩

end Handlers

section Book

variable (lengths : ContactLengths)

/-- `handle_check_edit_identifier`, on identifiers of the right length. The other operations either
make their own check or enter no address. -/
def ContactOp.checked : ContactOp → Bool
  | .editIdentifier oldAddr newAddr => oldAddr.bytes.head? = some 0x41 && newAddr.bytes.head? = some 0x41
  | _ => true

/-- The list after an operation, which is confirmed only where its check was passed. -/
def ContactOp.confirmed (op : ContactOp) (contacts : List Contact) : List Contact :=
  if op.checked then op.apply sdk lengths contacts else contacts

/-- What reaches the app: its own events, and operations on the list of contacts. -/
inductive BookEvent
  | app (e : Event)
  | operation (op : ContactOp)

/-- Nothing but an operation changes the list. -/
def bookStep (version : AppVersion) (w : World σ κ) : BookEvent → Option (World σ κ)
  | .app (.setContacts _) => none
  | .app e => step sdk version w e
  | .operation op => step sdk version w (.setContacts (op.confirmed sdk lengths w.app.contacts))

variable {sdk} in
theorem getAddressFromPublicKey_mainnet (publicKey : Bytes) :
    (getAddressFromPublicKey sdk publicKey).bytes.head? = some 0x41 := by
  have length : (0x41 :: (sdk.cxHashKeccak256 (publicKey.drop 1)).bytes.drop 12).length = 21 := by
    rw [List.length_cons, List.length_drop, (sdk.cxHashKeccak256 (publicKey.drop 1)).size]
  rw [getAddressFromPublicKey, Buf.bytes_ofBytes length]
  rfl

theorem identity_mainnet {contact : Identity} (valid : isValidTronIdentifier contact = true) :
    contact.address.bytes.head? = some 0x41 := by
  simp only [isValidTronIdentifier, Bool.and_eq_true, decide_eq_true_eq] at valid
  rw [Identity.address, Buf.bytes_ofBytes valid.1.2]
  exact valid.2

theorem Mainnet.push {contacts : List Contact} (mainnet : Mainnet contacts) {c : Contact}
    (own : c.identifier.bytes.head? = some 0x41) : Mainnet (contacts ++ [c]) := by
  intro other among
  rcases List.mem_append.mp among with among | among
  · exact mainnet other among
  · rw [List.mem_singleton.mp among]
    exact own

/-- **Every operation leaves contacts of the main net only.** -/
theorem mainnet_kept {contacts : List Contact} (mainnet : Mainnet contacts) (op : ContactOp) :
    Mainnet (op.confirmed sdk lengths contacts) := by
  unfold ContactOp.confirmed
  split
  swap
  · exact mainnet
  rename_i checked
  cases op with
  | provideIdentity contact allocated =>
    simp only [ContactOp.apply, handleProvideIdentity]
    split_ifs with invalid
    · exact mainnet
    · exact mainnet
    · exact mainnet
    · exact mainnet.push (identity_mainnet (by simpa using invalid))
  | provideLedgerAccount account allocated =>
    simp only [ContactOp.apply, handleProvideLedgerAccount]
    split
    · exact mainnet
    cases derived : deriveTronAddress sdk account.bip32Path with
    | none => exact mainnet
    | some address =>
      dsimp only
      split_ifs
      · exact mainnet
      · exact mainnet
      · obtain ⟨key, -, rfl⟩ := Option.map_eq_some_iff.mp derived
        exact mainnet.push (getAddressFromPublicKey_mainnet key.1.bytes)
  | editContactName oldName newName =>
    simp only [Mainnet, ContactOp.apply, updateContactName, List.forall_mem_map]
    intro c among
    split <;> exact mainnet c among
  | editIdentifier oldAddr newAddr =>
    simp only [ContactOp.checked, Bool.and_eq_true, decide_eq_true_eq] at checked
    exact modifyFirst_forall mainnet fun _ _ => checked.2
  | editScope addr newScope => exact modifyFirst_forall mainnet fun _ kept => kept
  | editLedgerAccountName addr newName => exact modifyFirst_forall mainnet fun _ kept => kept

variable {sdk lengths} {version : AppVersion} {w w' : World σ κ}

/-- A step is one of the app, with the list as it is, or one of the list. -/
theorem bookStep_cases {e : BookEvent} (stepped : bookStep sdk lengths version w e = some w') :
    (∃ own, (∀ contacts, own ≠ Event.setContacts contacts) ∧ step sdk version w own = some w') ∨
      ∃ op : ContactOp, w'.app.contacts = op.confirmed sdk lengths w.app.contacts ∧ w'.trace = w.trace := by
  unfold bookStep at stepped
  split at stepped
  · simp at stepped
  · rename_i own keeps
    exact .inl ⟨own, fun contacts same => keeps contacts same, stepped⟩
  · rename_i op
    right
    unfold step at stepped
    split at stepped
    · simp at stepped
    cases pending : w.app.pending with
    | some state => simp [pending] at stepped
    | none =>
      simp only [pending, Option.some.injEq] at stepped
      subst stepped
      exact ⟨op, rfl, rfl⟩

/-- One step leaves contacts of the main net only, and labels what was looked up among them. -/
theorem bookStep_labels (encodes : sdk.EncodesBase58) (mainnet : Mainnet w.app.contacts) {e : BookEvent}
    (stepped : bookStep sdk lengths version w e = some w') :
    Mainnet w'.app.contacts ∧ w.Reviews w' (Review.LabelsOwn sdk w.app.contacts) := by
  rcases bookStep_cases stepped with ⟨own, keeps, stepped⟩ | ⟨op, contacts, trace⟩
  · obtain ⟨contacts, reviews⟩ := step_labels sdk version encodes mainnet keeps stepped
    rw [contacts]
    exact ⟨mainnet, reviews⟩
  · rw [contacts]
    exact ⟨mainnet_kept sdk lengths mainnet op, .quiet [] trace (by simp)⟩

/-- **In every run from an empty list of contacts, each label a review shows was looked up for exactly
the address shown in full where it stands.** -/
theorem labels_own (encodes : sdk.EncodesBase58) {b : Boot} {es : List BookEvent} {e : BookEvent}
    (run : Run (bookStep sdk lengths version) anyStep (boot sdk { b with contacts := [] }) es w)
    (stepped : bookStep sdk lengths version w e = some w') :
    w.Reviews w' (Review.LabelsOwn sdk w.app.contacts) := by
  have mainnet : Mainnet w.app.contacts := by
    have none : Mainnet (boot sdk { b with contacts := [] }).app.contacts := by simp [Mainnet, boot]
    refine run.preserves (P := fun w : World σ κ => Mainnet w.app.contacts) none ?_
    intro before event after kept _ stepped
    exact (bookStep_labels encodes kept stepped).1
  exact (bookStep_labels encodes mainnet stepped).2

end Book

section Inputs

/-- A transfer to Bob, who was provided before. -/
def transferToBob : BookEvent :=
  .app (command Ins.sign P1.sign 0 (pathBytes 0 ++ sampleTransfer) sampleTransfer_short)

def namesBob (r : Review) : Bool :=
  r.infos.fields.any fun f => f.value = .toAddress && f.contact.any (fun c => c.contactName = ascii "Bob")

theorem labels_own_bob :
    ∃ w w', Run (bookStep device ⟨33, 33⟩ deviceVersion) anyStep (boot device { deviceBoot with contacts := [] })
        [.operation (.provideIdentity bob true)] w ∧
      bookStep device ⟨33, 33⟩ deviceVersion w transferToBob = some w' ∧
      (∃ r older, w'.trace = .review r :: older ∧ namesBob r = true) ∧
      w.Reviews w' (Review.LabelsOwn device w.app.contacts) := by
  obtain ⟨w, run, reviewed⟩ := Run.exists_of_exec (bookStep device ⟨33, 33⟩ deviceVersion) anyStep
    (boot device { deviceBoot with contacts := [] }) [.operation (.provideIdentity bob true)]
    (fun w => (bookStep device ⟨33, 33⟩ deviceVersion w transferToBob).any fun w' =>
      (lastReview w'.trace).any fun found => namesBob found.1) (by decide +kernel)
  rw [Option.any_eq_true] at reviewed
  obtain ⟨w', stepped, reviewed⟩ := reviewed
  rw [Option.any_eq_true] at reviewed
  obtain ⟨⟨r, older⟩, found, named⟩ := reviewed
  exact ⟨w, w', run, stepped, ⟨r, older, lastReview_eq found, named⟩,
    labels_own (fun _ _ => rfl) run stepped⟩

end Inputs

end

end TronLedger
