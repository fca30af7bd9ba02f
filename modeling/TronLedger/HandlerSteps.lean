import TronLedger.Steps

/-!
# What the handlers and the answers can do

The instructions other than INS_SIGN, and the callbacks of a review, as relations between
the session before, the news in the log and the session after.

* `pathWritten` is the path an APDU of any instruction leaves in `transactionContext`.
* `OtherMove` and `MessageMove` are what the handlers can do, `AnswerMove` the callbacks.
-/

namespace TronLedger

/-- Reviews whose approval is `ui_callback_tx_ok`. -/
def ApprovalState.isTransaction : ApprovalState → Bool
  | .verifyAddress | .signPersonalMessage | .sharedEcdhSecret | .signTip72Transaction => false
  | _ => true

/-- An accepted path is read from the APDU alone. -/
theorem readBip32Path_accepted {buffer : Bytes} {path : Bip32Path} {n : Nat}
    (h : (readBip32Path buffer path).2 = some n) (old : Bip32Path) :
    readBip32Path buffer old = readBip32Path buffer path := by
  cases buffer with
  | nil => simp [readBip32Path] at h
  | cons len words =>
    simp only [readBip32Path] at h ⊢
    split_ifs at h ⊢
    rfl

section

variable {σ κ : Type} (sdk : Sdk σ κ)

/-- The APDU gets as far as `read_bip32_path(..., &transactionContext.bip32_path)`. -/
def Session.writesPath (s : Session σ κ) (c : Command) : Bool :=
  c.cla = Ins.cla ∧
    ((c.ins = Ins.sign ∧ c.p2 = 0 ∧ (c.p1 = P1.first ∨ c.p1 = P1.sign)) ∨
      (!s.calledFromSwap ∧
        ((c.ins = Ins.signPersonalMessage ∧ s.settings.signByHash ∧
            (c.p1 = P1.first ∨ c.p1 = P1.sign)) ∨
          (c.ins = Ins.signTxnHash ∧ c.p1 = 0 ∧ c.p2 = 0 ∧ s.settings.signByHash) ∨
          (c.ins = Ins.getEcdhSecret ∧ c.p1 = 0 ∧ c.p2 = 1))))

/-- The path an APDU leaves in `transactionContext`. -/
def Session.pathWritten (s : Session σ κ) (c : Command) : Bip32Path :=
  if s.writesPath c then (readBip32Path c.data s.path).1 else s.path

section Answers

variable (w : World σ κ)

/-- What the answer to a review of kind `state` does to the session `s`. -/
inductive AnswerMove (s : Session σ κ) (state : ApprovalState) : List Effect → Session σ κ → Prop
  | shared (data : Bytes) (sw : Sw) (other : state.isTransaction = false)
      (message : state ≠ .signPersonalMessage) : AnswerMove s state [.reply data sw] s
  | sharedTyped (data : Bytes) (path : Bip32Path) (hash : Buf 32)
      (typed : state = .signTip72Transaction) :
      AnswerMove s state [.reply data .ok, .signature path hash] s
  | messageSigned (data : Bytes) (message : state = .signPersonalMessage) :
      AnswerMove s state [.reply data .ok, .signature s.path s.hash] s
  | messageFailed (sw : Sw) (bad : sw ≠ .ok) (message : state = .signPersonalMessage) :
      AnswerMove s state [.reply [] sw] s
  | signed (data : Bytes) (own : state.isTransaction) :
      AnswerMove s state [.reply data .ok, .signature s.path s.hash] (s.terminated sdk)
  | closed (sw : Sw) (bad : sw ≠ .ok) : AnswerMove s state [.reply [] sw] (s.terminated sdk)

theorem signAndReply_spec :
    (signAndReply sdk w).session = w.session ∧
      ((∃ data, (signAndReply sdk w).trace =
          .reply data .ok :: .signature w.session.path w.session.hash :: w.trace) ∨
        (signAndReply sdk w).trace = .reply [] .securityStatusNotSatisfied :: w.trace) := by
  simp only [signAndReply, signTransaction]
  cases sdk.signHash w.app.transactionContext.bip32Path w.app.transactionContext.hash with
  | none => exact ⟨rfl, .inr rfl⟩
  | some rs => exact ⟨rfl, .inl ⟨_, rfl⟩⟩

theorem uiCallbackTxOk_takes :
    w.Takes (uiCallbackTxOk sdk w) fun news s' => s' = w.session.terminated sdk ∧
      ((∃ data, news = [.reply data .ok, .signature w.session.path w.session.hash]) ∨
        news = [.reply [] .securityStatusNotSatisfied]) := by
  have closed : (uiCallbackTxOk sdk w).session = w.session.terminated sdk := by
    simp only [uiCallbackTxOk, terminateSigningSession_session, (signAndReply_spec sdk w).1]
  obtain ⟨-, ⟨data, trace⟩ | trace⟩ := signAndReply_spec sdk w
  · exact .intro [_, _] trace closed ⟨rfl, .inl ⟨data, rfl⟩⟩
  · exact .intro [_] trace closed ⟨rfl, .inr rfl⟩

theorem confirmReview_takes (state : ApprovalState) :
    w.Takes (confirmReview sdk state w) (AnswerMove sdk w.session state) := by
  have approved (own : state.isTransaction) :
      w.Takes (uiCallbackTxOk sdk w) (AnswerMove sdk w.session state) := by
    refine (uiCallbackTxOk_takes sdk w).mono ?_
    rintro news s' ⟨rfl, ⟨data, rfl⟩ | rfl⟩
    · exact .signed data own
    · exact .closed _ (by decide)
  cases state with
  | verifyAddress => exact ⟨_, rfl, .shared _ _ rfl (by decide)⟩
  | signPersonalMessage =>
    obtain ⟨session, ⟨data, trace⟩ | trace⟩ := signAndReply_spec sdk w
    · exact .intro [_, _] trace session (.messageSigned data rfl)
    · exact .intro [_] trace session (.messageFailed _ (by decide) rfl)
  | sharedEcdhSecret =>
    simp only [confirmReview, uiCallbackEcdhOk]
    cases sdk.ecdh w.app.transactionContext.bip32Path w.app.transactionContext.signature.bytes with
    | none => exact ⟨_, rfl, .shared _ _ rfl (by decide)⟩
    | some secret => exact ⟨_, rfl, .shared _ _ rfl (by decide)⟩
  | signTip72Transaction =>
    simp only [confirmReview, uiCallbackSignMessage712Ok]
    split
    · exact ⟨_, rfl, .shared _ _ rfl (by decide)⟩
    · exact ⟨_, rfl, .sharedTyped _ _ _ rfl⟩
  | _ => exact approved rfl

/-- Rejecting closes the session for every review but that of a typed message. -/
theorem reviewChoice_takes (confirm : Bool) (state : ApprovalState) :
    w.Takes (reviewChoice sdk confirm state w) (AnswerMove sdk w.session state) := by
  cases confirm with
  | true => exact confirmReview_takes sdk w state
  | false =>
    cases state with
    | signTip72Transaction => exact ⟨_, rfl, .shared _ _ rfl (by decide)⟩
    | _ => exact ⟨_, rfl, .closed _ (by decide)⟩

end Answers

section Others

/-- The reviews of `handleSignByHash`, `handleECDHSecret` and `handleSignTIP712Message`. -/
def ApprovalState.isOther : ApprovalState → Bool
  | .simpleTransaction | .sharedEcdhSecret | .signTip72Transaction => true
  | _ => false

/-- What an APDU that belongs to no session can do: `s` is the session it prepared. -/
inductive OtherEnd (s : Session σ κ) : List Effect → Session σ κ → Prop
  | replied (data : Bytes) (sw : Sw) : OtherEnd s [.reply data sw] s
  | reviewing (kind : ApprovalState) (r : Review) (noSwap : s.calledFromSwap = false)
      (other : kind.isOther) (shown : ReviewOf s kind false r) :
      OtherEnd s [.review r] { s with pending := some kind }
  | verifying (noSwap : s.calledFromSwap = false) :
      OtherEnd s [.verifyAddress] { s with pending := some .verifyAddress }

/-- A handler may go on from any world with the same log and session. -/
theorem OtherEnd.of_eq {w v w' : World σ κ} (trace : v.trace = w.trace)
    (session : v.session = w.session) (takes : v.Takes w' (OtherEnd v.session)) :
    w.Takes w' (OtherEnd w.session) := by
  obtain ⟨news, trace', ends⟩ := takes
  exact ⟨news, trace ▸ trace', session ▸ ends⟩

theorem OtherEnd.ioSendResponse (w : World σ κ) (data : Bytes) (sw : Sw) :
    w.Takes (w.ioSendResponse data sw) (OtherEnd w.session) :=
  .intro [_] rfl rfl (.replied data sw)

theorem OtherEnd.ioSendSw {w v : World σ κ} (sw : Sw) (trace : v.trace = w.trace)
    (session : v.session = w.session) : w.Takes (v.ioSendSw sw) (OtherEnd w.session) :=
  OtherEnd.of_eq trace session (OtherEnd.ioSendResponse v [] sw)

theorem OtherEnd.display {w v : World σ κ} (kind : ApprovalState) (other : kind.isOther)
    (noSwap : v.session.calledFromSwap = false) (trace : v.trace = w.trace) (session : v.session = w.session) :
    w.Takes (uxFlowDisplay sdk kind false v) (OtherEnd w.session) := by
  have notVerify : kind ≠ .verifyAddress := by rintro rfl; simp [ApprovalState.isOther] at other
  have notVote : kind ≠ .witnessVoteTransaction := by
    rintro rfl; simp [ApprovalState.isOther] at other
  obtain ⟨r, shown, trace', session', -⟩ :=
    uxFlowDisplay_spec sdk v kind false notVerify (fun vote => absurd vote notVote)
  exact OtherEnd.of_eq trace session (.intro [_] trace' session' (.reviewing kind r noSwap other shown))

variable (w : World σ κ)

theorem handleSignTIP712Message_takes (p1 p2 : UInt8) (data : Bytes)
    (noSwap : w.app.calledFromSwap = false) :
    w.Takes (handleSignTIP712Message sdk p1 p2 data w) (OtherEnd w.session) := by
  unfold handleSignTIP712Message
  split
  · exact OtherEnd.ioSendSw _ rfl rfl
  split
  · exact OtherEnd.ioSendSw _ rfl rfl
  split
  · exact OtherEnd.ioSendSw _ rfl rfl
  dsimp only
  split
  · exact OtherEnd.ioSendSw _ rfl rfl
  split
  · exact OtherEnd.ioSendSw _ rfl rfl
  split
  · exact OtherEnd.ioSendSw _ rfl rfl
  split
  · exact OtherEnd.ioSendSw _ rfl rfl
  split
  · exact OtherEnd.ioSendSw _ rfl rfl
  · exact OtherEnd.display sdk _ rfl noSwap rfl rfl

theorem handleGetPublicKey_takes (p1 p2 : UInt8) (data : Bytes) :
    w.Takes (handleGetPublicKey sdk p1 p2 data w) (OtherEnd w.session) := by
  unfold handleGetPublicKey
  dsimp only
  split
  · exact OtherEnd.ioSendSw _ rfl rfl
  split
  · exact OtherEnd.ioSendSw _ rfl rfl
  split
  · exact OtherEnd.ioSendSw _ rfl rfl
  split
  · exact OtherEnd.ioSendSw _ rfl rfl
  split
  · exact .intro [_] rfl rfl (.replied _ _)
  split
  · exact OtherEnd.ioSendSw _ rfl rfl
  · rename_i noSwap
    exact .intro [_] rfl rfl (.verifying (Bool.eq_false_iff.mpr noSwap))

/-- The same for an APDU that has read a path into `transactionContext`, and may have
replaced the hash there. -/
def OtherMove (c : Command) (s : Session σ κ) (news : List Effect) (s' : Session σ κ) : Prop :=
  ∃ hash, OtherEnd { s with path := s.pathWritten c, hash := hash } news s'

theorem OtherMove.of_eq {w v w' : World σ κ} {c : Command} (hash : Buf 32)
    (trace : v.trace = w.trace)
    (session : v.session = { w.session with path := w.session.pathWritten c, hash := hash })
    (takes : v.Takes w' (OtherEnd v.session)) : w.Takes w' (OtherMove c w.session) := by
  obtain ⟨news, trace', ends⟩ := takes
  exact ⟨news, trace ▸ trace', hash, session ▸ ends⟩

theorem OtherMove.ioSendSw {w v : World σ κ} {c : Command} (sw : Sw) (trace : v.trace = w.trace)
    (session : v.session =
      { w.session with path := w.session.pathWritten c, hash := v.session.hash }) :
    w.Takes (v.ioSendSw sw) (OtherMove c w.session) :=
  OtherMove.of_eq _ trace session (OtherEnd.ioSendSw sw rfl rfl)

theorem OtherMove.display {w v : World σ κ} {c : Command} (kind : ApprovalState)
    (other : kind.isOther) (noSwap : v.session.calledFromSwap = false) (trace : v.trace = w.trace)
    (session : v.session =
      { w.session with path := w.session.pathWritten c, hash := v.session.hash }) :
    w.Takes (uxFlowDisplay sdk kind false v) (OtherMove c w.session) :=
  OtherMove.of_eq _ trace session (OtherEnd.display sdk kind other noSwap rfl rfl)

theorem pathWritten_of_not {s : Session σ κ} {c : Command} (h : s.writesPath c = false) :
    s.pathWritten c = s.path := by simp [Session.pathWritten, h]

theorem pathWritten_of {s : Session σ κ} {c : Command} (h : s.writesPath c = true) :
    s.pathWritten c = (readBip32Path c.data s.path).1 := by simp [Session.pathWritten, h]

theorem OtherMove.of_end {w w' : World σ κ} {c : Command} (h : w.session.writesPath c = false)
    (takes : w.Takes w' (OtherEnd w.session)) : w.Takes w' (OtherMove c w.session) :=
  OtherMove.of_eq w.session.hash rfl (by rw [pathWritten_of_not h]) takes

theorem handleSignByHash_takes (c : Command) (cla : c.cla = Ins.cla)
    (ins : c.ins = Ins.signTxnHash) (noSwap : w.app.calledFromSwap = false) :
    w.Takes (handleSignByHash sdk c.p1 c.p2 c.data w) (OtherMove c w.session) := by
  have writes : w.session.writesPath c =
      decide (c.p1 = 0 ∧ c.p2 = 0 ∧ w.app.settings.signByHash = true) := by
    simp [Session.writesPath, World.session, cla, ins, noSwap, Ins.signTxnHash, Ins.sign,
      Ins.signPersonalMessage, Ins.getEcdhSecret]
  unfold handleSignByHash
  split
  · rename_i bad
    refine OtherMove.of_end ?_ (OtherEnd.ioSendSw _ rfl rfl)
    rw [writes, decide_eq_false_iff_not]
    tauto
  rename_i good
  split
  · rename_i off
    refine OtherMove.of_end ?_ (OtherEnd.ioSendSw _ rfl rfl)
    simp only [writes, decide_eq_false_iff_not]
    simp_all
  rename_i on
  have path : w.session.pathWritten c = (readBip32Path c.data w.session.path).1 := by
    refine pathWritten_of ?_
    rw [writes, decide_eq_true_iff]
    exact ⟨by tauto, by tauto, by simpa using on⟩
  dsimp only
  split
  · exact OtherMove.ioSendSw _ rfl (by rw [path]; rfl)
  split
  · exact OtherMove.ioSendSw _ rfl (by rw [path]; rfl)
  split
  · exact OtherMove.ioSendSw _ rfl (by rw [path]; rfl)
  · exact OtherMove.display sdk _ rfl noSwap rfl (by rw [path]; rfl)

theorem handleECDHSecret_takes (c : Command) (cla : c.cla = Ins.cla)
    (ins : c.ins = Ins.getEcdhSecret) (noSwap : w.app.calledFromSwap = false) :
    w.Takes (handleECDHSecret sdk c.p1 c.p2 c.data w) (OtherMove c w.session) := by
  have writes : w.session.writesPath c = decide (c.p1 = 0 ∧ c.p2 = 1) := by
    simp [Session.writesPath, World.session, cla, ins, noSwap, Ins.signTxnHash, Ins.sign,
      Ins.signPersonalMessage, Ins.getEcdhSecret]
  unfold handleECDHSecret
  split
  · rename_i bad
    refine OtherMove.of_end ?_ (OtherEnd.ioSendSw _ rfl rfl)
    rw [writes, decide_eq_false_iff_not]
    tauto
  rename_i good
  have path : w.session.pathWritten c = (readBip32Path c.data w.session.path).1 := by
    refine pathWritten_of ?_
    rw [writes, decide_eq_true_iff]
    tauto
  dsimp only
  split
  · exact OtherMove.ioSendSw _ rfl (by rw [path]; rfl)
  split
  · exact OtherMove.ioSendSw _ rfl (by rw [path]; rfl)
  split
  · exact OtherMove.ioSendSw _ rfl (by rw [path]; rfl)
  · exact OtherMove.display sdk _ rfl noSwap rfl (by rw [path]; rfl)

end Others

section Messages

/-- How an APDU of a personal message gets to its message bytes: the news, the session then,
and the bytes. -/
inductive MessageEntry (c : Command) (s : Session σ κ) :
    List Effect → Session σ κ → Bytes → Prop
  | opens (n : Nat) (length : UInt32) (writes : s.writesPath c = true)
      (read : (readBip32Path c.data s.path).2 = some n) (long : 4 ≤ (c.data.drop n).length)
      (announced : length = UInt32.ofNat (beNat ((c.data.drop n).take 4))) :
      MessageEntry c s [.messageStart length]
        { s with
          path := s.pathWritten c
          txContent := { s.txContent with dataBytes := length.toUInt64 }
          personal := ⟨sdk.keccak256.absorb [signMagic, personalLength length], true⟩ }
        ((c.data.drop n).drop 4)
  | continues (more : c.p1 = P1.more) (keeps : s.writesPath c = false)
      (live : s.personal.initialized = true)
      (taken : s.settings.signByHash = true ∧ s.calledFromSwap = false) :
      MessageEntry c s [] s c.data

def Session.personalCleared (s : Session σ κ) : Session σ κ :=
  { s with personal := ⟨sdk.keccak256.zeroed, false⟩ }

/-- The session once message bytes are hashed. -/
def Session.absorbed (s : Session σ κ) (content : Bytes) : Session σ κ :=
  { s with
    personal := { s.personal with sha3 := sdk.keccak256.update s.personal.sha3 content }
    txContent := { s.txContent with
      dataBytes := s.txContent.dataBytes - UInt64.ofNat content.length } }

/-- The session once the digest is taken. -/
def Session.digested (s : Session σ κ) : Session σ κ :=
  Session.personalCleared sdk { s with hash := (sdk.keccak256.last s.personal.sha3).1 }

/-- The digest is shown, unless the key cannot be derived. -/
inductive MessageEnd (s : Session σ κ) : List Effect → Session σ κ → Prop
  | failed (sw : Sw) (bad : sw ≠ .ok) : MessageEnd s [.reply [] sw] s
  | reviewing (r : Review) (shown : ReviewOf s .signPersonalMessage false r)
      (written : ∃ old, r.ui.fullContract = sdk.putHex old 0 s.hash.bytes 67) :
      MessageEnd s [.review r] { s with pending := some .signPersonalMessage }

/-- What the bytes of an entered message APDU do to the session `v`. -/
inductive MessageChunk (p2 : UInt8) (content : Bytes) (v : Session σ κ) :
    List Effect → Session σ κ → Prop
  | badP2 (wrong : p2 ≠ 0) : MessageChunk p2 content v [.reply [] .incorrectP1P2] v
  | tooLong (right : p2 = 0) (longer : v.txContent.dataBytes < UInt64.ofNat content.length) :
      MessageChunk p2 content v [.reply [] .incorrectLength] (v.personalCleared sdk)
  | absorbs (right : p2 = 0) (fits : UInt64.ofNat content.length ≤ v.txContent.dataBytes)
      (left : (v.absorbed sdk content).txContent.dataBytes ≠ 0) :
      MessageChunk p2 content v [.reply [] .ok, .messageBytes content] (v.absorbed sdk content)
  | completes (right : p2 = 0) (fits : UInt64.ofNat content.length ≤ v.txContent.dataBytes)
      (done : (v.absorbed sdk content).txContent.dataBytes = 0) {news : List Effect}
      {s' : Session σ κ} (ends : MessageEnd sdk ((v.absorbed sdk content).digested sdk) news s') :
      MessageChunk p2 content v (news ++ [.messageBytes content]) s'

/-- What an APDU of INS_SIGN_PERSONAL_MESSAGE can do. -/
inductive MessageMove (c : Command) (s : Session σ κ) : List Effect → Session σ κ → Prop
  | refused (sw : Sw) (bad : sw ≠ .ok) (keeps : s.writesPath c = false) :
      MessageMove c s [.reply [] sw] s
  | badOpening (sw : Sw) (bad : sw ≠ .ok) :
      MessageMove c s [.reply [] sw] (Session.personalCleared sdk { s with path := s.pathWritten c })
  | enters {first news : List Effect} {v s' : Session σ κ} {content : Bytes}
      (entry : MessageEntry sdk c s first v content)
      (chunk : MessageChunk sdk c.p2 content v news s') : MessageMove c s (news ++ first) s'

variable (w : World σ κ)

theorem personalFinalise_takes :
    w.Takes (personalFinalise sdk w) (MessageEnd sdk (w.session.digested sdk)) := by
  unfold personalFinalise
  dsimp only
  split
  · exact .intro [_] rfl rfl (.failed _ (by decide))
  · rename_i context fromAddress derived
    obtain ⟨r, shown, trace, session, ui⟩ :=
      uxFlowDisplay_spec sdk _ .signPersonalMessage false (by decide) (by simp)
    exact .intro [_] trace session (.reviewing r shown ⟨_, by rw [ui (by decide)]; rfl⟩)

theorem personalChunk_takes (content : Bytes) :
    w.Takes (personalChunk sdk content w) (MessageChunk sdk 0 content w.session) := by
  unfold personalChunk
  split
  · rename_i longer
    exact .intro [_] rfl rfl (.tooLong rfl longer)
  · rename_i fits
    have fits' : UInt64.ofNat content.length ≤ w.session.txContent.dataBytes :=
      UInt64.not_lt.mp fits
    dsimp only
    split
    · rename_i done
      refine (World.Takes.after [.messageBytes content] rfl (personalFinalise_takes sdk _)).mono ?_
      rintro news s' ⟨rest, rfl, ends⟩
      exact .completes rfl fits' done ends
    · rename_i left
      exact .intro [_, _] rfl rfl (.absorbs rfl fits' left)

theorem handleSignPersonalMessage_takes (c : Command) (cla : c.cla = Ins.cla)
    (ins : c.ins = Ins.signPersonalMessage) (noSwap : w.app.calledFromSwap = false) :
    w.Takes (handleSignPersonalMessage sdk c.p1 c.p2 c.data w) (MessageMove sdk c w.session) := by
  have writes : w.session.writesPath c =
      decide (w.app.settings.signByHash = true ∧ (c.p1 = P1.first ∨ c.p1 = P1.sign)) := by
    simp [Session.writesPath, World.session, cla, ins, noSwap, Ins.signTxnHash, Ins.sign,
      Ins.signPersonalMessage, Ins.getEcdhSecret]
  have chunk {v : World σ κ} {content : Bytes} (first : List Effect)
      (trace : v.trace = first ++ w.trace)
      (entry : MessageEntry sdk c w.session first v.session content) :
      w.Takes (if c.p2 ≠ 0 then v.ioSendSw .incorrectP1P2 else personalChunk sdk content v)
        (MessageMove sdk c w.session) := by
    have takes : v.Takes (if c.p2 ≠ 0 then v.ioSendSw .incorrectP1P2
        else personalChunk sdk content v) (MessageChunk sdk c.p2 content v.session) := by
      split
      · rename_i wrong
        exact .intro [_] rfl rfl (.badP2 wrong)
      · rename_i right
        rw [not_not.mp right]
        exact personalChunk_takes sdk v content
    refine (takes.after first trace).mono ?_
    rintro news s' ⟨rest, rfl, moved⟩
    exact .enters entry moved
  unfold handleSignPersonalMessage
  split
  · rename_i off
    refine .intro [_] rfl rfl (.refused _ (by decide) ?_)
    rw [writes, decide_eq_false_iff_not]
    simp_all
  rename_i on
  have on' : w.app.settings.signByHash = true := by simpa using on
  by_cases opener : c.p1 = P1.first ∨ c.p1 = P1.sign
  · have writes : w.session.writesPath c = true := by
      rw [writes, decide_eq_true_iff]
      exact ⟨on', opener⟩
    have path := pathWritten_of writes
    simp only [if_pos opener, personalOpen]
    cases read : (readBip32Path c.data w.app.transactionContext.bip32Path).2 with
    | none =>
      refine .intro [_] rfl ?_ (.badOpening _ (by decide))
      rw [path]
      rfl
    | some n =>
      by_cases short : (c.data.drop n).length < 4
      · simp only [if_pos short]
        refine .intro [_] rfl ?_ (.badOpening .incorrectLength (by decide))
        rw [path]
        rfl
      · simp only [if_neg short]
        refine chunk [_] rfl ?_
        have entry : MessageEntry sdk c w.session _ _ _ := .opens n _ writes read
          (Nat.not_lt.mp short) rfl
        rw [path] at entry
        exact entry
  · simp only [if_neg opener]
    have keeps : w.session.writesPath c = false := by
      rw [writes, decide_eq_false_iff_not]
      tauto
    by_cases wrong : c.p1 ≠ P1.more ∨ !w.app.personalMsgCtx.initialized
    · simp only [if_pos wrong]
      exact .intro [_] rfl rfl (.refused _ (by decide) keeps)
    · simp only [if_neg wrong]
      simp only [not_or, not_not, Bool.not_eq_true', Bool.not_eq_false] at wrong
      exact chunk [] rfl (.continues wrong.1 keeps wrong.2 ⟨on', noSwap⟩)

end Messages

end

end TronLedger
