import TronLedger.Lib.Consent
import TronLedger.PermissionReview
import TronLedger.SwapRuns

/-!
# What the user consents to

Started by the user, the app is a device that acts on consent: its log is that of a
`ConsentRun`, whatever the order of its events.

* `Request` is what a screen stands for, and what an approval of it puts out.
* `World.request` is the one that is waiting, read from the globals.
-/

namespace TronLedger

section Requests

variable {σ κ : Type} (sdk : Sdk σ κ)

/-- A signature of a digest, the same of a typed message, a shared secret, an address. -/
inductive Request
  | sign (path : Bip32Path) (hash : Buf 32)
  | typed (path : Bip32Path) (domainHash messageHash : Buf 32)
  | secret (path : Bip32Path) (point : Buf 65)
  | address (context : PublicKeyContext)
  deriving DecidableEq

/-- The digest that is signed for a typed message. -/
def typedDigest (domainHash messageHash : Buf 32) : Buf 32 :=
  (sdk.keccak256.last (sdk.keccak256.absorb [[0x19, 0x01], domainHash.bytes, messageHash.bytes])).1

/-- What `helper_send_response_pubkey` sends. -/
def PublicKeyContext.response (context : PublicKeyContext) : Bytes :=
  [65] ++ context.publicKey.bytes ++ [34] ++ context.address58.bytes.take 34 ++
    if context.getChaincode then context.chainCode.bytes else []

/-- What an approved request puts out, newest first. -/
def Request.approved : Request → List Effect
  | sign path hash =>
    match sdk.signHash path hash with
    | none => [.reply [] .securityStatusNotSatisfied]
    | some (r, s, odd) => [.reply (r.bytes ++ s.bytes ++ [if odd then 1 else 0]) .ok, .signature path hash]
  | typed path domainHash messageHash =>
    let hash := typedDigest sdk domainHash messageHash
    match sdk.signHashDer path hash with
    | none => [.reply [] .securityStatusNotSatisfied]
    | some (signature, odd) =>
      [.reply ((formatSignatureOut signature.bytes (Buf.zero 260)).bytes.take 64 ++ [if odd then 1 else 0]) .ok,
        .signature path hash]
  | secret path point =>
    match sdk.ecdh path point.bytes with
    | none => [.reply [] .securityStatusNotSatisfied]
    | some shared => [.reply shared.bytes .ok]
  | address context => [.reply context.response .ok]

/-- The text is the address of the key at `path`. -/
def KeyAddress {n : Nat} (path : Bip32Path) (text : Buf n) : Prop :=
  ∃ publicKey chainCode old, sdk.derivePublicKey path = some (publicKey, chainCode) ∧
    text = getBase58FromPublicKey sdk publicKey.bytes old

/-- The buffers of a review hold what is asked. -/
def Request.Reviewed (r : Review) : Request → Prop
  | sign path hash =>
    r.path = path ∧ r.hash = hash ∧ (r.infos.state.isTransaction = true ∨
      r.infos.state = .signPersonalMessage ∧ KeyAddress sdk path r.ui.fromAddress ∧
        r.ui.fullContract.str 0 = sdk.hexText hash.bytes)
  | typed path domainHash messageHash =>
    r.infos.state = .signTip72Transaction ∧ KeyAddress sdk path r.ui.fromAddress ∧
      r.ui.strings.str 0 = sdk.bytesText domainHash.bytes ∧ r.ui.strings.str 70 = sdk.bytesText messageHash.bytes
  | secret path point =>
    r.infos.state = .sharedEcdhSecret ∧ KeyAddress sdk path r.ui.fromAddress ∧
      ∃ old, r.ui.toAddress = getBase58FromPublicKey sdk point.bytes old
  | address _ => False

/-- A screen shows a request: a review, whose fields are made of its buffers, or an address. -/
def Request.Shown (q : Request) : Effect → Prop
  | .review r =>
    prepareTxInfos r.infos.state r.infos.dataWarning r.content.contractType r.ui = .ready r.infos ∧ q.Reviewed sdk r
  | .verifyAddress => ∃ path old context, q = .address context ∧
      sdk.derivePublicKey path = some (context.publicKey, context.chainCode) ∧
      context.address58 = getBase58FromPublicKey sdk context.publicKey.bytes old
  | _ => False

/-- A signature, or a reply as long as a signature and a shared secret are. -/
def Effect.isSecret : Effect → Bool
  | .signature _ _ => true
  | .reply data _ => data.length = 65
  | _ => false

def consentRules : ConsentRules Request Effect where
  shows q := q.Shown sdk
  approved := Request.approved sdk
  refused _ := [.reply [] .conditionsOfUseNotSatisfied]
  free e := e.isScreen = false ∧ e.isSecret = false

/-- The request a screen of kind `state` stands for. -/
def App.requested (app : App σ κ) : ApprovalState → Request
  | .verifyAddress => .address app.publicKeyContext
  | .signTip72Transaction =>
    let context := app.messageSigningContext712
    .typed (context.bip32Path.toList.take context.pathLength.toNat) context.domainHash context.messageHash
  | .sharedEcdhSecret => .secret app.transactionContext.bip32Path app.transactionContext.signature
  | _ => .sign app.transactionContext.bip32Path app.transactionContext.hash

def World.request (w : World σ κ) : Option Request := w.app.pending.map w.app.requested

end Requests

section Sessions

variable {σ κ : Type} {sdk : Sdk σ κ} {s v s' : Session σ κ} {c : Command} {news : List Effect} {payload : Bytes}

/-- Nothing of the log needs consent. -/
def Unasked (news : List Effect) : Prop := ∀ e ∈ news, e.isScreen = false ∧ e.isSecret = false

theorem unasked_append {first : List Effect} (behind : Unasked first) (unasked : Unasked news) :
    Unasked (news ++ first) := by
  intro e among
  rcases List.mem_append.mp among with among | among
  · exact unasked e among
  · exact behind e among

/-- INS_SIGN either goes on or asks for a signature of the digest of the session. -/
inductive SignAsks (s' : Session σ κ) : List Effect → Prop
  | goesOn {news : List Effect} (idle : s'.pending = none) (unasked : Unasked news) : SignAsks s' news
  | asks {kind : ApprovalState} {r : Review} {older : List Effect} (own : kind.isTransaction = true)
      (waits : s'.pending = some kind) (state : r.infos.state = kind) (path : r.path = s'.path)
      (hash : r.hash = s'.hash)
      (prepared : prepareTxInfos kind r.infos.dataWarning r.content.contractType r.ui = .ready r.infos)
      (unasked : Unasked older) : SignAsks s' (.review r :: older)

theorem SignAsks.after {first : List Effect} (asked : SignAsks s' news) (unasked : Unasked first) :
    SignAsks s' (news ++ first) := by
  cases asked with
  | goesOn idle free => exact .goesOn idle (unasked_append unasked free)
  | asks own waits state path hash prepared free =>
    exact .asks own waits state path hash prepared (unasked_append unasked free)

theorem signEnd_consents (noSwap : s.calledFromSwap = false) (idle : s.pending = none) (ends : SignEnd sdk s news s') :
    SignAsks s' news := by
  have unsound {ui : Ui} (renders : Session.Renders sdk s .swapSign ui) : False := by
    obtain ⟨_, _, -, sound⟩ := Renders.sound sdk renders
    have swap : s.calledFromSwap = true := sound.swap
    simp [noSwap] at swap
  cases ends with
  | refused => exact .goesOn idle (by simp [Unasked, Effect.isScreen, Effect.isSecret])
  | thrown => exact .goesOn idle (by simp [Unasked, Effect.isScreen, Effect.isSecret])
  | reviewing kind r _ own _ _ _ _ shown =>
    refine .asks own rfl shown.state_eq shown.path_eq shown.hash_eq ?_ (by simp [Unasked])
    rw [shown.warning_eq, shown.content_eq]
    exact shown.ready
  | swapSigned _ _ renders => exact (unsound renders).elim
  | swapFailed _ renders => exact (unsound renders).elim

theorem signParse_consents (noSwap : s.calledFromSwap = false) (idle : s.pending = none)
    (parse : SignParse sdk c payload s news s') : SignAsks s' news := by
  cases parse with
  | acknowledged => exact .goesOn idle (by simp [Unasked, Effect.isScreen, Effect.isSecret])
  | faulted => exact .goesOn idle (by simp [Unasked, Effect.isScreen, Effect.isSecret])
  | finalises _ ends =>
    exact (signEnd_consents (by exact noSwap) (by exact idle) ends).after
      (by simp [Unasked, Effect.isScreen, Effect.isSecret])

theorem signMove_consents (noSwap : s.calledFromSwap = false) (idle : s.pending = none)
    (moved : SignMove sdk c s news s') : SignAsks s' news := by
  cases moved with
  | early => exact .goesOn idle (by simp [Unasked, Effect.isScreen, Effect.isSecret])
  | enters _ entry chunk =>
    rename_i first rest v payload
    have entered : v.calledFromSwap = false ∧ v.pending = none ∧ Unasked first := by
      cases entry <;> exact ⟨noSwap, idle, by simp [Unasked, Effect.isScreen, Effect.isSecret]⟩
    obtain ⟨noSwap, idle, unasked⟩ := entered
    refine SignAsks.after ?_ unasked
    cases chunk with
    | closed => exact .goesOn idle (by simp [Unasked, Effect.isScreen, Effect.isSecret])
    | exits _ swap => simp [noSwap] at swap
    | parses _ _ parse =>
      exact (signParse_consents (by exact noSwap) (by exact idle) parse).after
        (by simp [Unasked, Effect.isScreen, Effect.isSecret])
    | swapParses _ swap => simp [noSwap] at swap

/-- Who started the app stays, and so do the settings. -/
structure Session.Kept (s s' : Session σ κ) : Prop where
  called : s'.calledFromSwap = s.calledFromSwap
  settings : s'.settings = s.settings

theorem signMove_kept (moved : SignMove sdk c s news s') : s.Kept s' := by
  cases moved with
  | early => exact ⟨rfl, rfl⟩
  | enters _ entry chunk =>
    rename_i v payload
    have entered : s.Kept v := by cases entry <;> exact ⟨rfl, rfl⟩
    obtain ⟨called, settings⟩ := entered
    cases chunk with
    | closed => exact ⟨called, settings⟩
    | exits => exact ⟨called, settings⟩
    | parses _ _ parse | swapParses _ _ _ parse =>
      cases parse with
      | acknowledged => exact ⟨called, settings⟩
      | faulted => exact ⟨called, settings⟩
      | finalises _ ends => cases ends <;> exact ⟨called, settings⟩

theorem messageMove_kept (moved : MessageMove sdk c s news s') : s.Kept s' := by
  cases moved with
  | refused => exact ⟨rfl, rfl⟩
  | badOpening => exact ⟨rfl, rfl⟩
  | enters entry chunk =>
    rename_i v content
    have entered : s.Kept v := by cases entry <;> exact ⟨rfl, rfl⟩
    obtain ⟨called, settings⟩ := entered
    cases chunk with
    | completes _ _ _ ends => cases ends <;> exact ⟨called, settings⟩
    | _ => exact ⟨called, settings⟩

theorem apduMove_kept (moved : ApduMove sdk c s news s') : s.Kept s' := by
  cases moved with
  | sign _ moved => exact signMove_kept moved
  | message _ _ moved => exact messageMove_kept moved
  | other _ _ moved =>
    obtain ⟨hash, ends⟩ := moved
    cases ends <;> exact ⟨rfl, rfl⟩

theorem answerMove_called {state : ApprovalState} (moved : AnswerMove sdk s state news s') : s.Kept s' := by
  cases moved <;> exact ⟨rfl, rfl⟩

/-- Who started the app stays. -/
theorem move_called {e : Event} (moved : Move sdk s e news s') : s'.calledFromSwap = s.calledFromSwap := by
  cases moved with
  | apdu _ _ moved => exact (apduMove_kept moved).called
  | answer _ _ moved => exact (answerMove_called moved).called
  | _ => rfl

end Sessions

section Handlers

variable {σ κ : Type} (sdk : Sdk σ κ) {w v w' : World σ κ}

/-- The address on the screen is the one an approval sends. -/
def World.ShowsAddress (w : World σ κ) : Prop :=
  w.app.pending = some .verifyAddress → w.app.ui.toAddress = w.app.publicKeyContext.address58

/-- An APDU either goes on or asks for consent. -/
inductive Proceeds (w w' : World σ κ) : Prop
  | goesOn (news : List Effect) (trace : w'.trace = news ++ w.trace) (idle : w'.app.pending = none)
      (unasked : Unasked news)
  | asks (screen : Effect) (older : List Effect) {q : Request} (trace : w'.trace = screen :: older ++ w.trace)
      (waits : w'.request = some q) (shown : q.Shown sdk screen) (address : w'.ShowsAddress) (unasked : Unasked older)

/-- The log and the request that waits are those of a run. -/
def Consents (w : World σ κ) (answered : List (Request × Bool)) : Prop :=
  ConsentRun (consentRules sdk) answered w.request w.trace

theorem Consents.proceeds {answered : List (Request × Bool)} (consents : Consents sdk w answered)
    (idle : w.app.pending = none) (proceeds : Proceeds sdk w w') : Consents sdk w' answered ∧ w'.ShowsAddress := by
  have waiting : w.request = none := by rw [World.request, idle, Option.map_none]
  rw [Consents, waiting] at consents
  cases proceeds with
  | goesOn news trace idle' unasked =>
    have waiting' : w'.request = none := by rw [World.request, idle', Option.map_none]
    rw [Consents, waiting', trace]
    exact ⟨consents.acts news unasked, fun asked => by simp [idle'] at asked⟩
  | asks screen older trace waits shown address unasked =>
    rw [Consents, waits, trace]
    exact ⟨(consents.acts older unasked).asks shown, address⟩

/-- The handlers of the other instructions only answer until they ask. -/
theorem Proceeds.reply (data : Bytes) (sw : Sw) (trace : v.trace = w.trace) (idle : v.app.pending = none)
    (plain : data.length ≠ 65) : Proceeds sdk w (v.ioSendResponse data sw) := by
  refine .goesOn [.reply data sw] ?_ idle ?_
  · rw [ioSendResponse_trace, trace]
    rfl
  · simp [Unasked, Effect.isScreen, Effect.isSecret, plain]

theorem Proceeds.error (sw : Sw) (trace : v.trace = w.trace) (idle : v.app.pending = none) :
    Proceeds sdk w (v.ioSendSw sw) := .reply sdk [] sw trace idle (by decide)

/-- The buffers a review of `state` shows. -/
def World.shownUi (w : World σ κ) (state : ApprovalState) : Ui :=
  if state = .signTip72Transaction then
    { w.app.ui with strings := formatTip712Hashes sdk w.app.messageSigningContext712 w.app.ui.strings }
  else w.app.ui

theorem Proceeds.display {state : ApprovalState} {q : Request} (trace : v.trace = w.trace)
    (notAddress : state ≠ .verifyAddress) (notVote : state ≠ .witnessVoteTransaction)
    (asked : v.app.requested state = q)
    (shown : ∀ r : Review, r.infos.state = state → r.ui = v.shownUi sdk state →
      r.hash = v.app.transactionContext.hash → r.path = v.app.transactionContext.bip32Path → q.Reviewed sdk r) :
    Proceeds sdk w (uxFlowDisplay sdk state false v) := by
  obtain ⟨infos, prepared, stateEq, warningEq⟩ := prepareTxInfos_ready state false v.app.txContent.contractType
    (v.shownUi sdk state) (fun vote => absurd vote notVote)
  have prepared' := prepared
  simp only [World.shownUi] at prepared'
  simp only [uxFlowDisplay, if_neg notAddress, World.setUi, prepared']
  let r : Review := ⟨infos, v.shownUi sdk state, v.app.txContent, v.app.msg, v.app.transactionContext.hash,
    v.app.transactionContext.bip32Path⟩
  have ready : prepareTxInfos r.infos.state r.infos.dataWarning r.content.contractType r.ui = .ready r.infos := by
    rw [stateEq, warningEq]
    exact prepared
  have logged : .review r :: v.trace = .review r :: w.trace := by rw [trace]
  refine .asks (.review r) [] logged ?_ ⟨ready, shown r stateEq rfl rfl rfl⟩ ?_ (by simp [Unasked])
  · rw [← asked]
    cases state <;> rfl
  · intro waits
    exact absurd (Option.some.inj waits) notAddress

theorem Proceeds.after (first : List Effect) (trace : v.trace = first ++ w.trace) (before : Unasked first)
    (proceeds : Proceeds sdk v w') : Proceeds sdk w w' := by
  cases proceeds with
  | goesOn news trace' idle unasked =>
    exact .goesOn (news ++ first) (by rw [trace', trace, List.append_assoc]) idle (unasked_append before unasked)
  | asks screen older trace' waits shown address unasked =>
    refine .asks screen (older ++ first) ?_ waits shown address (unasked_append before unasked)
    rw [trace', trace, List.cons_append, List.cons_append, List.append_assoc]

theorem keyAddress_of_init {n : Nat} {path : Bip32Path} {context context' : PublicKeyContext} {out out' : Buf n}
    (derived : initPublicKeyContext sdk path context out = some (context', out')) :
    sdk.derivePublicKey path = some (context'.publicKey, context'.chainCode) ∧
      out' = getBase58FromPublicKey sdk context'.publicKey.bytes out := by
  simp only [initPublicKeyContext] at derived
  split at derived
  · simp at derived
  · rename_i publicKey chainCode found
    obtain ⟨rfl, rfl⟩ := Prod.mk.inj (Option.some.inj derived)
    exact ⟨found, rfl⟩

theorem keyAddress_shown {n : Nat} {path : Bip32Path} {context context' : PublicKeyContext} {out out' : Buf n}
    (derived : initPublicKeyContext sdk path context out = some (context', out')) : KeyAddress sdk path out' := by
  obtain ⟨found, rfl⟩ := keyAddress_of_init sdk derived
  exact ⟨_, _, _, found, rfl⟩

theorem personalFinalise_proceeds (formats : sdk.FormatsHex) (idle : w.app.pending = none) : Proceeds sdk w (personalFinalise sdk w) := by
  unfold personalFinalise
  dsimp only
  split
  · exact .error sdk _ rfl idle
  · rename_i context fromAddress derived
    refine .display sdk rfl (by decide) (by decide) rfl fun r state ui hash path => ⟨path, hash, .inr ⟨state, ?_, ?_⟩⟩
    · rw [ui]
      exact keyAddress_shown sdk derived
    · rw [ui]
      exact formats.put_str _ 0 _ (by rw [Buf.size]; decide) (by decide)

theorem personalChunk_proceeds (formats : sdk.FormatsHex) (content : Bytes) (idle : w.app.pending = none) :
    Proceeds sdk w (personalChunk sdk content w) := by
  have unasked : Unasked [.messageBytes content] := by simp [Unasked, Effect.isScreen, Effect.isSecret]
  unfold personalChunk
  split
  · exact .error sdk _ rfl idle
  dsimp only
  split
  · exact .after sdk [.messageBytes content] rfl unasked (personalFinalise_proceeds sdk formats idle)
  · exact .after sdk [.messageBytes content] rfl unasked (.error sdk _ rfl idle)

theorem handleSignPersonalMessage_proceeds (formats : sdk.FormatsHex) (p1 p2 : UInt8) (data : Bytes)
    (idle : w.app.pending = none) :
    Proceeds sdk w (handleSignPersonalMessage sdk p1 p2 data w) := by
  -- what an accepted entry leaves, and what follows
  have entered (w' : World σ κ) (content : Bytes) (idle' : w'.app.pending = none) :
      Proceeds sdk w' (if p2 ≠ 0 then w'.ioSendSw .incorrectP1P2 else personalChunk sdk content w') := by
    split
    · exact .error sdk _ rfl idle'
    · exact personalChunk_proceeds sdk formats content idle'
  unfold handleSignPersonalMessage
  split
  · exact .error sdk _ rfl idle
  by_cases opener : p1 = P1.first ∨ p1 = P1.sign
  · simp only [if_pos opener, personalOpen]
    cases (readBip32Path data w.app.transactionContext.bip32Path).2 with
    | none => exact .error sdk _ rfl idle
    | some n =>
      by_cases short : (data.drop n).length < 4
      · simp only [if_pos short]
        exact .error sdk _ rfl idle
      · simp only [if_neg short]
        exact .after sdk [.messageStart _] rfl (by simp [Unasked, Effect.isScreen, Effect.isSecret]) (entered _ _ idle)
  · simp only [if_neg opener]
    by_cases wrong : p1 ≠ P1.more ∨ !w.app.personalMsgCtx.initialized
    · simp only [if_pos wrong]
      exact .error sdk _ rfl idle
    · simp only [if_neg wrong]
      exact entered w data idle

/-- The hashes of a typed message, as they are formatted. -/
theorem formatTip712Hashes_str (formats : sdk.FormatsHex) (context : MessageSigningContext712) (strings : Buf 296) :
    (formatTip712Hashes sdk context strings).str 0 = sdk.bytesText context.domainHash.bytes ∧
      (formatTip712Hashes sdk context strings).str 70 = sdk.bytesText context.messageHash.bytes := by
  have size (hash : Buf 32) : hash.bytes.length = 32 := hash.size
  have length (hash : Buf 32) : (sdk.bytesText hash.bytes).length = 66 := by
    rw [formats.bytesText_length, size]
  have domain := length context.domainHash
  have message := length context.messageHash
  have formatted : formatTip712Hashes sdk context strings =
      (strings.strcpy 0 (sdk.bytesText context.domainHash.bytes)).strcpy 70
        (sdk.bytesText context.messageHash.bytes) := by
    rw [formatTip712Hashes, formats.bytesToString _ (by rw [size]; decide) (by decide),
      formats.bytesToString _ (by rw [size]; decide) (by decide)]
  rw [formatted]
  constructor
  · have nul := Buf.strcpy_nul strings 0 (sdk.bytesText context.domainHash.bytes) (by omega)
    rw [domain] at nul
    rw [Buf.strcpy, Buf.str_write_behind _ _ (by rw [List.length_append, message]; decide) nul (by decide)]
    exact Buf.str_strcpy _ 0 _ (formats.bytesText_nonzero _) (by omega)
  · exact Buf.str_strcpy _ 70 _ (formats.bytesText_nonzero _) (by omega)

theorem handleSignTIP712Message_proceeds (formats : sdk.FormatsHex) (p1 p2 : UInt8) (data : Bytes)
    (idle : w.app.pending = none) :
    Proceeds sdk w (handleSignTIP712Message sdk p1 p2 data w) := by
  unfold handleSignTIP712Message
  split
  · exact .error sdk _ rfl idle
  split
  · exact .error sdk _ rfl idle
  split
  · exact .error sdk _ rfl idle
  dsimp only
  split
  · exact .error sdk _ rfl idle
  split
  · exact .error sdk _ rfl idle
  split
  · exact .error sdk _ rfl idle
  split
  · exact .error sdk _ rfl idle
  split
  · exact .error sdk _ rfl idle
  · rename_i derived
    refine .display sdk rfl (by decide) (by decide) rfl fun r state ui _ _ => ⟨state, ?_, ?_⟩
    · rw [ui]
      exact keyAddress_shown sdk derived
    · rw [ui]
      exact formatTip712Hashes_str sdk formats _ _

theorem handleSignByHash_proceeds (p1 p2 : UInt8) (data : Bytes) (idle : w.app.pending = none) :
    Proceeds sdk w (handleSignByHash sdk p1 p2 data w) := by
  unfold handleSignByHash
  split
  · exact .error sdk _ rfl idle
  split
  · exact .error sdk _ rfl idle
  dsimp only
  split
  · exact .error sdk _ rfl idle
  split
  · exact .error sdk _ rfl idle
  split
  · exact .error sdk _ rfl idle
  · refine .display sdk rfl (by decide) (by decide) rfl fun r state _ hash path => ⟨path, hash, .inl ?_⟩
    rw [state]
    rfl

theorem handleECDHSecret_proceeds (p1 p2 : UInt8) (data : Bytes) (idle : w.app.pending = none) :
    Proceeds sdk w (handleECDHSecret sdk p1 p2 data w) := by
  unfold handleECDHSecret
  split
  · exact .error sdk _ rfl idle
  dsimp only
  split
  · exact .error sdk _ rfl idle
  split
  · exact .error sdk _ rfl idle
  rename_i whole
  split
  · exact .error sdk _ rfl idle
  · rename_i derived
    refine .display sdk rfl (by decide) (by decide) rfl fun r state ui _ _ => ⟨state, ?_, ?_⟩
    · rw [ui]
      exact keyAddress_shown sdk derived
    · rw [ui, Buf.bytes_ofBytes (by simpa using whole)]
      exact ⟨_, rfl⟩

theorem response_length (context : PublicKeyContext) : context.response.length ≠ 65 := by
  have key := context.publicKey.size
  simp only [PublicKeyContext.response, List.length_append, key]
  simp
  omega

theorem handleGetPublicKey_proceeds (p1 p2 : UInt8) (data : Bytes) (noSwap : w.app.calledFromSwap = false)
    (idle : w.app.pending = none) : Proceeds sdk w (handleGetPublicKey sdk p1 p2 data w) := by
  unfold handleGetPublicKey
  dsimp only
  split
  · exact .error sdk _ rfl idle
  split
  · exact .error sdk _ rfl idle
  split
  · exact .error sdk _ rfl idle
  split
  · exact .error sdk _ rfl idle
  rename_i derived
  split
  · exact .reply sdk _ _ rfl idle (response_length _)
  split
  · rename_i swap
    simp [noSwap] at swap
  · obtain ⟨found, address⟩ := keyAddress_of_init sdk derived
    exact .asks .verifyAddress [] rfl rfl ⟨_, _, _, rfl, found, address⟩ (fun _ => rfl) (by simp [Unasked])

theorem handleGetAppConfiguration_proceeds (version : AppVersion) (idle : w.app.pending = none) :
    Proceeds sdk w (handleGetAppConfiguration version w) :=
  .reply sdk _ _ rfl idle (by simp)

theorem handleSign_proceeds (c : Command) (cla : c.cla = Ins.cla) (ins : c.ins = Ins.sign)
    (noSwap : w.app.calledFromSwap = false) (idle : w.app.pending = none) :
    Proceeds sdk w (handleSign sdk c.p1 c.p2 c.data w) := by
  obtain ⟨news, trace, moved⟩ := handleSign_takes sdk w c cla ins
  generalize handleSign sdk c.p1 c.p2 c.data w = w' at trace moved
  cases signMove_consents (by exact noSwap) (by exact idle) moved with
  | goesOn idle' unasked => exact .goesOn _ trace idle' unasked
  | asks own waits state path hash prepared unasked =>
    rename_i kind r older
    have waits : w'.app.pending = some kind := waits
    have request : w'.request = some (.sign w'.session.path w'.session.hash) := by
      rw [World.request, waits, Option.map_some]
      cases kind with
      | verifyAddress | signPersonalMessage | sharedEcdhSecret | signTip72Transaction =>
        simp [ApprovalState.isTransaction] at own
      | _ => rfl
    have address : w'.ShowsAddress := by
      intro asked
      obtain rfl := Option.some.inj (waits.symm.trans asked)
      simp [ApprovalState.isTransaction] at own
    rw [← state] at prepared own
    exact .asks (.review r) older trace request ⟨prepared, path, hash, .inl own⟩ address unasked

theorem apduDispatcher_proceeds (formats : sdk.FormatsHex) (version : AppVersion) (c : Command)
    (noSwap : w.app.calledFromSwap = false) (idle : w.app.pending = none) : Proceeds sdk w (apduDispatcher sdk version c w) := by
  unfold apduDispatcher
  split
  · exact .error sdk _ rfl idle
  rename_i cla
  rw [not_not] at cla
  dsimp only
  split
  · rename_i swap
    simp [World.forgetContacts, World.setUi, noSwap] at swap
  refine .after sdk (v := w.forgetContacts) [] rfl (by simp [Unasked]) ?_
  unfold dispatchIns
  split
  · exact handleGetPublicKey_proceeds sdk c.p1 c.p2 c.data noSwap idle
  split
  · rename_i ins
    exact handleSign_proceeds sdk c cla ins noSwap idle
  split
  · exact handleSignByHash_proceeds sdk c.p1 c.p2 c.data idle
  split
  · exact handleGetAppConfiguration_proceeds sdk version idle
  split
  · exact handleECDHSecret_proceeds sdk c.p1 c.p2 c.data idle
  split
  · exact handleSignPersonalMessage_proceeds sdk formats c.p1 c.p2 c.data idle
  split
  · exact handleSignTIP712Message_proceeds sdk formats c.p1 c.p2 c.data idle
  · exact .error sdk _ rfl idle

end Handlers

section Answers

variable {σ κ : Type} (sdk : Sdk σ κ) (w : World σ κ)

theorem signAndReply_approved :
    (signAndReply sdk w).trace =
        (Request.sign w.app.transactionContext.bip32Path w.app.transactionContext.hash).approved sdk ++ w.trace ∧
      (signAndReply sdk w).app.pending = w.app.pending := by
  simp only [signAndReply, signTransaction, Request.approved]
  cases sdk.signHash w.app.transactionContext.bip32Path w.app.transactionContext.hash with
  | none => exact ⟨rfl, rfl⟩
  | some signed =>
    obtain ⟨r, s, odd⟩ := signed
    have length : (r.bytes ++ s.bytes ++ [if odd then 1 else 0]).length = 65 := by
      rw [List.length_append, List.length_append, r.size, s.size]
      rfl
    simp only [ioSendResponse_trace, log_trace, log_app, Buf.bytes_ofBytes length]
    exact ⟨rfl, rfl⟩

/-- What is in front of a write stays in front of it. -/
theorem overwrite_take (dst : Bytes) (off : Nat) (src : Bytes) (k : Nat) :
    (overwrite dst off src).take k = overwrite (dst.take k) off src := by
  fun_induction overwrite dst off src generalizing k with
  | case1 => simp [overwrite]
  | case2 => simp
  | case3 d ds s ss ih => cases k <;> simp [overwrite, ih]
  | case4 d ds off ss _ ih =>
    cases k with
    | zero => simp [overwrite]
    | succ k => cases ss <;> simp_all [overwrite]

/-- The formatted signature takes nothing from what the buffer held. -/
theorem formatSignatureOut_take (signature : Bytes) (out out' : Buf 260) :
    (formatSignatureOut signature out).bytes.take 64 = (formatSignatureOut signature out').bytes.take 64 := by
  have cleared (out : Buf 260) : (overwrite out.bytes 0 (List.replicate 64 0)).take 64 = List.replicate 64 0 := by
    rw [overwrite_zero _ _ (by rw [out.size]; decide), List.take_left' (by simp)]
  have sent (out : Buf 260) (a b : Nat) (r s : Bytes) :
      (((out.write 0 (List.replicate 64 0)).write a r).write b s).bytes.take 64 =
        overwrite (overwrite (List.replicate 64 0) a r) b s := by
    simp only [Buf.write, overwrite_take, cleared]
  simp only [formatSignatureOut, sent]

/-- The reply is the formatted signature and the parity behind it. -/
theorem formatSignatureOut_reply (signature : Bytes) (out : Buf 260) (parity : UInt8) :
    ((formatSignatureOut signature out).write 64 [parity]).bytes.take 65 =
      (formatSignatureOut signature (Buf.zero 260)).bytes.take 64 ++ [parity] := by
  have front : ((formatSignatureOut signature out).bytes.take 64 ++ [parity]).length = 65 := by
    rw [List.length_append, List.length_take, Buf.size]
    rfl
  have inside : 64 + [parity].length ≤ 260 := by rw [List.length_singleton]; decide
  rw [Buf.write_bytes _ 64 [parity] inside, List.take_left' front, formatSignatureOut_take signature out (Buf.zero 260)]

theorem confirmReview_approved (state : ApprovalState) :
    (confirmReview sdk state w).trace = (w.app.requested state).approved sdk ++ w.trace ∧
      (confirmReview sdk state w).app.pending = w.app.pending := by
  cases state with
  | verifyAddress => exact ⟨rfl, rfl⟩
  | signPersonalMessage => exact signAndReply_approved sdk w
  | sharedEcdhSecret =>
    simp only [confirmReview, uiCallbackEcdhOk, App.requested, Request.approved]
    cases sdk.ecdh w.app.transactionContext.bip32Path w.app.transactionContext.signature.bytes with
    | none => exact ⟨rfl, rfl⟩
    | some secret => exact ⟨rfl, rfl⟩
  | signTip72Transaction =>
    simp only [confirmReview, uiCallbackSignMessage712Ok, App.requested, Request.approved, typedDigest]
    rcases sdk.signHashDer _ _ with _ | ⟨signature, odd⟩
    · exact ⟨rfl, rfl⟩
    · simp only [ioSendResponse_trace, log_trace, setUi_trace, formatSignatureOut_reply]
      exact ⟨rfl, rfl⟩
  | _ => exact signAndReply_approved sdk w

theorem rejectReview_refused (state : ApprovalState) :
    (rejectReview sdk state w).trace = .reply [] .conditionsOfUseNotSatisfied :: w.trace ∧
      (rejectReview sdk state w).app.pending = w.app.pending := by
  cases state <;> exact ⟨rfl, rfl⟩

/-- What an answer puts out. -/
theorem reviewChoice_answer (state : ApprovalState) (confirm : Bool) :
    (reviewChoice sdk confirm state w).trace =
        (consentRules sdk).answer (w.app.requested state) confirm ++ w.trace ∧
      (reviewChoice sdk confirm state w).app.pending = w.app.pending := by
  cases confirm with
  | true => exact confirmReview_approved sdk w state
  | false => exact rejectReview_refused sdk w state

theorem requested_idle (state : ApprovalState) :
    App.requested { w.app with pending := none } state = w.app.requested state := by cases state <;> rfl

/-- An answer is to the request that was waiting. -/
theorem Consents.answer {answered : List (Request × Bool)} {state : ApprovalState} (waits : w.app.pending = some state)
    (consents : Consents sdk w answered) (confirm : Bool) :
    Consents sdk (reviewChoice sdk confirm state { w with app := { w.app with pending := none } })
        ((w.app.requested state, confirm) :: answered) ∧
      (reviewChoice sdk confirm state { w with app := { w.app with pending := none } }).app.pending = none := by
  obtain ⟨trace, pending⟩ := reviewChoice_answer sdk { w with app := { w.app with pending := none } } state confirm
  rw [requested_idle] at trace
  have request : w.request = some (w.app.requested state) := by rw [World.request, waits, Option.map_some]
  rw [Consents, request] at consents
  refine ⟨?_, pending⟩
  rw [Consents, World.request, pending, Option.map_none, trace]
  exact consents.answers confirm

/-- The app waits for the answer to `q`. -/
def World.Asks (w : World σ κ) (q : Request) : Prop := w.request = some q ∧ w.app.exited = false

variable {w}

/-- What the app waits for is answered. -/
theorem World.Asks.answered {q : Request} (asks : w.Asks q) (version : AppVersion) (confirm : Bool) :
    ∃ w', step sdk version w (.answer confirm) = some w' ∧
      w'.trace = (consentRules sdk).answer q confirm ++ w.trace := by
  obtain ⟨request, running⟩ := asks
  obtain ⟨state, waits, rfl⟩ := Option.map_eq_some_iff.mp request
  refine ⟨reviewChoice sdk confirm state { w with app := { w.app with pending := none } }, ?_, ?_⟩
  · simp [step, running, waits]
  · rw [(reviewChoice_answer sdk _ state confirm).1, requested_idle]

end Answers

section Runs

variable {σ κ : Type} {sdk : Sdk σ κ} {version : AppVersion} {w w' : World σ κ}

/-- The answer an event gives. -/
def Event.answers : Event → Option Bool
  | .answer confirm => some confirm
  | _ => none

/-- An approval never puts out a screen. -/
theorem approved_noScreen (q : Request) : ∀ e ∈ q.approved sdk, e.isScreen = false := by
  cases q with
  | sign path hash =>
    rw [Request.approved]
    split <;> simp [Effect.isScreen]
  | typed path domainHash messageHash =>
    simp only [Request.approved]
    split <;> simp [Effect.isScreen]
  | secret path point =>
    rw [Request.approved]
    split <;> simp [Effect.isScreen]
  | address context => simp [Request.approved, Effect.isScreen]

/-- One event, and the requests it answers. -/
theorem step_consents (formats : sdk.FormatsHex) {answered : List (Request × Bool)} {e : Event}
    (noSwap : w.app.calledFromSwap = false) (consents : Consents sdk w answered) (stepped : step sdk version w e = some w') :
    ∃ newer : List (Request × Bool), newer.map Prod.snd = e.answers.toList ∧ Consents sdk w' (newer ++ answered) ∧
      w'.ShowsAddress := by
  have quiet (idle : w.app.pending = none) (none : e.answers = none) (proceeds : Proceeds sdk w w') :
      ∃ newer : List (Request × Bool), newer.map Prod.snd = e.answers.toList ∧ Consents sdk w' (newer ++ answered) ∧
        w'.ShowsAddress :=
    ⟨[], by rw [none]; rfl, consents.proceeds sdk idle proceeds⟩
  unfold step at stepped
  split at stepped
  · simp at stepped
  split at stepped <;> simp only [Option.some.injEq, reduceCtorEq] at stepped <;> subst stepped
  · rename_i confirm state waits
    obtain ⟨consents, idle⟩ := consents.answer sdk w waits confirm
    exact ⟨[(w.app.requested state, confirm)], rfl, consents, fun asked => by simp [idle] at asked⟩
  · rename_i c idle
    have received : Unasked [.apdu c] := by simp [Unasked, Effect.isScreen, Effect.isSecret]
    refine quiet idle rfl (.after sdk (v := w.receive c) [.apdu c] rfl received ?_)
    exact apduDispatcher_proceeds sdk formats version c noSwap idle
  · rename_i idle
    exact quiet idle rfl (.error sdk _ rfl idle)
  · rename_i setting idle
    exact quiet idle rfl (.goesOn [] rfl idle (by simp [Unasked]))
  · rename_i contacts idle
    exact quiet idle rfl (.goesOn [] rfl idle (by simp [Unasked]))
  · rename_i idle
    exact quiet idle rfl (.goesOn [.exit] rfl idle (by simp [Unasked, Effect.isScreen, Effect.isSecret]))

/-- A run of the app is a run of a device that acts on consent. -/
theorem run_consents (formats : sdk.FormatsHex) {b : Boot} (user : b.calledFromSwap = false) {es : List Event}
    (run : AppRun sdk version anyStep b es w) :
    w.app.calledFromSwap = false ∧ ∃ answered : List (Request × Bool),
      answered.map Prod.snd = (es.filterMap Event.answers).reverse ∧ Consents sdk w answered ∧ w.ShowsAddress := by
  induction run with
  | start => exact ⟨user, [], rfl, .start, fun asked => by simp [boot] at asked⟩
  | @next es w w' e run _ stepped ih =>
    obtain ⟨noSwap, answered, answers, consents, -⟩ := ih
    obtain ⟨-, news, -, moved⟩ := step_moves sdk version w stepped
    obtain ⟨newer, own, consents', address⟩ := step_consents formats noSwap consents stepped
    have called : w'.app.calledFromSwap = w.app.calledFromSwap := move_called moved
    refine ⟨called.trans noSwap, newer ++ answered, ?_, consents', address⟩
    rw [List.map_append, own, answers, List.filterMap_append, List.reverse_append]
    cases e <;> rfl

variable {b : Boot} {es : List Event}

/-- **Started by the user, the app only acts on consent.** Its log is that of a run of the abstract device; the
answers are those of the user, in order. -/
theorem app_consents (formats : sdk.FormatsHex) (user : b.calledFromSwap = false)
    (run : AppRun sdk version anyStep b es w) :
    ∃ answered : List (Request × Bool), answered.map Prod.snd = (es.filterMap Event.answers).reverse ∧
      ConsentRun (consentRules sdk) answered w.request w.trace ∧ w.ShowsAddress :=
  (run_consents formats user run).2

theorem free_unasked {e : Effect} (free : (consentRules sdk).free e) : e.isScreen = false ∧ e.isSecret = false := free

theorem shown_screen {q : Request} {e : Effect} (shows : q.Shown sdk e) : e.isScreen = true ∧ e.isSecret = false := by
  cases e <;> first | exact ⟨rfl, rfl⟩ | exact shows.elim

/-- What is secret in a log was granted. -/
theorem Consents.secrets {answered : List (Request × Bool)} (consents : Consents sdk w answered) :
    w.trace.filter Effect.isSecret = (consentRules sdk).granted Effect.isSecret answered := by
  refine ConsentRun.secrets (fun q e shows => (shown_screen shows).2) (fun e free => (free_unasked free).2) ?_ consents
  intro q e among
  rw [List.mem_singleton.mp among]
  rfl

/-- **Signatures and secrets are those of the requests that were shown and approved, once each and in order**, where
the user started the app: in a swap there is a signature without a screen. -/
theorem secrets_consented (formats : sdk.FormatsHex) (user : b.calledFromSwap = false)
    (run : AppRun sdk version anyStep b es w) :
    ∃ answered : List (Request × Bool), answered.map Prod.snd = (es.filterMap Event.answers).reverse ∧
      List.Forall₂ (fun q screen => q.Shown sdk screen) (w.request.toList ++ answered.map Prod.fst)
        (w.trace.filter Effect.isScreen) ∧
      w.trace.filter Effect.isSecret = answered.flatMap fun (q, confirm) =>
        if confirm then (q.approved sdk).filter Effect.isSecret else [] := by
  obtain ⟨-, answered, answers, consents, -⟩ := run_consents formats user run
  refine ⟨answered, answers, ?_, consents.secrets⟩
  refine ConsentRun.screens (fun q e shows => (shown_screen shows).1) (fun e free => (free_unasked free).1) ?_ consents
  intro q confirm e among
  cases confirm with
  | false =>
    rw [List.mem_singleton.mp among]
    rfl
  | true => exact approved_noScreen q e among

end Runs

/-- A bare hash, approved. -/
def hashSigned : List Event :=
  [command Ins.signTxnHash 0 0 (pathBytes 0 ++ List.replicate 32 7), .answer true]

theorem hashSigned_run : ∃ w, AppRun device deviceVersion anyStep deviceBoot hashSigned w ∧
    (w.trace.filter Effect.isSecret).length = 2 := by
  obtain ⟨w, run, two⟩ := Run.exists_of_exec (step device deviceVersion) anyStep (boot device deviceBoot) hashSigned
    (fun w => (w.trace.filter Effect.isSecret).length = 2) (by decide +kernel)
  exact ⟨w, run, by simpa using two⟩

theorem app_consents_hash : ∃ w, ∃ answered : List (Request × Bool),
    AppRun device deviceVersion anyStep deviceBoot hashSigned w ∧ answered.map Prod.snd = [true] ∧
      ConsentRun (consentRules device) answered w.request w.trace ∧ w.ShowsAddress := by
  obtain ⟨w, run, -⟩ := hashSigned_run
  obtain ⟨answered, answers, consents, address⟩ := app_consents device_formatsHex rfl run
  exact ⟨w, answered, run, answers, consents, address⟩

theorem secrets_consented_hash : ∃ w, ∃ answered : List (Request × Bool),
    AppRun device deviceVersion anyStep deviceBoot hashSigned w ∧ answered.map Prod.snd = [true] ∧
      w.trace.filter Effect.isSecret ≠ [] ∧
      w.trace.filter Effect.isSecret = answered.flatMap fun (q, confirm) =>
        if confirm then (q.approved device).filter Effect.isSecret else [] := by
  obtain ⟨w, run, two⟩ := hashSigned_run
  obtain ⟨answered, answers, -, secrets⟩ := secrets_consented device_formatsHex rfl run
  refine ⟨w, answered, run, answers, fun none => ?_, secrets⟩
  rw [none] at two
  simp at two

end TronLedger
