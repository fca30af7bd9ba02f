import TronLedger.RenderSteps

/-!
# What an APDU of INS_SIGN can do

`SignMove` relates the session before an APDU, its news in the log and the session after:
how the APDU gets to its payload (`SignEntry`), what parsing the payload does (`SignParse`)
and how a completed transaction ends (`SignEnd`).
-/

namespace TronLedger

/-- What metadata can change of `txContent`: names, their lengths and decimals. -/
def MetadataChange (a b : TxContent) : Prop :=
  b = { a with
    tokenNames := b.tokenNames
    tokenNamesLength := b.tokenNamesLength
    decimals := b.decimals }

theorem MetadataChange.refl (a : TxContent) : MetadataChange a a := rfl

theorem MetadataChange.trans {a b c : TxContent} (ab : MetadataChange a b)
    (bc : MetadataChange b c) : MetadataChange a c := by
  unfold MetadataChange at *
  rw [bc, ab]

theorem MetadataChange.contractType {a b : TxContent} (change : MetadataChange a b) :
    b.contractType = a.contractType := by rw [change]

/-- No token of the transaction has more than 18 decimals. -/
def TxContent.DecimalsBounded (content : TxContent) : Prop :=
  content.decimals.first ≤ 18 ∧ content.decimals.second ≤ 18

/-- The name in slot `i` ends in its buffer, and its length is stored beside it. -/
structure TxContent.Measured (content : TxContent) (i : Fin 2) : Prop where
  length : content.tokenNamesLength.get i = UInt8.ofNat (content.tokenName i).length
  short : (content.tokenName i).length ≤ 66

/-- What setting names and decimals does. -/
structure TokenStep (a b : TxContent) : Prop where
  change : MetadataChange a b
  bounded : a.DecimalsBounded → b.DecimalsBounded
  measured : ∀ i, a.Measured i → b.Measured i

theorem TokenStep.refl (a : TxContent) : TokenStep a a := ⟨.refl a, id, fun _ => id⟩

theorem TokenStep.trans {a b c : TxContent} (ab : TokenStep a b) (bc : TokenStep b c) :
    TokenStep a c where
  change := ab.change.trans bc.change
  bounded bounded := bc.bounded (ab.bounded bounded)
  measured i measured := bc.measured i (ab.measured i measured)

/-- The first token of an exchange transaction has a name that no pair of ids has. -/
def TxContent.unpaired (content : TxContent) : Prop :=
  content.contractType = .exchangeTransaction ∧ (content.tokenName 0).length ≠ 1 ∧
    (content.tokenName 0).length ≠ 7

/-- What a metadata APDU does, verified or not. -/
structure MetadataStep (a b : TxContent) : Prop extends TokenStep a b where
  foreign : a.unpaired → b = a

theorem MetadataStep.refl (a : TxContent) : MetadataStep a a := ⟨.refl a, fun _ => rfl⟩

theorem setToken_step (content : TxContent) (i : Fin 2) (label : Bytes) {precision : UInt8}
    (small : precision ≤ 18) : TokenStep content (content.setToken i label precision) := by
  have cut : (((content.tokenNames.get i).strlcpy 0 label 67).str 0).length ≤ 66 :=
    Buf.str_strlcpy_le _ label (by decide)
  refine ⟨rfl, fun ⟨first, second⟩ => ?_, fun j measured => ?_⟩
  · match i with
    | 0 => exact ⟨small, second⟩
    | 1 => exact ⟨first, small⟩
  · by_cases same : j = i
    · subst same
      have name : (content.setToken j label precision).tokenName j =
          ((content.tokenNames.get j).strlcpy 0 label 67).str 0 :=
        congrArg (fun b : Buf 67 => b.str 0) (Pair.get_set _ j _)
      rw [← name] at cut
      refine ⟨?_, cut⟩
      rw [name]
      exact Pair.get_set _ j _
    · have name : (content.setToken i label precision).tokenName j = content.tokenName j :=
        congrArg (fun b : Buf 67 => b.str 0) (Pair.get_set_ne _ same _)
      refine ⟨?_, name ▸ measured.short⟩
      rw [name, ← measured.length]
      exact Pair.get_set_ne _ same _

/-- Types whose transactions take metadata. -/
def ContractType.takesMetadata : ContractType → Bool
  | .transferAsset | .exchangeCreate | .exchangeInject | .exchangeWithdraw | .exchangeTransaction =>
    true
  | _ => false

section

variable {σ κ : Type} (sdk : Sdk σ κ)

theorem parseTokenName_step (tokenId : Fin 2) (data : Bytes) {content : TxContent}
    (single : content.contractType ≠ .exchangeTransaction) :
    MetadataStep content (parseTokenName sdk tokenId data content).2 := by
  refine ⟨?_, fun unpaired => absurd unpaired.1 single⟩
  unfold parseTokenName
  split
  · exact .refl _
  · dsimp only
    split_ifs with _ large
    · exact .refl _
    · exact .refl _
    · refine setToken_step _ _ _ ?_
      rw [UInt32.not_lt, UInt32.le_iff_toNat_le] at large
      rw [UInt8.le_iff_toNat_le, UInt32.toNat_toUInt8]
      have eighteen : (18 : UInt32).toNat = 18 ∧ (18 : UInt8).toNat = 18 := by decide
      omega

theorem setTokenInfo_step {content content' : TxContent} {i : Fin 2} {name id : Bytes}
    {precision : Int32} {ok : Bool}
    (h : setTokenInfo content i name id precision = (ok, content')) :
    TokenStep content content' := by
  unfold setTokenInfo at h
  split_ifs at h with large
  · obtain ⟨rfl, rfl⟩ := Prod.mk.inj h
    exact .refl _
  · obtain ⟨rfl, rfl⟩ := Prod.mk.inj h
    refine setToken_step _ _ _ ?_
    rw [not_or, Int32.lt_iff_toInt_lt, Int32.lt_iff_toInt_lt] at large
    have zero : (0 : Int32).toInt = 0 ∧ (18 : Int32).toInt = 18 ∧ (18 : UInt8).toNat = 18 := by decide
    have value : precision.toInt = if 2 * precision.toUInt32.toNat < 2 ^ 32 then
        (precision.toUInt32.toNat : Int) else (precision.toUInt32.toNat : Int) - 2 ^ 32 :=
      BitVec.toInt_eq_toNat_cond precision.toBitVec
    have below := precision.toUInt32.toNat_lt
    rw [UInt8.le_iff_toNat_le, UInt32.toNat_toUInt8]
    split at value <;> omega

theorem parseExchange_step (data : Bytes) (content : TxContent) :
    MetadataStep content (parseExchange sdk data content).2 := by
  unfold parseExchange
  split
  · exact .refl _
  dsimp only
  split
  · exact .refl _
  split
  · exact .refl _
  rename_i first
  split
  · exact .refl _
  rename_i second
  split
  · exact .refl _
  split
  · exact .refl _
  · rename_i firstToken secondToken paired
    refine ⟨?_, fun ⟨_, one, seven⟩ => ?_⟩
    · split
      · rename_i stored
        exact setTokenInfo_step stored
      · rename_i stored
        exact (setTokenInfo_step stored).trans (setTokenInfo_step rfl)
    · -- the first name is one of the ids, and these have one or seven characters
      split_ifs at paired with same same
      · rw [same] at one seven
        exact absurd ⟨one, seven⟩ first
      · rw [same] at one seven
        exact absurd ⟨one, seven⟩ second

/-- A metadata APDU is verified and leaves the parsing to be run again. -/
def metadataAccepted (content : TxContent) (c : Command) : Bool :=
  match content.contractType with
  | .transferAsset | .exchangeCreate =>
    ¬1 < c.p1 &&& 0x07 ∧ c.p1 &&& 0x08 ≠ 0 ∧
      (parseTokenName sdk (if c.p1 &&& 0x07 = 0 then 0 else 1) c.data content).1 = true
  | .exchangeInject | .exchangeWithdraw | .exchangeTransaction =>
    ¬0 < c.p1 &&& 0x07 ∧ c.p1 &&& 0x08 ≠ 0 ∧ (parseExchange sdk c.data content).1 = true
  | _ => false

/-- What a verified metadata APDU leaves in `txContent`. -/
def metadataContent (content : TxContent) (c : Command) : TxContent :=
  match content.contractType with
  | .transferAsset | .exchangeCreate =>
    (parseTokenName sdk (if c.p1 &&& 0x07 = 0 then 0 else 1) c.data content).2
  | _ => (parseExchange sdk c.data content).2

theorem metadataContent_step (content : TxContent) (c : Command) :
    MetadataStep content (metadataContent sdk content c) := by
  unfold metadataContent
  split
  · rename_i type
    exact parseTokenName_step sdk _ _ (by simp [type])
  · rename_i type
    exact parseTokenName_step sdk _ _ (by simp [type])
  · exact parseExchange_step sdk _ _

/-- The APDU opens a session. -/
def Command.isOpener (c : Command) : Bool := c.p1 = P1.first ∨ c.p1 = P1.sign

/-- An APDU of INS_SIGN gets as far as the check of the context. -/
def Session.entersSign (s : Session σ κ) (c : Command) : Bool :=
  c.p2 = 0 ∧
    if c.isOpener then (readBip32Path c.data s.path).2.isSome
    else if c.p1 &&& 0xF0 = P1.trc10Name then metadataAccepted sdk s.txContent c
    else c.p1 = P1.more ∨ c.p1 = P1.last

/-- How an APDU of INS_SIGN gets to its payload: the news, the session then, the payload. -/
inductive SignEntry (c : Command) (s : Session σ κ) : List Effect → Session σ κ → Bytes → Prop
  | opens (n : Nat) (opener : c.isOpener = true) (read : (readBip32Path c.data s.path).2 = some n) :
      SignEntry c s [.initTx]
        { s with path := s.pathWritten c, txContext := ⟨sdk.sha256.init, true⟩, txContent := .empty }
        (c.data.drop n)
  | metadata (name : c.p1 &&& 0xF0 = P1.trc10Name) (opener : c.isOpener = false)
      (type : s.txContent.contractType.takesMetadata = true) :
      SignEntry c s [] { s with txContent := metadataContent sdk s.txContent c } []
  | continues (p1 : c.p1 = P1.more ∨ c.p1 = P1.last) : SignEntry c s [] s c.data

/-- The session once a payload is hashed. -/
def Session.hashed (s : Session σ κ) (payload : Bytes) : Session σ κ :=
  { s with txContext := { s.txContext with sha2 := sdk.sha256.update s.txContext.sha2 payload } }

/-- The session once the digest is taken and the rendering has begun. -/
def Session.finished (s : Session σ κ) : Session σ κ :=
  { s with
    hash := (sdk.sha256.last s.txContext.sha2).1
    txContext := { s.txContext with sha2 := (sdk.sha256.last s.txContext.sha2).2 }
    txContent := renderedContent s.txContent }

/-- The session `initTx` leaves. -/
def Session.reinitialised (s : Session σ κ) : Session σ κ :=
  { s with txContext := ⟨sdk.sha256.init, true⟩, txContent := .empty }

def Session.renderContext (s : Session σ κ) (contacts : List Contact) (residue : Nat → Buf 35) :
    RenderContext σ κ where
  sdk := sdk
  settings := s.settings
  contacts := contacts
  calledFromSwap := s.calledFromSwap
  swapValidated := s.swapValidated
  msg := s.msg
  hash := (sdk.sha256.last s.txContext.sha2).1
  residue := residue

/-- The rendering of the transaction of `s` ends in a verdict. -/
def Session.Renders (s : Session σ κ) (verdict : Verdict) (ui : Ui) : Prop :=
  ∃ contacts residue before,
    (renderTransaction (s.renderContext sdk contacts residue) s.txContent).verdict before =
      (verdict, ui)

/-- The transaction of `s` makes the rendering throw. -/
def Session.throws (s : Session σ κ) : Bool :=
  renderThrows s.settings s.calledFromSwap s.txContent

/-- How a completed transaction ends. -/
inductive SignEnd (s : Session σ κ) : List Effect → Session σ κ → Prop
  | refused (sw : Sw) (bad : sw ≠ .ok) (normal : s.throws = false) :
      SignEnd s [.reply [] sw] ((s.finished sdk).terminated sdk)
  | thrown (e : Sw) (bad : e ≠ .ok) (throws : s.throws = true) :
      SignEnd s [.reply [] e] (s.finished sdk)
  | reviewing (kind : ApprovalState) (r : Review) (noSwap : s.calledFromSwap = false)
      (own : kind.isTransaction = true) (normal : s.throws = false)
      (printable : neverShown s.txContent s.msg = false)
      (typed : s.txContent.contractType ≠ .invalidContract)
      (rendered : Session.Renders sdk s (.display kind) r.ui)
      (shown : ReviewOf (s.finished sdk) kind (0 < s.txContent.dataBytes) r) :
      SignEnd s [.review r] { s.finished sdk with pending := some kind }
  | swapSigned (ui : Ui) (data : Bytes) (sound : Session.Renders sdk s .swapSign ui) :
      SignEnd s [.reply data .ok, .signature s.path (s.finished sdk).hash,
        .swapAccepted (renderedContent s.txContent) ui] ((s.finished sdk).terminated sdk)
  | swapFailed (ui : Ui) (sound : Session.Renders sdk s .swapSign ui) :
      SignEnd s [.reply [] .securityStatusNotSatisfied,
        .swapAccepted (renderedContent s.txContent) ui] ((s.finished sdk).terminated sdk)

/-- The session `processTx` leaves. -/
def Session.parsed (s : Session σ κ) (payload : Bytes) : Session σ κ :=
  { s with
    txContent := (processTx s.settings.dataAllowed payload s.txContent s.msg).2.1
    msg := (processTx s.settings.dataAllowed payload s.txContent s.msg).2.2 }

def Session.parseStatus (s : Session σ κ) (payload : Bytes) : ParserStatus :=
  (processTx s.settings.dataAllowed payload s.txContent s.msg).1

/-- Last data, which does not return after parsing. -/
def Command.isLast (c : Command) : Bool := c.p1 = P1.last ∨ c.p1 = P1.sign

/-- What parsing a hashed payload does to the session `s`. -/
inductive SignParse (c : Command) (payload : Bytes) (s : Session σ κ) :
    List Effect → Session σ κ → Prop
  | acknowledged (status : s.parseStatus payload = .processing) (notLast : c.isLast = false) :
      SignParse c payload s [.reply [] .ok, .processTx payload .processing] (s.parsed payload)
  | faulted (sw : Sw) (bad : sw ≠ .ok)
      (status : s.parseStatus payload = .fault ∨ s.parseStatus payload = .missingSettingDataAllowed) :
      SignParse c payload s [.reply [] sw, .initTx, .processTx payload (s.parseStatus payload)]
        ((s.parsed payload).reinitialised sdk)
  | finalises (status : (s.parseStatus payload = .processing ∧ c.isLast = true) ∨
        s.parseStatus payload = .finished)
      {news : List Effect} {s' : Session σ κ} (ends : SignEnd sdk (s.parsed payload) news s') :
      SignParse c payload s (news ++ [.processTx payload (s.parseStatus payload)]) s'

/-- What an entered APDU of INS_SIGN does to the session `s` it prepared. -/
inductive SignChunk (c : Command) (payload : Bytes) (s : Session σ κ) :
    List Effect → Session σ κ → Prop
  | closed (notOpen : s.txContext.initialized = false) :
      SignChunk c payload s [.reply [] .incorrectP1P2] s
  | exits (isOpen : s.txContext.initialized = true) (swap : s.calledFromSwap = true)
      (ready : s.swapResponseReady = true) :
      SignChunk c payload s [.exit, .hashTx payload] { s.hashed sdk payload with exited := true }
  | parses (isOpen : s.txContext.initialized = true) (noSwap : s.calledFromSwap = false)
      {news : List Effect} {s' : Session σ κ}
      (parse : SignParse sdk c payload (s.hashed sdk payload) news s') :
      SignChunk c payload s (news ++ [.hashTx payload]) s'
  | swapParses (isOpen : s.txContext.initialized = true) (swap : s.calledFromSwap = true)
      (notReady : s.swapResponseReady = false) {news : List Effect} {s' : Session σ κ}
      (parse : SignParse sdk c payload { s.hashed sdk payload with swapResponseReady := true }
        news s') :
      SignChunk c payload s (news ++ [.swapResponseReady, .hashTx payload]) s'

/-- What an APDU of INS_SIGN can do. -/
inductive SignMove (c : Command) (s : Session σ κ) : List Effect → Session σ κ → Prop
  | early (sw : Sw) (content : TxContent) (answered : s.entersSign sdk c = false)
      (change : MetadataStep s.txContent content)
      (fixed : s.txContent.contractType.takesMetadata = false →
        content = s.txContent ∧ sw ≠ .ok)
      (named : sw = .ok → c.p1 &&& 0xF0 = P1.trc10Name) :
      SignMove c s [.reply [] sw] { s with path := s.pathWritten c, txContent := content }
  | enters (entered : s.entersSign sdk c = true) {first news : List Effect} {v s' : Session σ κ}
      {payload : Bytes} (entry : SignEntry sdk c s first v payload)
      (chunk : SignChunk sdk c payload v news s') : SignMove c s (news ++ first) s'

variable (w : World σ κ)

/-- The verdict of a rendering says the same about the session. -/
theorem Renders.sound {s : Session σ κ} {verdict : Verdict} {ui : Ui}
    (h : s.Renders sdk verdict ui) :
    ∃ contacts residue, Verdict.Sound (s.renderContext sdk contacts residue) s.txContent (s.throws) verdict ui := by
  obtain ⟨contacts, residue, before, rendered⟩ := h
  refine ⟨contacts, residue, ?_⟩
  have sound := renderTransaction_sound (s.renderContext sdk contacts residue) s.txContent before
  rw [rendered] at sound
  exact sound

theorem renderedContent_dataBytes (content : TxContent) :
    (renderedContent content).dataBytes = content.dataBytes := by
  unfold renderedContent
  split <;> rfl

theorem renderedContent_type (content : TxContent) :
    (renderedContent content).contractType = content.contractType := by
  unfold renderedContent
  split <;> rfl

theorem signFinalise_takes : w.Takes (signFinalise sdk w) (SignEnd sdk w.session) := by
  unfold signFinalise
  dsimp only
  have sound := renderTransaction_sound (renderContext sdk (w.finishHash sdk))
    (w.finishHash sdk).app.txContent (w.finishHash sdk).app.ui
  generalize rendered : (renderTransaction (renderContext sdk (w.finishHash sdk))
    (w.finishHash sdk).app.txContent).verdict (w.finishHash sdk).app.ui = ended at sound ⊢
  obtain ⟨verdict, ui⟩ := ended
  cases verdict with
  | refuse sw => exact .intro [_] rfl rfl (.refused sw sound.1 sound.2)
  | thrown e => exact .intro [_] rfl rfl (.thrown e sound.1 sound.2)
  | display state =>
    obtain ⟨normal, printable, noSwap, own, votes⟩ := sound
    have notVerify : state ≠ .verifyAddress := by rintro rfl; simp [ApprovalState.isTransaction] at own
    obtain ⟨r, shown, trace, session, sameUi⟩ := uxFlowDisplay_spec sdk
      (((w.finishHash sdk).setUi ui).setContent (renderedContent (w.finishHash sdk).app.txContent))
      state _ notVerify votes
    refine .intro [_] trace session (.reviewing state r noSwap own normal printable ?_ ?_ ?_)
    · intro type
      obtain ⟨sw, refused⟩ := renderTransaction_invalid (renderContext sdk (w.finishHash sdk))
        (w.finishHash sdk).app.txContent type (w.finishHash sdk).app.ui
      rw [rendered] at refused
      simp at refused
    · have notTyped : state ≠ .signTip72Transaction := by
        rintro rfl
        simp [ApprovalState.isTransaction] at own
      rw [sameUi notTyped]
      exact ⟨_, _, _, rendered⟩
    · rw [← renderedContent_dataBytes]
      exact shown
  | swapSign =>
    have renders : w.session.Renders sdk .swapSign ui := ⟨_, _, _, rendered⟩
    have signs := uiCallbackTxOk_takes sdk
      ((((w.finishHash sdk).setUi ui).setContent
        (renderedContent (w.finishHash sdk).app.txContent)).log
          (.swapAccepted (renderedContent (w.finishHash sdk).app.txContent) ui))
    refine (signs.after [_] rfl).mono ?_
    rintro news s' ⟨rest, rfl, rfl, ⟨data, rfl⟩ | rfl⟩
    · exact .swapSigned ui data renders
    · exact .swapFailed ui renders

theorem processTx_trace (payload : Bytes) : (w.processTx payload).2.trace =
    .processTx payload (w.session.parseStatus payload) :: w.trace := rfl

theorem processTx_eq (payload : Bytes) :
    w.processTx payload = (w.session.parseStatus payload, (w.processTx payload).2) := rfl

theorem signParse_takes (c : Command) (payload : Bytes) :
    w.Takes (signParse sdk c.p1 payload w) (SignParse sdk c payload w.session) := by
  have finalised (status : (w.session.parseStatus payload = .processing ∧ c.isLast = true) ∨
      w.session.parseStatus payload = .finished) :
      w.Takes (signFinalise sdk (w.processTx payload).2) (SignParse sdk c payload w.session) := by
    refine ((signFinalise_takes sdk _).after [_] (processTx_trace w payload)).mono ?_
    rintro news s' ⟨rest, rfl, ends⟩
    exact .finalises status ends
  unfold signParse
  rw [processTx_eq]
  cases status : w.session.parseStatus payload with
  | processing =>
    dsimp only
    split
    · rename_i last
      exact finalised (.inl ⟨status, by simpa [Command.isLast] using last⟩)
    · rename_i notLast
      refine .intro [_, _] ?_ rfl (.acknowledged status (by simpa [Command.isLast] using notLast))
      rw [ioSendSw_trace, processTx_trace, status]
      rfl
  | finished => exact finalised (.inr status)
  | fault =>
    refine .intro [_, _, _] ?_ rfl (.faulted .incorrectData (by decide) (.inl status))
    rw [ioSendSw_trace, initTx_trace, processTx_trace]
    rfl
  | missingSettingDataAllowed =>
    have bad : (if (w.processTx payload).2.app.calledFromSwap then Sw.swapCheckingFail
        else .missingSettingDataAllowed) ≠ .ok := by split <;> decide
    refine .intro [.reply [] _, _, _] ?_ rfl (.faulted _ bad (.inr status))
    rw [ioSendSw_trace, initTx_trace, processTx_trace]
    rfl

theorem signChunk_takes (c : Command) (payload : Bytes) (isOpen : w.app.txContext.initialized = true) :
    w.Takes (signChunk sdk c.p1 payload w) (SignChunk sdk c payload w.session) := by
  unfold signChunk
  dsimp only
  split
  · rename_i swap
    split
    · rename_i ready
      exact .intro [_, _] rfl rfl (.exits isOpen swap ready)
    · rename_i notReady
      refine ((signParse_takes sdk _ c payload).after [_, _] rfl).mono ?_
      rintro news s' ⟨rest, rfl, parse⟩
      exact .swapParses isOpen swap (Bool.eq_false_iff.mpr notReady) parse
  · rename_i noSwap
    refine ((signParse_takes sdk _ c payload).after [_] rfl).mono ?_
    rintro news s' ⟨rest, rfl, parse⟩
    exact .parses isOpen (Bool.eq_false_iff.mpr noSwap) parse

/-- What `signMetadata` can do: an answer, or `txContent` for another rendering. -/
theorem signMetadata_cases (c : Command) :
    (metadataAccepted sdk w.session.txContent c = false ∧ ∃ content sw,
      signMetadata sdk c.p1 c.data w = .error ((w.setContent content).ioSendSw sw) ∧
      MetadataStep w.session.txContent content ∧
      (w.session.txContent.contractType.takesMetadata = false →
        content = w.session.txContent ∧ sw ≠ .ok)) ∨
    (metadataAccepted sdk w.session.txContent c = true ∧
      signMetadata sdk c.p1 c.data w =
        .ok (w.setContent (metadataContent sdk w.session.txContent c), []) ∧
      w.session.txContent.contractType.takesMetadata = true) := by
  have same : w.session.txContent = w.app.txContent := rfl
  rw [same]
  unfold signMetadata metadataAccepted metadataContent
  -- the matches on the contract type agree
  split <;> rename_i type <;> simp only [type]
  case h_1 | h_2 =>
    by_cases wide : 1 < c.p1 &&& 0x07
    · rw [if_pos wide]
      exact .inl ⟨by simp [wide], _, _, rfl, .refl _, by simp [ContractType.takesMetadata]⟩
    rw [if_neg wide]
    have single : w.app.txContent.contractType ≠ .exchangeTransaction := by simp [type]
    have change := parseTokenName_step sdk (if c.p1 &&& 0x07 = 0 then 0 else 1) c.data single
    generalize parseTokenName sdk (if c.p1 &&& 0x07 = 0 then 0 else 1) c.data
      w.app.txContent = parsed at change ⊢
    obtain ⟨ok, content⟩ := parsed
    cases ok with
    | false => exact .inl ⟨by simp, content, _, rfl, change, by simp [ContractType.takesMetadata]⟩
    | true =>
      by_cases middle : c.p1 &&& 0x08 = 0
      · simp only [if_pos middle]
        exact .inl ⟨by simp [middle], content, _, rfl, change, by simp [ContractType.takesMetadata]⟩
      · simp only [if_neg middle]
        exact .inr ⟨by simp [wide, middle], trivial, rfl⟩
  case h_3 | h_4 | h_5 =>
    by_cases wide : 0 < c.p1 &&& 0x07
    · rw [if_pos wide]
      exact .inl ⟨by simp [wide], _, _, rfl, .refl _, by simp [ContractType.takesMetadata]⟩
    rw [if_neg wide]
    by_cases middle : c.p1 &&& 0x08 = 0
    · rw [if_pos middle]
      exact .inl ⟨by simp [middle], _, _, rfl, .refl _, by simp [ContractType.takesMetadata]⟩
    rw [if_neg middle]
    have change := parseExchange_step sdk c.data w.app.txContent
    generalize parseExchange sdk c.data w.app.txContent = parsed at change ⊢
    obtain ⟨ok, content⟩ := parsed
    cases ok with
    | false => exact .inl ⟨by simp, content, _, rfl, change, by simp [ContractType.takesMetadata]⟩
    | true => exact .inr ⟨by simp [wide, middle], rfl, rfl⟩
  · exact .inl ⟨trivial, _, _, rfl, .refl _, fun _ => ⟨rfl, by decide⟩⟩

theorem handleSign_takes (c : Command) (cla : c.cla = Ins.cla) (ins : c.ins = Ins.sign) :
    w.Takes (handleSign sdk c.p1 c.p2 c.data w) (SignMove sdk c w.session) := by
  have writes : w.session.writesPath c = decide (c.p2 = 0 ∧ (c.p1 = P1.first ∨ c.p1 = P1.sign)) := by
    simp [Session.writesPath, cla, ins, Ins.signTxnHash, Ins.sign, Ins.signPersonalMessage,
      Ins.getEcdhSecret]
  have unchanged {sw : Sw} (bad : sw ≠ .ok) (keeps : w.session.writesPath c = false)
      (answered : w.session.entersSign sdk c = false) :
      w.Takes (w.ioSendSw sw) (SignMove sdk c w.session) := by
    refine .intro [_] rfl ?_ (.early sw w.session.txContent answered (.refl _)
      (fun _ => ⟨rfl, bad⟩) fun same => absurd same bad)
    rw [pathWritten_of_not keeps]
    rfl
  have chunk {v : World σ κ} {payload : Bytes} (first : List Effect)
      (entered : w.session.entersSign sdk c = true) (trace : v.trace = first ++ w.trace)
      (entry : SignEntry sdk c w.session first v.session payload) :
      w.Takes (if !v.app.txContext.initialized then v.ioSendSw .incorrectP1P2
        else signChunk sdk c.p1 payload v) (SignMove sdk c w.session) := by
    have takes : v.Takes (if !v.app.txContext.initialized then v.ioSendSw .incorrectP1P2
        else signChunk sdk c.p1 payload v) (SignChunk sdk c payload v.session) := by
      split
      · rename_i notOpen
        exact .intro [_] rfl rfl (.closed (by simpa [World.session] using notOpen))
      · rename_i isOpen
        exact signChunk_takes sdk v c payload (by simpa using isOpen)
    refine (takes.after first trace).mono ?_
    rintro news s' ⟨rest, rfl, moved⟩
    exact .enters entered entry moved
  unfold handleSign
  split
  · rename_i bad
    exact unchanged (by decide) (by simp [writes, bad]) (by simp [Session.entersSign, bad])
  rename_i p2
  rw [not_not] at p2
  unfold signEntry
  by_cases opener : c.p1 = P1.first ∨ c.p1 = P1.sign
  · have path : w.session.pathWritten c = (readBip32Path c.data w.session.path).1 :=
      pathWritten_of (by rw [writes, decide_eq_true_iff]; exact ⟨p2, opener⟩)
    have isOpener : c.isOpener = true := by simpa [Command.isOpener] using opener
    simp only [if_pos opener, signOpen]
    cases read : (readBip32Path c.data w.app.transactionContext.bip32Path).2 with
    | none =>
      have answered : w.session.entersSign sdk c = false := by
        have read' : (readBip32Path c.data w.session.path).2 = none := read
        simp [Session.entersSign, isOpener, read']
      refine .intro [_] rfl ?_ (.early .incorrectBip32Path w.session.txContent answered (.refl _)
        (fun _ => ⟨rfl, by decide⟩) fun same => absurd same (by decide))
      rw [path]
      rfl
    | some n =>
      have read' : (readBip32Path c.data w.session.path).2 = some n := read
      refine chunk [.initTx] (by simp [Session.entersSign, p2, isOpener, read']) rfl ?_
      have entry : SignEntry sdk c w.session _ _ _ := .opens n isOpener read'
      rw [path] at entry
      exact entry
  have notOpener : c.isOpener = false := by simpa [Command.isOpener] using opener
  have keeps : w.session.writesPath c = false := by
    rw [writes, decide_eq_false_iff_not]
    tauto
  simp only [if_neg opener]
  by_cases name : c.p1 &&& 0xF0 = P1.trc10Name
  · simp only [if_pos name]
    rcases signMetadata_cases sdk w c with
      ⟨answered, content, sw, same, change, fixed⟩ | ⟨accepted, same, type⟩
    · rw [same]
      refine .intro [_] rfl ?_ (.early sw content ?_ change fixed fun _ => name)
      · rw [pathWritten_of_not keeps]
        rfl
      · simpa [Session.entersSign, notOpener, name] using fun _ => answered
    · rw [same]
      refine chunk [] ?_ rfl (.metadata name notOpener type)
      simpa [Session.entersSign, p2, notOpener, name] using accepted
  · simp only [if_neg name]
    by_cases other : c.p1 ≠ P1.more ∧ c.p1 ≠ P1.last
    · simp only [if_pos other]
      refine unchanged (by decide) keeps ?_
      simp [Session.entersSign, notOpener, name, other]
    · simp only [if_neg other]
      have continues : c.p1 = P1.more ∨ c.p1 = P1.last := by tauto
      exact chunk [] (by simp [Session.entersSign, p2, notOpener, name, continues]) rfl
        (.continues continues)

end

end TronLedger
