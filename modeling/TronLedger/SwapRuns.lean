import TronLedger.SwapPayment
import TronLedger.SwapReport
import TronLedger.DataGate

/-!
# What a swap can sign

In a swap nothing is shown, and at most one transaction is signed: a payment with the validated texts,
without custom data and with a limited fee. The text of the destination is the one in `toAddress`,
where the text of a longer address is not written and that of a shorter one not ended.

* `destinationFits` is the condition on the steps, `swap_signs_validated` the theorem.
-/

namespace TronLedger

open Nanopb

section Steps

variable {σ κ : Type}

/-- `w'` follows `w`, and what passed the comparison on the way meets `holds`. -/
def World.Accepts (w w' : World σ κ) (holds : TxContent → Ui → Prop) : Prop :=
  ∃ news, w'.trace = news ++ w.trace ∧ ∀ content ui, .swapAccepted content ui ∈ news → holds content ui

theorem World.Accepts.quiet {w w' : World σ κ} {holds : TxContent → Ui → Prop} (news : List Effect)
    (trace : w'.trace = news ++ w.trace) (none : ∀ content ui, .swapAccepted content ui ∉ news) : w.Accepts w' holds :=
  ⟨news, trace, fun content ui among => absurd among (none content ui)⟩

theorem World.Accepts.after {w v w' : World σ κ} {holds : TxContent → Ui → Prop} (accepts : v.Accepts w' holds)
    (first : List Effect) (trace : v.trace = first ++ w.trace) (none : ∀ content ui, .swapAccepted content ui ∉ first) :
    w.Accepts w' holds := by
  obtain ⟨news, trace', met⟩ := accepts
  refine ⟨news ++ first, by rw [trace', trace, List.append_assoc], fun content ui among => met content ui ?_⟩
  exact (List.mem_append.mp among).resolve_right (none content ui)

variable (sdk : Sdk σ κ) (w : World σ κ)

/-- The text that is compared is written over what `toAddress` held. -/
def WrittenOver (toAddress : Buf 35) (content : TxContent) (ui : Ui) : Prop :=
  ui.toAddress = getBase58FromAddress sdk content.destination toAddress 0

theorem renderedContent_destination (content : TxContent) :
    (renderedContent content).destination = content.destination := by
  unfold renderedContent
  split <;> rfl

theorem renderSender_toAddress {ctx : RenderContext σ κ} {content : TxContent} (ui : Ui) :
    (renderSender ctx content ui).toAddress = ui.toAddress := by
  unfold renderSender
  split <;> rfl

theorem signFinalise_accepts : w.Accepts (signFinalise sdk w) (WrittenOver sdk w.app.ui.toAddress) := by
  unfold signFinalise
  dsimp only
  have sound := renderTransaction_sound (renderContext sdk (w.finishHash sdk)) (w.finishHash sdk).app.txContent
    (w.finishHash sdk).app.ui
  generalize rendered : (renderTransaction (renderContext sdk (w.finishHash sdk))
    (w.finishHash sdk).app.txContent).verdict (w.finishHash sdk).app.ui = ended at sound ⊢
  obtain ⟨verdict, ui⟩ := ended
  cases verdict with
  | refuse sw => exact .quiet [_] rfl (by simp)
  | thrown e => exact .quiet [_] rfl (by simp)
  | display state =>
    obtain ⟨-, -, -, own, votes⟩ := sound
    have notVerify : state ≠ .verifyAddress := by rintro rfl; simp [ApprovalState.isTransaction] at own
    obtain ⟨r, -, trace, -⟩ := uxFlowDisplay_spec sdk
      (((w.finishHash sdk).setUi ui).setContent (renderedContent (w.finishHash sdk).app.txContent))
      state (0 < (renderedContent (w.finishHash sdk).app.txContent).dataBytes) notVerify votes
    exact .quiet [_] trace (by simp)
  | swapSign =>
    have shows := (renderTransaction_compared rendered).2
    have written : WrittenOver sdk w.app.ui.toAddress (renderedContent (w.finishHash sdk).app.txContent) ui := by
      have over_sender := shows.toAddress rfl
      rw [renderSender_toAddress] at over_sender
      rw [WrittenOver, renderedContent_destination]
      exact over_sender
    have only {news : List Effect} (others : ∀ content ui, .swapAccepted content ui ∉ news) :
        ∀ content ui', .swapAccepted content ui' ∈ news ++
          [.swapAccepted (renderedContent (w.finishHash sdk).app.txContent) ui] →
            WrittenOver sdk w.app.ui.toAddress content ui' := by
      intro content ui' among
      have own := (List.mem_append.mp among).resolve_left (others content ui')
      obtain ⟨rfl, rfl⟩ := Effect.swapAccepted.inj (List.mem_singleton.mp own)
      exact written
    obtain ⟨news, trace, -, ⟨data, rfl⟩ | rfl⟩ := uiCallbackTxOk_takes sdk
      ((((w.finishHash sdk).setUi ui).setContent
        (renderedContent (w.finishHash sdk).app.txContent)).log
          (.swapAccepted (renderedContent (w.finishHash sdk).app.txContent) ui))
    · exact ⟨[_, _, _], trace, @only [_, _] (by simp)⟩
    · exact ⟨[_, _], trace, @only [_] (by simp)⟩

theorem handleSign_accepts (c : Command) :
    w.Accepts (handleSign sdk c.p1 c.p2 c.data w) (WrittenOver sdk w.app.ui.toAddress) := by
  have quiet {v : World σ κ} (before : Unrendered w v) :
      ∃ first, v.trace = first ++ w.trace ∧ ∀ content ui, .swapAccepted content ui ∉ first := by
    obtain ⟨first, trace, plain⟩ := before.news
    refine ⟨first, trace, fun content ui among => ?_⟩
    simpa [Effect.isPlain] using plain _ among
  refine handleSign_rule (P := fun v => w.Accepts v _) sdk (fun v before => ?_) (fun v before => ?_) c
  · obtain ⟨first, trace, none⟩ := quiet before
    exact .quiet first trace none
  · obtain ⟨first, trace, none⟩ := quiet before
    obtain ⟨field, ui⟩ := before.ui
    have same : v.app.ui.toAddress = w.app.ui.toAddress := by rw [ui]
    rw [← same]
    exact (signFinalise_accepts sdk v).after first trace none

/-- **What passes the comparison has the text of its destination over what `toAddress` held.** -/
theorem step_accepts {version : AppVersion} {w' : World σ κ} {c : Command} (own : c.isSign = true)
    (stepped : step sdk version w (.apdu c) = some w') : w.Accepts w' (WrittenOver sdk w.app.ui.toAddress) := by
  rw [step_handleSign sdk w own stepped]
  exact (handleSign_accepts sdk (w.receive c).forgetContacts c).after [.apdu c] rfl (by simp)

end Steps

section Rules

variable {σ κ : Type} {sdk : Sdk σ κ}

/-- The counter remembers the custom data of the session, and the fee limit is that of the session. -/
structure SwapLive (settings : Settings) (context : TxContext σ) (content : TxContent) (msg : Msg)
    (log : List Effect) : Prop extends FeeLive settings context content msg log where
  data : customData (sessionRecords log) ≠ [] → content.dataBytes ≠ 0

/-- What passes the comparison has the data and the fee limit of its session. -/
def SwapEntry : Effect → List Effect → Prop
  | .swapAccepted content _, older => (lastCommand older).any Command.isSign = true →
    (∃ rss, List.Forall₂ Framed (sessionPayloads older) rss) ∧
      content.feeLimit = (sessionFee (sessionPayloads older)).toUInt64 ∧
      (customData (sessionRecords older) ≠ [] → content.dataBytes ≠ 0)
  | _, _ => True

/-- The rules of the data and the fee limit in a swap. -/
theorem swapRules (sdk : Sdk σ κ) : SessionRules sdk SwapLive (fun _ _ _ => True) (fun _ => SwapEntry) where
  opens settings msg log := by
    refine ⟨(feeRules sdk).opens settings msg log, fun data => ?_⟩
    simp [sessionRecords, sessionPayloads, sessionChunks, records, recordsWithin, customData] at data
  silent entry silent live := by
    refine ⟨(feeRules sdk).silent entry silent live.toFeeLive, ?_⟩
    rw [sessionRecords_silent silent]
    exact live.data
  metadata takes step live := by
    refine ⟨(feeRules sdk).metadata takes step live.toFeeLive, ?_⟩
    have change := step.change
    unfold MetadataChange at change
    rw [change]
    exact live.data
  chunk payload status content' msg' isOpen live processed accepts := by
    refine ⟨(feeRules sdk).chunk payload isOpen live.toFeeLive processed accepts, fun data => ?_⟩
    obtain ⟨rss, framed⟩ := live.framed
    obtain ⟨rs, more, counted, -⟩ := accepted_dataBytes accepts processed
    rw [(sessionRecords_chunk framed more).2, customData, List.foldl_append] at data
    rw [counted]
    exact foldl_remembers rs live.data data
  thrown {s log} _ live := by
    refine ⟨FeeLive.rendered live.toFeeLive _, fun data => ?_⟩
    rw [Session.finished, renderedContent_dataBytes]
    exact live.data data
  review _ _ _ _ _ _ _ := ⟨trivial, trivial⟩
  swapAccepted {s log ui} live _ := by
    intro own
    refine ⟨live.framed, (renderedContent_fee _).1.trans live.fee, fun data => ?_⟩
    rw [renderedContent_dataBytes]
    exact live.data data
  swapSigned _ _ _ := trivial
  signature _ _ := trivial
  plain settings entry log plain := by
    cases entry with
    | swapAccepted => simp [Effect.isPlain] at plain
    | _ => trivial
  other settings entry log notSign := by
    cases entry with
    | swapAccepted =>
      intro own
      rw [notSign] at own
      simp at own
    | _ => trivial

/-- **In a swap, what passes the comparison has the data and the fee limit of its session.** -/
theorem AppRun.swapShown {version : AppVersion} {b : Boot} {es : List Event} {w : World σ κ}
    {guard : World σ κ → Event → Bool} (swap : b.calledFromSwap = true)
    (run : AppRun sdk version guard b es w) : Always SwapEntry w.trace := by
  have invariant : SwapSession b w.session ∧ SessionInv SwapLive (fun _ _ _ => True) w.session w.trace ∧
      Always SwapEntry w.trace := by
    refine Run.preserves (P := fun w : World σ κ => SwapSession b w.session ∧
      SessionInv SwapLive (fun _ _ _ => True) w.session w.trace ∧ Always SwapEntry w.trace)
      ⟨.start swap, .start b, trivial⟩ ?_ run
    rintro w e w' ⟨session, inv, all⟩ - stepped
    obtain ⟨running, news, trace, moved⟩ := step_moves sdk version w stepped
    have kept : Kept SwapLive (fun _ _ _ => True) (fun _ => SwapEntry) w.session.settings w.trace news w'.session := by
      refine (swapRules sdk).move inv running ?_ ?_ moved
      · intro c _ _ noSwap
        rw [session.swap] at noSwap
        simp at noSwap
      · rintro setting - - live
        exact ⟨⟨live.framed, live.fee, live.bounded⟩, live.data⟩
    rw [trace]
    exact ⟨(session.moves stepped).1, kept.1, kept.2.always all⟩
  exact invariant.2.2

end Rules

section Runs

variable {σ κ : Type} {sdk : Sdk σ κ} {version : AppVersion} {digest : Bytes → Buf 32}

/-- The APDU or the answer shows something. -/
def Effect.isScreen : Effect → Bool
  | .review _ | .verifyAddress => true
  | _ => false

instance (address : Address) (old : Bytes) : Decidable (AddressFits sdk address old) :=
  inferInstanceAs (Decidable (_ ∨ _))

/-- No check before the comparison refuses the transfer: it has no custom data, a permission id of one digit, an
amount that can be printed and a fee limit that a swap allows. -/
def TxContent.comparable (content : TxContent) : Bool :=
  content.dataBytes = 0 && 0 ≤ content.permissionId && content.permissionId ≤ 9 && !tooLong content.amount.first &&
    content.feeLimit ≤ maxSwapFeeLimit

/-- What passed the comparison. -/
theorem Renders.comparable {s : Session σ κ} {ui : Ui} (renders : s.Renders sdk .swapSign ui)
    (type : s.txContent.contractType = .transfer) : s.txContent.comparable = true := by
  obtain ⟨contacts, residue, sound⟩ := swapSound_of_renders renders
  obtain ⟨_, _, before, rendered⟩ := renders
  obtain ⟨low, high⟩ := renderTransaction_permission rendered
  have printable : tooLong s.txContent.amount.first = false := by
    have short := sound.printable
    simp only [neverShown, printedAmounts, type] at short
    simpa using short
  simp [TxContent.comparable, sound.noData, low, high, printable, sound.fee]

variable (sdk) in
/-- A transfer of TRX that is compared with what was validated has a destination whose text fits
`toAddress`. -/
def destinationFits (w : World σ κ) : Event → Bool
  | .apdu c => w.session.swapResponseReady || !w.session.finalises sdk c ||
    (w.session.brings sdk c).contractType ≠ .transfer || !(w.session.brings sdk c).comparable ||
      AddressFits sdk (w.session.brings sdk c).destination w.app.ui.toAddress.bytes
  | _ => true

/-- The hash is that of a transaction of the session, and what it does is what was validated. -/
structure SignsValidated (sdk : Sdk σ κ) (digest : Bytes → Buf 32) (validated : SwapValidated) (hash : Buf 32)
    (log : List Effect) : Prop where
  own : (lastCommand log).any Command.isSign = true
  hash_eq : HashOf digest hash log
  noData : customData (sessionRecords log) = []
  fee : (networkFee log).toUInt64 ≤ maxSwapFeeLimit
  payment : ∃ contract parameter asset destination amount, SessionCarries log contract parameter ∧
    Payment contract.type (recordsOf parameter) asset destination amount ∧
    validated.Agrees asset amount (base58Check sdk destination)

/-- A signature stands on a transaction that passed the comparison, with an exact destination. -/
def SignsAccepted (sdk : Sdk σ κ) (validated : SwapValidated) (entry : Effect) (older : List Effect) : Prop :=
  ∀ path hash, entry = .signature path hash → (lastCommand older).any Command.isSign = true ∧
    ∃ (v : Session σ κ) (ui : Ui) (rest : List Effect), older = .swapAccepted (renderedContent v.txContent) ui :: rest ∧
      v.swapValidated = validated ∧ v.Renders sdk .swapSign ui ∧
      (v.txContent.contractType = .transfer →
        ui.toAddress.str 0 = base58Check sdk v.txContent.destination)

/-- A signature is given for a transaction that passed the comparison in the same step. -/
theorem SwapSession.signs {b : Boot} {w w' : World σ κ} {e : Event} (encodes : sdk.EncodesBase58)
    (session : SwapSession b w.session) (fits : destinationFits sdk w e = true)
    (stepped : step sdk version w e = some w') :
    ∃ news, w'.trace = news ++ w.trace ∧ AlwaysOver (SignsAccepted sdk b.swapValidated) news w.trace := by
  obtain ⟨-, news, trace, moved⟩ := session.moves stepped
  refine ⟨news, trace, ?_⟩
  have unsigned {newer log : List Effect} (none : ∀ path hash, .signature path hash ∉ newer) :
      AlwaysOver (SignsAccepted sdk b.swapValidated) newer log := by
    refine .of_forall fun entry among older path hash same => ?_
    subst same
    exact absurd among (none path hash)
  cases moved with
  | quiet quiet => exact unsigned fun path hash among => absurd (quiet _ among) (by simp [Effect.isQuiet])
  | answers c unready ready quiet answer =>
    rename_i newer first
    have below : AlwaysOver (SignsAccepted sdk b.swapValidated) (.swapResponseReady :: first) w.trace := by
      refine unsigned fun path hash among => ?_
      rcases List.mem_cons.mp among with same | among
      · simp at same
      · exact absurd (quiet _ among) (by simp [Effect.isQuiet])
    refine alwaysOver_append.mpr ⟨?_, below⟩
    cases answer with
    | acknowledged => exact unsigned (by simp)
    | refused sw bad final silent =>
      refine unsigned fun path hash among => ?_
      rcases List.mem_cons.mp among with same | among
      · simp at same
      · exact absurd (silent _ among).1 (by simp [Effect.isQuiet])
    | signed data payload status path v ui _ completes brings validated renders =>
      have own : c.isSign = true := by
        simp only [Session.finalises, Session.parses, Bool.and_eq_true] at completes
        exact completes.1.1.1
      have last := (alwaysOver_append.mp (step_lastCommand sdk w stepped trace)).1.2.1
      obtain ⟨news', trace', met⟩ := step_accepts sdk w own stepped
      obtain rfl := List.append_cancel_right (trace'.symm.trans trace)
      have written := met (renderedContent v.txContent) ui (by simp)
      refine ⟨by simp [SignsAccepted], ?_, by simp [SignsAccepted], by simp [SignsAccepted], trivial⟩
      rintro path' hash' same
      obtain ⟨rfl, rfl⟩ := Effect.signature.inj same
      refine ⟨?_, v, ui, _, rfl, validated.trans session.validated, renders, fun type => ?_⟩
      · rw [last.resolve_left (by simp)]
        exact own
      · have room : AddressFits sdk v.txContent.destination w.app.ui.toAddress.bytes := by
          have comparable := Renders.comparable renders type
          simpa [destinationFits, unready, completes, ← brings, type, comparable] using fits
        rw [WrittenOver, renderedContent_destination] at written
        rw [written]
        exact (getBase58FromAddress_str encodes _ _ (by decide)).mpr room

/-- The fee limit that the network reads is at most that of the session. -/
theorem networkFee_le {log : List Effect} {rss : List (List Record)} {most : UInt64}
    (framed : List.Forall₂ Framed (sessionPayloads log) rss)
    (limited : (sessionFee (sessionPayloads log)).toUInt64 ≤ most) : (networkFee log).toUInt64 ≤ most := by
  have cases : networkFee log = sessionFee (sessionPayloads log) ∨ networkFee log = 0 := by
    rw [networkFee, sessionRecords_eq (framed_flatten framed)]
    exact networkFee_cases framed (.inl rfl)
  rcases cases with same | zero
  · rw [same]
    exact limited
  · rw [zero]
    exact UInt64.zero_le

/-- A swap shows nothing. -/
theorem SwapMove.noScreen {s s' : Session σ κ} {e : Event} {news : List Effect} (moved : SwapMove sdk s e news s') :
    ∀ entry ∈ news, entry.isScreen = false := by
  have quiet_screen {entry : Effect} (quiet : entry.isQuiet = true) : entry.isScreen = false := by
    cases entry <;> simp_all [Effect.isQuiet, Effect.isScreen]
  intro entry among
  cases moved with
  | quiet quiet => exact quiet_screen (quiet entry among)
  | answers c unready ready quiet answer =>
    rcases List.mem_append.mp among with among | among
    · cases answer with
      | refused sw bad final silent =>
        rcases List.mem_cons.mp among with rfl | among
        · rfl
        · exact quiet_screen (silent entry among).1
      | acknowledged | signed =>
        simp only [List.mem_cons, List.not_mem_nil, or_false] at among
        obtain rfl | rfl | rfl | rfl := among <;> rfl
    · rcases List.mem_cons.mp among with rfl | among
      · rfl
      · exact quiet_screen (quiet entry among)

/-- What a swap shows and signs. -/
theorem swapRun_signs (encodes : sdk.EncodesBase58) {b : Boot} {es : List Event} {w : World σ κ}
    (swap : b.calledFromSwap = true) (run : AppRun sdk version (destinationFits sdk) b es w) :
    (∀ entry ∈ w.trace, entry.isScreen = false) ∧ Always (SignsAccepted sdk b.swapValidated) w.trace := by
  have invariant : SwapSession b w.session ∧ (∀ entry ∈ w.trace, entry.isScreen = false) ∧
      Always (SignsAccepted sdk b.swapValidated) w.trace := by
    refine Run.preserves (P := fun w : World σ κ => SwapSession b w.session ∧
      (∀ entry ∈ w.trace, entry.isScreen = false) ∧ Always (SignsAccepted sdk b.swapValidated) w.trace)
      ⟨.start swap, by simp [boot], trivial⟩ ?_ run
    rintro w e w' ⟨session, dark, all⟩ fits stepped
    obtain ⟨session', news, trace, moved⟩ := session.moves stepped
    obtain ⟨news', trace', atop⟩ := session.signs encodes fits stepped
    obtain rfl : news' = news := List.append_cancel_right (trace'.symm.trans trace)
    rw [trace]
    refine ⟨session', fun entry among => ?_, atop.always all⟩
    rcases List.mem_append.mp among with among | among
    · exact moved.noScreen entry among
    · exact dark entry among
  exact invariant.2

/-- A swap signs once at most. -/
theorem swapRun_single {b : Boot} {es : List Event} {w : World σ κ} (swap : b.calledFromSwap = true)
    (run : AppRun sdk version anyStep b es w) : (signatures w.trace).length ≤ 1 := by
  rcases swapRun_cases swap run with whole | ⟨-, wrong⟩
  · cases (wholeRun_reports swap whole).2 with
    | waiting _ _ unsigned | refused _ _ unsigned => simp [unsigned]
    | signed _ _ _ single => exact single.le
  · simp [wrong.unsigned]

/-- What passes the comparison is rendered as it is stored. -/
theorem renderedContent_compared {ctx : RenderContext σ κ} {content : TxContent} {ui : Ui}
    (sound : SwapSound ctx content ui) : renderedContent content = content := by
  unfold renderedContent
  rcases sound.contract with type | ⟨type, -⟩ <;> rw [if_neg (by simp [type])]

/-- A transaction that passed the comparison is the payment that was validated. -/
theorem signs_validated (encodes : sdk.EncodesBase58) {validated : SwapValidated} {hash : Buf 32} {ui : Ui}
    {v : Session σ κ} {rest : List Effect}
    (own : (lastCommand rest).any Command.isSign = true)
    (shows : ∃ settings, ShowsSession sdk settings (.swapAccepted (renderedContent v.txContent) ui) rest)
    (entry : SwapEntry (.swapAccepted (renderedContent v.txContent) ui) rest) (same : v.swapValidated = validated)
    (renders : v.Renders sdk .swapSign ui)
    (exact : v.txContent.contractType = .transfer → ui.toAddress.str 0 = base58Check sdk v.txContent.destination)
    (hash_eq : HashOf digest hash (.swapAccepted (renderedContent v.txContent) ui :: rest)) :
    SignsValidated sdk digest validated hash (.swapAccepted (renderedContent v.txContent) ui :: rest) := by
  obtain ⟨contacts, residue, before, sound, compared⟩ := Renders.compared renders
  have plain := renderedContent_compared sound
  obtain ⟨⟨rss, framed⟩, fee, data⟩ := entry own
  obtain ⟨settings, shows⟩ := shows
  obtain ⟨s, -, of, renders', content_eq⟩ := shows own
  -- the session that is known from its payloads is the one that was compared
  obtain ⟨contacts', residue', before', sound', -⟩ := Renders.compared renders'
  have stored : s.txContent = v.txContent := by
    rw [← plain, ← renderedContent_compared sound']
    exact content_eq.symm
  rw [stored] at of
  rw [plain] at fee data
  refine ⟨own, hash_eq, ?_, ?_, ?_⟩
  · rw [sessionRecords_silent rfl]
    by_contra some
    exact data some sound.noData
  · have limited : (networkFee rest).toUInt64 ≤ maxSwapFeeLimit := by
      refine networkFee_le framed ?_
      rw [← fee]
      exact sound.fee
    rw [networkFee, sessionRecords_silent rfl]
    exact limited
  · obtain ⟨contract, parameter, asset, amount, carried, payment, agrees⟩ := of.payment encodes sound compared exact
    rw [← same]
    refine ⟨contract, parameter, asset, _, amount, ?_, payment, agrees⟩
    rw [SessionCarries, sessionRecords_silent rfl]
    exact carried

/-- **In every run of a swap nothing is shown and at most one transaction is signed, which does what was
validated, when the text of every destination that is compared fits its buffer.** -/
theorem swap_signs_validated (ok : sdk.sha256.Correct digest) (encodes : sdk.EncodesBase58) {b : Boot}
    {es : List Event} {w : World σ κ} (swap : b.calledFromSwap = true)
    (run : AppRun sdk version (destinationFits sdk) b es w) :
    (∀ entry ∈ w.trace, entry.isScreen = false) ∧ (signatures w.trace).length ≤ 1 ∧
      Always (fun entry older => ∀ path hash, entry = .signature path hash →
        SignsValidated sdk digest b.swapValidated hash older) w.trace := by
  have free : AppRun sdk version anyStep b es w := run.weaken fun _ _ _ => rfl
  obtain ⟨dark, accepted⟩ := swapRun_signs encodes swap run
  refine ⟨dark, swapRun_single swap free, ?_⟩
  have hashes := ((signedRules ok).run (signedLive_keeps sdk anyStep) free).2
  refine (((accepted.and hashes).and free.showsSession.behind).and (free.swapShown swap).behind).mono ?_
  rintro entry older ⟨⟨⟨accepted, hashes⟩, shows⟩, entries⟩ path hash rfl
  obtain ⟨own, v, ui, rest, rfl, same, renders, exact⟩ := accepted path hash rfl
  obtain ⟨settings, hashed⟩ := hashes
  exact signs_validated encodes own shows.2.1 entries.2.1 same renders exact (hashed own)

end Runs

/-- The transaction of the signature that a log ends with, and what came before it. -/
def lastSigned : List Effect → Option (TxContent × List Effect)
  | .reply _ _ :: .signature _ _ :: .swapAccepted content _ :: older => some (content, older)
  | _ => none

theorem lastSigned_eq {trace older : List Effect} {content : TxContent}
    (found : lastSigned trace = some (content, older)) :
    ∃ data sw path hash ui, trace = .reply data sw :: .signature path hash :: .swapAccepted content ui :: older := by
  unfold lastSigned at found
  split at found
  · obtain ⟨rfl, rfl⟩ := Prod.mk.inj (Option.some.inj found)
    exact ⟨_, _, _, _, _, rfl⟩
  · simp at found

/-- A swap of one SUN to the account of the device. -/
def ownSwap : CreateTransactionParameters where
  coinConfiguration := none
  amount := some [1]
  destinationAddress := some (getBase58FromPublicKey device (Buf.ofBytes 65 [4]).bytes (Buf.zero 35)).bytes
  destinationAddressExtraId := some [0]

theorem ownPath_short : (pathBytes 0).length < 256 := by decide

theorem foreignPayment_short : (pathBytes 0 ++ longTextTransfer).length < 256 := by decide +kernel

/-- The account of the device is asked for, and one SUN is sent to an address with a longer text. -/
def foreignPayment : List Event := [
  command Ins.getPublicKey 0 0 (pathBytes 0) ownPath_short,
  command Ins.sign P1.sign 0 (pathBytes 0 ++ longTextTransfer) foreignPayment_short]

theorem foreignPayment_text : (swapBoot ownSwap).swapValidated.recipient.str 0 ≠
    base58Check device (Buf.ofBytes 21 (0xff :: List.replicate 20 0)) := by decide +kernel

/-- The text of the longer address is not written, and that of the account stands in its place. -/
theorem foreign_payment_signed : ∃ w,
    AppRun device deviceVersion anyStep (swapBoot ownSwap) foreignPayment w ∧
      ¬Always (fun entry older => ∀ path hash, entry = .signature path hash →
        SignsValidated device Sha256.hash (swapBoot ownSwap).swapValidated hash older) w.trace := by
  obtain ⟨w, run, found⟩ := Run.exists_of_exec (step device deviceVersion) anyStep (boot device (swapBoot ownSwap))
    foreignPayment (fun w => (lastSigned w.trace).any fun found => found.1.contractType = .transfer &&
      found.1.destination = Buf.ofBytes 21 (0xff :: List.replicate 20 0) &&
      (lastCommand found.2).any Command.isSign) (by decide +kernel)
  rw [Option.any_eq_true] at found
  obtain ⟨⟨content, older⟩, signed, found⟩ := found
  simp only [Bool.and_eq_true, decide_eq_true_eq] at found
  obtain ⟨⟨type, destination⟩, own⟩ := found
  obtain ⟨data, sw, path, hash, ui, trace⟩ := lastSigned_eq signed
  refine ⟨w, run, fun all => ?_⟩
  have shown := AppRun.showsSession run
  rw [trace] at all shown
  obtain ⟨settings, shows⟩ := shown.2.2.1
  obtain ⟨s, -, of, -, rfl⟩ := shows own
  obtain ⟨contract, parameter, asset, address, amount, carried, payment, agrees⟩ :=
    (all.2.1 path hash rfl).payment
  have plain : s.txContent.contractType = .transfer := (renderedContent_type _).symm.trans type
  obtain ⟨contract', parameter', carried', code, -, sent, -⟩ := of.trx plain
  rw [SessionCarries, sessionRecords_silent rfl] at carried
  obtain ⟨rfl, rfl⟩ := carried'.unique carried
  rw [renderedContent_destination, sent] at destination
  cases payment with
  | trx =>
    have text := agrees.destination
    rw [destination] at text
    exact foreignPayment_text text
  | token called =>
    rw [code] at called
    simp at called

/-- The validated transfer is signed. -/
theorem swap_signs_validated_sample : ∃ w, AppRun device deviceVersion (destinationFits device) (swapBoot sampleSwap)
    [command Ins.sign P1.sign 0 (pathBytes 0 ++ sampleTransfer)] w ∧ (signatures w.trace).length = 1 ∧
      (∀ entry ∈ w.trace, entry.isScreen = false) ∧
      Always (fun entry older => ∀ path hash, entry = .signature path hash →
        SignsValidated device Sha256.hash (swapBoot sampleSwap).swapValidated hash older) w.trace := by
  obtain ⟨w, run, found⟩ := Run.exists_of_exec (step device deviceVersion) (destinationFits device)
    (boot device (swapBoot sampleSwap)) [command Ins.sign P1.sign 0 (pathBytes 0 ++ sampleTransfer)]
    (fun w => (signatures w.trace).length = 1) (by decide +kernel)
  obtain ⟨dark, -, signs⟩ := swap_signs_validated device_sha256 (fun _ _ => rfl) rfl run
  exact ⟨w, run, of_decide_eq_true found, dark, signs⟩

end TronLedger
