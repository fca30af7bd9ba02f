import TronLedger.SessionContract

/-!
# What holds of the content of a session

A property that the readers of contracts establish, and that metadata and the chunks around the
contract keep, holds of the content of every review of INS_SIGN.
-/

namespace TronLedger

open Nanopb

/-- `P` holds of what is read, and of what becomes of it. -/
structure ContentRule (P : TxContent → Prop) : Prop where
  reads : ∀ {contract : TransactionContract} {parameter : Bytes} {stored : TxContent} {msg : Msg},
    readByType contract.type (TxContent.empty.typed contract) (pbIstreamFromBuffer parameter) default =
      (true, stored, msg) → P stored
  metadata : ∀ {a b : TxContent}, a.contractType.takesMetadata = true → MetadataStep a b → P a → P b
  reframe : ∀ {a : TxContent} (d f : UInt64) (seen : Bool), P a → P (a.reframe d f seen)
  rendered : ∀ {a : TxContent}, P a → P (renderedContent a)

section Rules

variable {σ κ : Type} {P : TxContent → Prop}

/-- Nothing is read yet, or `P` holds. -/
def ContentLive (P : TxContent → Prop) (_ : Settings) (_ : TxContext σ) (content : TxContent) (_ : Msg)
    (_ : List Effect) : Prop :=
  (content.contractSeen = false ∧
    content = TxContent.empty.reframe content.dataBytes content.feeLimit content.feeLimitSeen) ∨
      (content.contractSeen = true ∧ P content)

/-- A review of INS_SIGN has a content with `P`. -/
def ContentEntry (P : TxContent → Prop) : Effect → List Effect → Prop
  | .review r, older => (lastCommand older).any Command.isSign = true → P r.content
  | _, _ => True

theorem renderedContent_seen (content : TxContent) :
    (renderedContent content).contractSeen = content.contractSeen := by
  unfold renderedContent
  split <;> rfl

/-- Before a contract is read, the type is none that is shown. -/
theorem ContentLive.typed {settings : Settings} {context : TxContext σ} {content : TxContent} {msg : Msg}
    {log : List Effect} (live : ContentLive P settings context content msg log)
    (typed : content.contractType ≠ .invalidContract) : content.contractSeen = true ∧ P content := by
  rcases live with ⟨-, empty⟩ | read
  · rw [empty] at typed
    exact absurd rfl typed
  · exact read

/-- An accepted chunk keeps the content. -/
theorem ContentLive.chunk (rule : ContentRule P) {settings : Settings} {context context' : TxContext σ}
    {content content' : TxContent} {msg msg' : Msg} {log log' : List Effect} {allowed : Bool} {payload : Bytes}
    (live : ContentLive P settings context content msg log)
    (processed : processTx allowed payload content msg = (.processing, content', msg')) :
    ContentLive P settings context' content' msg' log' := by
  obtain ⟨rs, fee, seen, -, -, ends⟩ := processTx_processing processed
  rcases ends with ⟨-, rfl, rfl⟩ | ⟨entry, decoded, -, found, bears, unseen, read⟩
  · rcases live with ⟨unseen, empty⟩ | ⟨read, holds⟩
    · left
      refine ⟨unseen, ?_⟩
      rw [empty]
      rfl
    · exact .inr ⟨read, rule.reframe _ _ _ holds⟩
  · have empty := (live.resolve_right fun read => by simp [unseen] at read).2
    generalize rs.foldl dataStep content.dataBytes = d at read
    rw [empty, reframe_reframe, processContract_reframe] at read
    obtain ⟨status, stored, -⟩ :
        (processContract (contractRaw decoded) .empty default).1 = .processing ∧
        (processContract (contractRaw decoded) .empty default).2.1.reframe d fee seen = content' ∧
        (processContract (contractRaw decoded) .empty default).2.2 = msg' := by
      simpa using read
    have parameter : (contractRaw decoded).contract.hasParameter = true := by
      simpa [bearsParameter, found, contractRaw] using bears
    obtain ⟨bytes, -, -, -, reads⟩ := processContract_reads parameter
      (show processContract (contractRaw decoded) .empty default = (.processing, _, _) from
        Prod.ext status rfl)
    have captured := readByType_contractSeen (contractRaw decoded).contract.type
      (TxContent.empty.typed (contractRaw decoded).contract) (pbIstreamFromBuffer bytes) default
    rw [reads] at captured
    right
    rw [← stored]
    exact ⟨captured, rule.reframe _ _ _ (rule.reads reads)⟩

/-- The rules of a property of the content. -/
theorem contentRules (sdk : Sdk σ κ) (rule : ContentRule P) :
    SessionRules sdk (ContentLive P) (fun _ _ _ => True) (fun _ => ContentEntry P) where
  opens _ _ _ := .inl ⟨rfl, rfl⟩
  silent _ _ live := live
  metadata {settings context content content' msg log} takes step live := by
    have typed : content.contractType ≠ .invalidContract := by
      intro none
      rw [none] at takes
      simp [ContractType.takesMetadata] at takes
    obtain ⟨seen, holds⟩ := ContentLive.typed live typed
    have change := step.change
    unfold MetadataChange at change
    refine .inr ⟨?_, rule.metadata takes step holds⟩
    rw [change]
    exact seen
  chunk payload status content' msg' _ live processed accepts := by
    rcases processTx_accepts processed accepts with rfl | ⟨rfl, rfl, rfl, rfl⟩
    · exact ContentLive.chunk rule live processed
    · exact live
  thrown {s log} _ live := by
    rcases live with ⟨unseen, empty⟩ | ⟨seen, holds⟩
    · have same : renderedContent s.txContent = s.txContent := by
        unfold renderedContent
        rw [if_neg]
        rw [empty]
        simp [TxContent.reframe, TxContent.outside, TxContent.empty]
      left
      have before : (s.finished sdk).txContent = s.txContent := same
      rw [before]
      exact ⟨unseen, empty⟩
    · exact .inr ⟨(renderedContent_seen _).trans seen, rule.rendered holds⟩
  review {s log r kind} live _ _ _ typed _ shown := by
    refine ⟨fun _ => ?_, trivial⟩
    rw [shown.content_eq]
    exact rule.rendered (ContentLive.typed live typed).2
  swapAccepted _ _ := trivial
  swapSigned _ _ _ := trivial
  signature _ _ := trivial
  plain settings entry log plain := by
    cases entry with
    | review => simp [Effect.isPlain] at plain
    | _ => trivial
  other settings entry log notSign := by
    cases entry with
    | review =>
      intro own
      rw [notSign] at own
      simp at own
    | _ => trivial

theorem contentLive_keeps (sdk : Sdk σ κ) (rule : ContentRule P) (guard : World σ κ → Event → Bool) :
    GuardKeeps sdk (ContentLive P) guard where
  message {w c news s'} _ _ moved _ live := by
    obtain ⟨settings, context, msg, d, content⟩ := messageMove_transaction moved
    simp only [LiveIn, content]
    rcases live with ⟨unseen, empty⟩ | ⟨seen, holds⟩
    · left
      refine ⟨unseen, ?_⟩
      rw [empty]
      rfl
    · exact .inr ⟨seen, rule.reframe d w.session.txContent.feeLimit w.session.txContent.feeLimitSeen holds⟩
  toggle _ _ live := live

/-- A content that an APDU brings to its rendering, refused there or not. -/
structure Parses (sdk : Sdk σ κ) (c : Command) (s : Session σ κ) (content : TxContent) : Prop where
  parsed : ∃ news v payload, SignEntry sdk c s news v payload ∧ v.txContext.initialized = true ∧
    (v.parseStatus payload).accepts = true ∧ content = (v.parsed payload).txContent
  typed : content.contractType ≠ .invalidContract

/-- **Every content that an APDU parses has `P`.** -/
theorem ContentRule.parses {sdk : Sdk σ κ} {version : AppVersion} {b : Boot} {es : List Event}
    {w w' : World σ κ} {c : Command} {guard : World σ κ → Event → Bool} {content : TxContent}
    (rule : ContentRule P) (run : AppRun sdk version guard b es w)
    (stepped : step sdk version w (.apdu c) = some w') (parses : Parses sdk c w.session content) :
    P content := by
  have inv := ((contentRules sdk rule).run (contentLive_keeps sdk rule guard) run).1
  obtain ⟨running, added, -, moved⟩ := step_moves sdk version w stepped
  have idle : w.session.pending = none := by
    cases moved with
    | apdu _ idle => exact idle
  obtain ⟨⟨news, v, payload, entry, isOpen, accepted, rfl⟩, typed⟩ := parses
  have live (isOpen : w.session.txContext.initialized = true) :
      LiveIn (ContentLive P) w.session w.trace := inv.live running isOpen (by simp [idle])
  have entered : LiveIn (ContentLive P) v w.trace := by
    cases entry with
    | opens => exact (contentRules sdk rule).opens w.session.settings w.session.msg w.trace
    | metadata name opener type =>
      exact (contentRules sdk rule).metadata type (metadataContent_step sdk _ c) (live isOpen)
    | continues => exact live isOpen
  have parsed := (contentRules sdk rule).chunk payload isOpen entered rfl accepted
  exact (ContentLive.typed parsed typed).2

/-- **In every step, a review of INS_SIGN has a content with `P`.** -/
theorem ContentRule.shown {sdk : Sdk σ κ} {version : AppVersion} {b : Boot} {es : List Event}
    {w w' : World σ κ} {e : Event} {guard : World σ κ → Event → Bool} (rule : ContentRule P)
    (run : AppRun sdk version guard b es w) (stepped : step sdk version w e = some w') :
    ∃ news, w'.trace = news ++ w.trace ∧ AlwaysOver (ContentEntry P) news w.trace := by
  have inv := ((contentRules sdk rule).run (contentLive_keeps sdk rule guard) run).1
  obtain ⟨news, trace, -, atop⟩ :=
    (contentRules sdk rule).guarded (contentLive_keeps sdk rule anyStep) inv rfl stepped
  exact ⟨news, trace, atop⟩

end Rules

end TronLedger
