import TronLedger.Moves
import TronLedger.ProcessSteps
import Mathlib.Data.List.Forall2

/-!
# A rule for the sessions of INS_SIGN

What holds of an open session is kept by a few operations: `initTx`, a verified metadata
APDU, an accepted chunk, and an exception while it is rendered. `SessionRules` lists what a
property must satisfy for each, and what then holds of every review and signature.

* `Live` is the property of an open session; it reads the settings, the contexts and the log.
* `Asked` is what is known while the session's review is on screen.
* `Entry` is what is claimed of an entry of the log, under the settings it was made with.
* `SessionRules.move` is the step lemma for everything but the personal messages and the
  settings, which a development may guard.
-/

namespace TronLedger

open Nanopb

/-- The payloads processed since the last `initTx`, with the verdicts on them. -/
def sessionChunks : List Effect → List (Bytes × ParserStatus)
  | [] => []
  | .initTx :: _ => []
  | .processTx payload status :: older => sessionChunks older ++ [(payload, status)]
  | _ :: older => sessionChunks older

def sessionPayloads (log : List Effect) : List Bytes := (sessionChunks log).map (·.1)

/-- The payloads of the session, read as one transaction. -/
def sessionRecords (log : List Effect) : List Record :=
  (records (sessionPayloads log).flatten).getD []

/-- Entries that do not change what is read from a log about a session. -/
def Effect.isSilent : Effect → Bool
  | .initTx | .processTx _ _ => false
  | _ => true

/-- Entries that show or sign nothing. -/
def Effect.isPlain : Effect → Bool
  | .review _ | .signature _ _ | .swapAccepted _ _ => false
  | _ => true

def ParserStatus.accepts : ParserStatus → Bool
  | .processing | .finished => true
  | .fault | .missingSettingDataAllowed => false

/-- A chunk that is accepted is read, or it is empty and changes nothing. -/
theorem processTx_accepts {dataAllowed : Bool} {payload : Bytes} {content content' : TxContent} {msg msg' : Msg}
    {status : ParserStatus} (processed : processTx dataAllowed payload content msg = (status, content', msg'))
    (accepts : status.accepts = true) :
    status = .processing ∨ (status = .finished ∧ payload = [] ∧ content' = content ∧ msg' = msg) := by
  cases status with
  | processing => exact .inl rfl
  | finished =>
    obtain rfl := processTx_finished (by rw [processed])
    rw [processTx_nil] at processed
    obtain ⟨same, same'⟩ := Prod.mk.inj (Prod.mk.inj processed).2
    exact .inr ⟨rfl, rfl, same.symm, same'.symm⟩
  | fault | missingSettingDataAllowed => simp [ParserStatus.accepts] at accepts

theorem sessionChunks_silent {entry : Effect} (silent : entry.isSilent = true) (log : List Effect) :
    sessionChunks (entry :: log) = sessionChunks log := by
  cases entry <;> simp_all [Effect.isSilent, sessionChunks]

theorem sessionPayloads_silent {entry : Effect} (silent : entry.isSilent = true) (log : List Effect) :
    sessionPayloads (entry :: log) = sessionPayloads log := by
  rw [sessionPayloads, sessionChunks_silent silent, sessionPayloads]

@[simp] theorem sessionPayloads_processTx (payload : Bytes) (status : ParserStatus)
    (log : List Effect) :
    sessionPayloads (.processTx payload status :: log) = sessionPayloads log ++ [payload] := by
  simp [sessionPayloads, sessionChunks]

theorem framed_flatten {payloads : List Bytes} {rss : List (List Record)}
    (framed : List.Forall₂ Framed payloads rss) : Framed payloads.flatten rss.flatten := by
  induction framed with
  | nil => exact .nil
  | cons head _ ih => exact head.append ih

theorem sessionRecords_eq {log : List Effect} {rs : List Record}
    (framed : Framed (sessionPayloads log).flatten rs) : sessionRecords log = rs := by
  rw [sessionRecords, records_eq_some.mpr framed, Option.getD_some]

theorem sessionRecords_silent {entry : Effect} (silent : entry.isSilent = true) (log : List Effect) :
    sessionRecords (entry :: log) = sessionRecords log := by
  rw [sessionRecords, sessionPayloads_silent silent, sessionRecords]

/-- An accepted chunk adds its records to those of the session. -/
theorem sessionRecords_chunk {log : List Effect} {rss : List (List Record)} {payload : Bytes}
    {rs : List Record} {status : ParserStatus}
    (framed : List.Forall₂ Framed (sessionPayloads log) rss) (more : Framed payload rs) :
    List.Forall₂ Framed (sessionPayloads (.processTx payload status :: log)) (rss ++ [rs]) ∧
      sessionRecords (.processTx payload status :: log) = sessionRecords log ++ rs := by
  have all : List.Forall₂ Framed (sessionPayloads log ++ [payload]) (rss ++ [rs]) :=
    List.rel_append framed (.cons more .nil)
  rw [sessionPayloads_processTx]
  refine ⟨all, ?_⟩
  rw [sessionRecords_eq (framed_flatten framed), sessionRecords_eq]
  simpa using framed_flatten all

/-- Every record of the session is one of an accepted payload. -/
theorem mem_sessionRecords {log : List Effect} {rss : List (List Record)}
    (framed : List.Forall₂ Framed (sessionPayloads log) rss) {r : Record}
    (among : r ∈ sessionRecords log) :
    ∃ payload ∈ sessionPayloads log, ∃ rs, Framed payload rs ∧ r ∈ rs := by
  rw [sessionRecords_eq (framed_flatten framed)] at among
  generalize sessionPayloads log = payloads at framed
  induction framed with
  | nil => simp at among
  | cons head _ ih =>
    rw [List.flatten_cons] at among
    rcases List.mem_append.mp among with here | behind
    · exact ⟨_, List.mem_cons_self, _, head, here⟩
    · obtain ⟨payload, later, rs, framed, found⟩ := ih behind
      exact ⟨payload, List.mem_cons_of_mem _ later, rs, framed, found⟩

section

variable {σ κ : Type} (sdk : Sdk σ κ)
  (Live : Settings → TxContext σ → TxContent → Msg → List Effect → Prop)
  (Asked : Settings → Buf 32 → List Effect → Prop)
  (Entry : Settings → Effect → List Effect → Prop)

/-- The property of the session `s`. -/
def LiveIn (s : Session σ κ) (log : List Effect) : Prop :=
  Live s.settings s.txContext s.txContent s.msg log

structure SessionRules : Prop where
  opens : ∀ settings msg log,
    Live settings ⟨sdk.sha256.init, true⟩ .empty msg (.initTx :: log)
  silent : ∀ {settings context content msg log} (entry : Effect), entry.isSilent = true →
    Live settings context content msg log → Live settings context content msg (entry :: log)
  metadata : ∀ {settings context content content' msg log},
    content.contractType.takesMetadata = true → MetadataStep content content' →
      Live settings context content msg log → Live settings context content' msg log
  chunk : ∀ {settings context content msg log} (payload : Bytes) {status content' msg'},
    context.initialized = true → Live settings context content msg log →
      processTx settings.dataAllowed payload content msg = (status, content', msg') →
        status.accepts = true →
          Live settings { context with sha2 := sdk.sha256.update context.sha2 payload } content' msg'
            (.processTx payload status :: log)
  thrown : ∀ {s : Session σ κ} {log}, s.throws = true → LiveIn Live s log →
    LiveIn Live (s.finished sdk) log
  review : ∀ {s : Session σ κ} {log r kind}, LiveIn Live s log → s.calledFromSwap = false →
    s.throws = false → neverShown s.txContent s.msg = false →
      s.txContent.contractType ≠ .invalidContract → s.Renders sdk (.display kind) r.ui →
        ReviewOf (s.finished sdk) kind (0 < s.txContent.dataBytes) r →
          Entry s.settings (.review r) log ∧
            Asked s.settings (s.finished sdk).hash (.review r :: log)
  swapAccepted : ∀ {s : Session σ κ} {log ui}, LiveIn Live s log → s.Renders sdk .swapSign ui →
    Entry s.settings (.swapAccepted (renderedContent s.txContent) ui) log
  swapSigned : ∀ {s : Session σ κ} {log ui} (path : Bip32Path), LiveIn Live s log →
    s.Renders sdk .swapSign ui → Entry s.settings (.signature path (s.finished sdk).hash)
      (.swapAccepted (renderedContent s.txContent) ui :: log)
  signature : ∀ {settings hash log} (path : Bip32Path), Asked settings hash log →
    Entry settings (.signature path hash) log
  plain : ∀ settings (entry : Effect) log, entry.isPlain = true → Entry settings entry log
  other : ∀ settings entry log, (lastCommand log).any Command.isSign = false →
    Entry settings entry log

/-- The invariant the rules give. -/
structure SessionInv (s : Session σ κ) (log : List Effect) : Prop where
  live : s.exited = false → s.txContext.initialized = true →
    (s.pending.isSome = true → (lastCommand log).any Command.isSign = false) → LiveIn Live s log
  asked : ∀ kind, s.pending = some kind → (lastCommand log).any Command.isSign = true →
    kind.isTransaction = true ∧ Asked s.settings s.hash log

/-- The news keep the invariant, and each entry is as claimed. -/
def Kept (settings : Settings) (log news : List Effect) (s' : Session σ κ) : Prop :=
  SessionInv Live Asked s' (news ++ log) ∧ AlwaysOver (Entry settings) news log

variable {sdk Live Asked Entry} {s s' : Session σ κ} {c : Command} {news log : List Effect}

/-- A personal message keeps the transaction context, and adds no payload to the log. -/
theorem messageMove_session (moved : MessageMove sdk c s news s') :
    s'.txContext = s.txContext ∧ (∀ entry ∈ news, entry.isSilent = true) ∧ ∀ c, .apdu c ∉ news := by
  cases moved with
  | refused | badOpening => exact ⟨rfl, by simp [Effect.isSilent], by simp⟩
  | enters entry chunk =>
    rename_i first news v content
    have before : v.txContext = s.txContext ∧ (∀ e ∈ first, e.isSilent = true) ∧
        ∀ c, .apdu c ∉ first := by
      cases entry <;> exact ⟨rfl, by simp [Effect.isSilent], by simp⟩
    have behind : s'.txContext = v.txContext ∧ (∀ e ∈ news, e.isSilent = true) ∧
        ∀ c, .apdu c ∉ news := by
      cases chunk with
      | completes _ _ _ ends => cases ends <;> exact ⟨rfl, by simp [Effect.isSilent], by simp⟩
      | _ => exact ⟨rfl, by simp [Effect.isSilent], by simp⟩
    refine ⟨behind.1.trans before.1, fun e among => ?_, fun c among => ?_⟩
    · exact (List.mem_append.mp among).elim (behind.2.1 e) (before.2.1 e)
    · exact (List.mem_append.mp among).elim (behind.2.2 c) (before.2.2 c)

theorem SessionRules.silents (rules : SessionRules sdk Live Asked Entry) {context : TxContext σ}
    {settings : Settings} {content : TxContent} {msg : Msg}
    (silent : ∀ entry ∈ news, entry.isSilent = true) (live : Live settings context content msg log) :
    Live settings context content msg (news ++ log) := by
  induction news with
  | nil => exact live
  | cons entry news ih =>
    exact rules.silent entry (silent _ List.mem_cons_self)
      (ih fun e among => silent e (List.mem_cons_of_mem _ among))

theorem SessionRules.plains (rules : SessionRules sdk Live Asked Entry) (settings : Settings)
    (plain : ∀ entry ∈ news, entry.isPlain = true) : AlwaysOver (Entry settings) news log :=
  .of_forall fun entry among older => rules.plain settings entry older (plain entry among)

/-- A completed transaction. -/
theorem SessionRules.ends (rules : SessionRules sdk Live Asked Entry) (live : LiveIn Live s log)
    (idle : s.pending = none) (own : (lastCommand log).any Command.isSign = true)
    (ends : SignEnd sdk s news s') : Kept Live Asked Entry s.settings log news s' := by
  cases ends with
  | refused sw bad normal =>
    exact ⟨⟨by simp [Session.terminated], by simp [Session.terminated, Session.finished, idle]⟩,
      rules.plains _ (by simp [Effect.isPlain])⟩
  | thrown e bad throws =>
    exact ⟨⟨fun _ _ _ => rules.silent _ rfl (rules.thrown throws live),
      by simp [Session.finished, idle]⟩, rules.plains _ (by simp [Effect.isPlain])⟩
  | reviewing kind r noSwap transaction normal printable typed rendered shown =>
    obtain ⟨entry, asked⟩ := rules.review live noSwap normal printable typed rendered shown
    refine ⟨⟨fun _ _ other => ?_, fun k same _ => ?_⟩, ⟨entry, trivial⟩⟩
    · have notSign : (lastCommand log).any Command.isSign = false := other rfl
      simp [notSign] at own
    · obtain rfl : kind = k := by simpa using same
      exact ⟨transaction, asked⟩
  | swapSigned ui data sound =>
    exact ⟨⟨by simp [Session.terminated], by simp [Session.terminated, Session.finished, idle]⟩,
      rules.plain _ _ _ rfl, rules.swapSigned _ live sound, rules.swapAccepted live sound, trivial⟩
  | swapFailed ui sound =>
    exact ⟨⟨by simp [Session.terminated], by simp [Session.terminated, Session.finished, idle]⟩,
      rules.plain _ _ _ rfl, rules.swapAccepted live sound, trivial⟩

theorem Kept.append {settings : Settings} {first : List Effect}
    (kept : Kept Live Asked Entry settings (first ++ log) news s')
    (before : AlwaysOver (Entry settings) first log) :
    Kept Live Asked Entry settings log (news ++ first) s' :=
  ⟨by rw [List.append_assoc]; exact kept.1, alwaysOver_append.mpr ⟨kept.2, before⟩⟩

/-- A payload is hashed and parsed; `s` is the session before it is hashed. -/
theorem SessionRules.parses (rules : SessionRules sdk Live Asked Entry) {payload : Bytes}
    {v : Session σ κ} (hashed : v = { s.hashed sdk payload with swapResponseReady := v.swapResponseReady })
    (isOpen : s.txContext.initialized = true) (live : LiveIn Live s log) (idle : s.pending = none)
    (own : (lastCommand log).any Command.isSign = true)
    (parse : SignParse sdk c payload v news s') : Kept Live Asked Entry s.settings log news s' := by
  have settings : v.settings = s.settings := by rw [hashed]; rfl
  have pending : v.pending = none := by rw [hashed]; exact idle
  have accepted (status : (v.parseStatus payload).accepts = true) :
      LiveIn Live (v.parsed payload) (.processTx payload (v.parseStatus payload) :: log) := by
    have step := rules.chunk payload isOpen live (by rw [hashed]; rfl) status
    rw [hashed] at step ⊢
    exact step
  cases parse with
  | acknowledged status =>
    have live := accepted (by rw [status]; rfl)
    rw [status] at live
    exact ⟨⟨fun _ _ _ => rules.silent _ rfl live, by simp [Session.parsed, pending]⟩,
      rules.plains _ (by simp [Effect.isPlain])⟩
  | faulted sw bad status =>
    exact ⟨⟨fun _ _ _ => rules.silent _ rfl (rules.opens _ _ _),
      by simp [Session.reinitialised, Session.parsed, pending]⟩, rules.plains _ (by simp [Effect.isPlain])⟩
  | finalises status ends =>
    have live := accepted (by rcases status with ⟨status, -⟩ | status <;> rw [status] <;> rfl)
    have kept := rules.ends live pending own ends
    rw [← settings]
    exact kept.append (rules.plains _ (by simp [Effect.isPlain]))

/-- An APDU of INS_SIGN. -/
theorem SessionRules.sign (rules : SessionRules sdk Live Asked Entry)
    (inv : SessionInv Live Asked s log) (running : s.exited = false) (idle : s.pending = none)
    (own : (lastCommand log).any Command.isSign = true) (moved : SignMove sdk c s news s') :
    Kept Live Asked Entry s.settings log news s' := by
  have live (isOpen : s.txContext.initialized = true) : LiveIn Live s log :=
    inv.live running isOpen (by simp [idle])
  cases moved with
  | early sw content answered change fixed =>
    refine ⟨⟨fun _ isOpen _ => rules.silent _ rfl ?_, by simp [idle]⟩,
      rules.plains _ (by simp [Effect.isPlain])⟩
    cases type : s.txContent.contractType.takesMetadata with
    | true => exact rules.metadata type change (live isOpen)
    | false =>
      rw [(fixed type).1]
      exact live isOpen
  | enters entered entry chunk =>
    rename_i first news v payload
    -- the session that is hashed into
    obtain ⟨settings, pending, exited, plain, live, last⟩ : v.settings = s.settings ∧
        v.pending = none ∧ v.exited = false ∧ (∀ e ∈ first, e.isPlain = true) ∧
        (v.txContext.initialized = true → LiveIn Live v (first ++ log)) ∧
        lastCommand (first ++ log) = lastCommand log := by
      cases entry with
      | opens n opener read =>
        exact ⟨rfl, idle, running, by simp [Effect.isPlain], fun _ => rules.opens _ _ _, rfl⟩
      | metadata name opener type =>
        exact ⟨rfl, idle, running, by simp, fun isOpen =>
          rules.metadata type (metadataContent_step sdk _ c) (live isOpen), rfl⟩
      | continues p1 => exact ⟨rfl, idle, running, by simp, live, rfl⟩
    rw [← last] at own
    refine Kept.append ?_ (rules.plains _ plain)
    rw [← settings]
    cases chunk with
    | closed notOpen =>
      exact ⟨⟨by simp [notOpen], by simp [pending]⟩, rules.plains _ (by simp [Effect.isPlain])⟩
    | exits =>
      exact ⟨⟨by simp, by simp [Session.hashed, pending]⟩, rules.plains _ (by simp [Effect.isPlain])⟩
    | parses isOpen _ parse =>
      have hashed : LiveIn Live v (.hashTx payload :: (first ++ log)) := rules.silent _ rfl (live isOpen)
      exact (rules.parses rfl isOpen hashed pending own parse).append
        (rules.plains _ (by simp [Effect.isPlain]))
    | swapParses isOpen _ _ parse =>
      have hashed : LiveIn Live v (.swapResponseReady :: .hashTx payload :: (first ++ log)) :=
        rules.silent _ rfl (rules.silent _ rfl (live isOpen))
      exact (rules.parses rfl isOpen hashed pending own parse).append
        (rules.plains _ (by simp [Effect.isPlain]))

/-- Entries of a command outside INS_SIGN. -/
theorem SessionRules.others (rules : SessionRules sdk Live Asked Entry) {settings : Settings}
    (notSign : (lastCommand log).any Command.isSign = false)
    (noApdu : ∀ c, .apdu c ∉ news) :
    AlwaysOver (Entry settings) news log ∧ (lastCommand (news ++ log)).any Command.isSign = false := by
  induction news with
  | nil => exact ⟨trivial, notSign⟩
  | cons entry news ih =>
    obtain ⟨atop, last⟩ := ih fun c among => noApdu c (List.mem_cons_of_mem _ among)
    refine ⟨⟨rules.other _ _ _ last, atop⟩, ?_⟩
    cases entry with
    | apdu c => exact absurd List.mem_cons_self (noApdu c)
    | _ => exact last

/-- An APDU of another instruction that leaves the transaction alone. -/
theorem SessionRules.otherMove (rules : SessionRules sdk Live Asked Entry)
    (inv : SessionInv Live Asked s log) (idle : s.pending = none)
    (notSign : (lastCommand log).any Command.isSign = false) (moved : OtherMove c s news s') :
    Kept Live Asked Entry s.settings log news s' := by
  have news_eq := otherMove_news moved
  obtain ⟨atop, last⟩ := rules.others notSign
    (fun c among => by simpa [Effect.fromOther] using news_eq _ among)
  have silent : ∀ entry ∈ news, entry.isSilent = true := by
    intro entry among
    have := news_eq entry among
    cases entry <;> simp_all [Effect.fromOther, Effect.isSilent]
  refine ⟨⟨fun running isOpen _ => ?_, fun _ _ own => by simp [last] at own⟩, atop⟩
  obtain ⟨hash, ends⟩ := moved
  cases ends with
  | replied | reviewing | verifying =>
    exact rules.silents silent (inv.live running isOpen (by simp [idle]))

/-- The answer to a review. -/
theorem SessionRules.answer (rules : SessionRules sdk Live Asked Entry)
    (inv : SessionInv Live Asked s log) {state : ApprovalState} (asked : s.pending = some state)
    (moved : AnswerMove sdk { s with pending := none } state news s') :
    Kept Live Asked Entry s.settings log news s' := by
  cases own : (lastCommand log).any Command.isSign with
  | true =>
    -- the review is one of INS_SIGN, so its answer closes the session
    obtain ⟨transaction, hash⟩ := inv.asked state asked own
    cases moved with
    | signed data =>
      exact ⟨⟨by simp [Session.terminated], by simp [Session.terminated]⟩,
        rules.plain _ _ _ rfl, rules.signature _ hash, trivial⟩
    | closed =>
      exact ⟨⟨by simp [Session.terminated], by simp [Session.terminated]⟩,
        rules.plains _ (by simp [Effect.isPlain])⟩
    | shared _ _ other => simp [transaction] at other
    | sharedTyped _ _ _ typed => subst typed; simp [ApprovalState.isTransaction] at transaction
    | messageSigned _ message => subst message; simp [ApprovalState.isTransaction] at transaction
    | messageFailed _ _ message => subst message; simp [ApprovalState.isTransaction] at transaction
  | false =>
    have news_eq := answerMove_news moved
    obtain ⟨atop, last⟩ := rules.others own
      (fun c among => by simpa [Effect.fromAnswer] using news_eq _ among)
    have silent : ∀ entry ∈ news, entry.isSilent = true := by
      intro entry among
      have := news_eq entry among
      cases entry <;> simp_all [Effect.fromAnswer, Effect.isSilent]
    have live (running : s.exited = false) (isOpen : s.txContext.initialized = true) :
        LiveIn Live s (news ++ log) := rules.silents silent (inv.live running isOpen fun _ => own)
    refine ⟨⟨fun running isOpen _ => ?_, fun _ _ sign => by simp [last] at sign⟩, atop⟩
    cases moved with
    | signed | closed => simp [Session.terminated] at isOpen
    | shared | sharedTyped | messageSigned | messageFailed => exact live running isOpen

theorem SessionInv.start (b : Boot) : SessionInv Live Asked (boot sdk b).session [] where
  live := by simp [boot, World.session]
  asked := by simp [boot, World.session]

theorem SessionInv.received (rules : SessionRules sdk Live Asked Entry)
    (inv : SessionInv Live Asked s log) (idle : s.pending = none) :
    SessionInv Live Asked s (.apdu c :: log) where
  live running isOpen _ := rules.silent _ rfl (inv.live running isOpen (by simp [idle]))
  asked := by simp [idle]

/-- **A step keeps the invariant and makes entries as claimed, when the personal messages and
the settings keep what holds of an open session.** -/
theorem SessionRules.move (rules : SessionRules sdk Live Asked Entry) {e : Event}
    (inv : SessionInv Live Asked s log) (running : s.exited = false)
    (message : ∀ c, e = .apdu c → c.isMessage = true → s.calledFromSwap = false →
      ∀ news, MessageMove sdk c s news s' → s.txContext.initialized = true → LiveIn Live s log →
        LiveIn Live s' log)
    (toggle : ∀ setting, e = .toggleSetting setting → s.txContext.initialized = true →
      LiveIn Live s log → LiveIn Live { s with settings := s.settings.toggle setting } log)
    (moved : Move sdk s e news s') : Kept Live Asked Entry s.settings log news s' := by
  cases moved with
  | apdu c idle moved =>
    rename_i news
    have received := inv.received (c := c) rules idle
    have first : AlwaysOver (Entry s.settings) [.apdu c] log := ⟨rules.plain _ _ _ rfl, trivial⟩
    refine Kept.append ?_ first
    cases moved with
    | sign own moved => exact rules.sign received running idle (by simpa [lastCommand] using own) moved
    | message own noSwap moved =>
      have notSign : (lastCommand (.apdu c :: log)).any Command.isSign = false := by
        simp [lastCommand, isMessage_not_isSign own]
      obtain ⟨content, silent, noApdu⟩ := messageMove_session moved
      obtain ⟨atop, last⟩ := rules.others notSign noApdu
      refine ⟨⟨fun alive isOpen _ => rules.silents silent (rules.silent _ rfl ?_),
        fun _ _ sign => by simp [last] at sign⟩, atop⟩
      have isOpen' : s.txContext.initialized = true := by rw [← content]; exact isOpen
      exact message c rfl own noSwap _ moved isOpen' (inv.live running isOpen' (by simp [idle]))
    | other notSign _ moved =>
      exact rules.otherMove received idle (by simp [lastCommand, notSign]) moved
  | answer confirm asked moved => exact rules.answer inv asked moved
  | badFrame idle =>
    exact ⟨⟨fun alive isOpen _ => rules.silent _ rfl (inv.live alive isOpen (by simp [idle])),
      by simp [idle]⟩, rules.plains _ (by simp [Effect.isPlain])⟩
  | toggleSetting idle setting =>
    exact ⟨⟨fun alive isOpen _ => toggle setting rfl isOpen (inv.live alive isOpen (by simp [idle])),
      by simp [idle]⟩, trivial⟩
  | setContacts idle =>
    exact ⟨⟨fun alive isOpen _ => inv.live alive isOpen (by simp [idle]), by simp [idle]⟩, trivial⟩
  | ioReset idle =>
    exact ⟨⟨by simp, by simp [Session.terminated, idle]⟩, rules.plains _ (by simp [Effect.isPlain])⟩

/-- What a guard must allow: personal messages and settings that keep what holds of an open
session. -/
structure GuardKeeps (sdk : Sdk σ κ)
    (Live : Settings → TxContext σ → TxContent → Msg → List Effect → Prop)
    (guard : World σ κ → Event → Bool) : Prop where
  message : ∀ {w : World σ κ} {c : Command} {news s'}, guard w (.apdu c) = true →
    c.isMessage = true → MessageMove sdk c w.session news s' →
      w.session.txContext.initialized = true → LiveIn Live w.session w.trace →
        LiveIn Live s' w.trace
  toggle : ∀ {w : World σ κ} {setting : Setting}, guard w (.toggleSetting setting) = true →
    w.session.txContext.initialized = true → LiveIn Live w.session w.trace →
      LiveIn Live { w.session with settings := w.session.settings.toggle setting } w.trace

variable {version : AppVersion} {guard : World σ κ → Event → Bool}

theorem SessionRules.guarded (rules : SessionRules sdk Live Asked Entry)
    (keeps : GuardKeeps sdk Live guard) {w w' : World σ κ} {e : Event}
    (inv : SessionInv Live Asked w.session w.trace) (ok : guard w e = true)
    (stepped : step sdk version w e = some w') :
    ∃ news, w'.trace = news ++ w.trace ∧
      Kept Live Asked Entry w.session.settings w.trace news w'.session := by
  obtain ⟨running, news, trace, moved⟩ := step_moves sdk version w stepped
  refine ⟨news, trace, rules.move inv running ?_ ?_ moved⟩
  · rintro c rfl own - news moved
    exact keeps.message ok own moved
  · rintro setting rfl
    exact keeps.toggle ok

/-- **The invariant of every guarded run, and every entry as claimed under some settings.** -/
theorem SessionRules.run (rules : SessionRules sdk Live Asked Entry)
    (keeps : GuardKeeps sdk Live guard) {b : Boot} {es : List Event} {w : World σ κ}
    (run : AppRun sdk version guard b es w) : SessionInv Live Asked w.session w.trace ∧
      Always (fun entry older => ∃ settings, Entry settings entry older) w.trace := by
  refine Run.preserves (P := fun w => SessionInv Live Asked w.session w.trace ∧
    Always (fun entry older => ∃ settings, Entry settings entry older) w.trace)
    ⟨.start b, by simp [boot]⟩ ?_ run
  rintro w e w' ⟨inv, all⟩ ok stepped
  obtain ⟨news, trace, kept, atop⟩ := rules.guarded keeps inv ok stepped
  rw [trace]
  exact ⟨kept, (atop.mono fun _ _ h => ⟨_, h⟩).always all⟩

end

end TronLedger
