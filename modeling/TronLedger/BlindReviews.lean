import TronLedger.SessionContract
import TronLedger.SessionClosed
import TronLedger.RenderShown

/-!
# Reviews of what the app cannot read

Hashes, typed and personal messages, contracts shown by their hash and calls of unknown
contracts are reviewed under a setting only.

* `blindRefused` says that a completed transaction lacks its setting, `completed` which
  transaction an APDU completes.
* A refused transaction closes its session. A refused message APDU changes nothing, and so
  leaves an open message open.
-/

namespace TronLedger

/-- An instruction that signs what the app cannot read. -/
def Command.isBlind (c : Command) : Bool :=
  c.cla = Ins.cla ∧
    (c.ins = Ins.signTxnHash ∨ c.ins = Ins.signTip712Message ∨ c.ins = Ins.signPersonalMessage)

/-- The call is a transfer or an approval, on a contract of `TOKENS_TRC20`. -/
def RecognisedCall (content : TxContent) : Prop :=
  (content.trc20Method = 1 ∨ content.trc20Method = 2) ∧
    ∃ token ∈ tokensTRC20, token.address = content.contractAddress

/-- The setting a review needs is on. -/
structure BlindGate (settings : Settings) (c : Command) (r : Review) : Prop where
  message : c.isBlind = true → settings.signByHash = true
  byHash : c.isSign = true → r.infos.state = .simpleTransaction → settings.signByHash = true
  call : c.isSign = true → r.content.contractType = .triggerSmart → ¬RecognisedCall r.content →
    settings.customContract = true

/-- Contracts without a review of their own. -/
def ContractType.hashOnly : ContractType → Bool
  | .transfer | .transferAsset | .triggerSmart | .exchangeCreate | .exchangeInject
  | .exchangeWithdraw | .exchangeTransaction | .voteWitness | .freezeBalance | .unfreezeBalance
  | .freezeBalanceV2 | .unfreezeBalanceV2 | .delegateResource | .undelegateResource
  | .withdrawExpireUnfreeze | .withdrawBalance | .accountPermissionUpdate | .invalidContract => false
  | _ => true

/-- The transaction needs a setting that is off. -/
def blindRefused (settings : Settings) (content : TxContent) : Bool :=
  (content.contractType.hashOnly ∧ !settings.signByHash) ∨
    (content.contractType = .triggerSmart ∧ ¬(content.trc20Method = 1 ∨ content.trc20Method = 2) ∧
      !settings.customContract)

section

variable {σ κ : Type} (sdk : Sdk σ κ) (version : AppVersion)

/-- The session whose transaction an APDU completes. -/
def Session.completed (s : Session σ κ) (c : Command) : Option (Session σ κ) :=
  let (v, payload) := s.entering sdk c
  if s.entersSign sdk c ∧ v.txContext.initialized then
    match v.parseStatus payload with
    | .processing => if c.isLast then some (v.parsed payload) else none
    | .finished => some (v.parsed payload)
    | .fault | .missingSettingDataAllowed => none
  else none

variable {sdk version} {s s' t : Session σ κ} {c : Command} {news log : List Effect}

theorem triggerSmartContract_known {content stored : TxContent} {stream : Nanopb.Istream}
    (read : triggerSmartContract content stream = (true, stored))
    (method : stored.trc20Method = 1 ∨ stored.trc20Method = 2) :
    ∃ token ∈ tokensTRC20, token.address = stored.contractAddress := by
  simp only [triggerSmartContract] at read
  split at read
  · simp at read
  · split at read
    · obtain rfl := (Prod.mk.inj read).2
      simp at method
    · rename_i token known
      obtain rfl := (Prod.mk.inj read).2
      exact ⟨token, List.mem_of_find?_eq_some known, by simpa using List.find?_some known⟩

/-- A known token call is recognised on a contract of the table. -/
theorem ContractOf.recognised {content : TxContent} {msg : Msg} (of : ContractOf log content msg)
    (type : content.contractType = .triggerSmart)
    (method : content.trc20Method = 1 ∨ content.trc20Method = 2) : RecognisedCall content := by
  obtain ⟨contract, parameter, stored, named, -, read, -, -, fixed, same⟩ :=
    of.reads (by rw [type]; rfl)
  obtain rfl := fixed (by rw [type]; rfl)
  have method' : named.trc20Method = 1 ∨ named.trc20Method = 2 := by
    rw [same] at method
    exact method
  obtain ⟨token, among, address⟩ := triggerSmartContract_known read method'
  refine ⟨method, token, among, ?_⟩
  rw [same]
  exact address

theorem ContractShows.gate {ctx : RenderContext σ κ} {content : TxContent} {ui shown : Ui}
    {kind : ApprovalState} (shows : ContractShows ctx content ui kind shown) :
    (kind = .simpleTransaction → ctx.settings.signByHash = true) ∧
      (content.contractType.hashOnly = true → ctx.settings.signByHash = true) ∧
      (content.contractType = .triggerSmart →
        ¬(content.trc20Method = 1 ∨ content.trc20Method = 2) → ctx.settings.customContract = true) := by
  unfold ContractShows at shows
  split at shows
  case h_3 type =>
    simp only [type, ContractType.hashOnly, Bool.false_eq_true, false_implies, true_and, true_implies]
    split at shows
    · rename_i method
      exact ⟨by rw [shows.kind_eq]; simp, fun other => absurd method other⟩
    · exact ⟨by rw [shows.kind_eq]; simp, fun _ => shows.allowed⟩
  case h_18 => exact shows.elim
  case h_19 notSmart _ _ _ _ _ _ _ _ _ _ _ _ _ _ _ =>
    exact ⟨fun _ => shows.allowed, fun _ => shows.allowed, fun type => by contradiction⟩
  all_goals
    rename_i type
    refine ⟨?_, by simp [type, ContractType.hashOnly], by simp [type]⟩
    rw [shows.kind_eq]
    simp

/-- A transaction that lacks its setting throws nothing. -/
theorem contractThrows_of_blind {settings : Settings} {content : TxContent}
    (blind : blindRefused settings content = true) : contractThrows settings content = false := by
  simp only [blindRefused, decide_eq_true_eq] at blind
  rcases blind with ⟨hashOnly, -⟩ | ⟨type, method, off⟩
  · have none : printedAmounts content = [] := by
      unfold printedAmounts
      split <;> first | rfl | (rename_i type; simp [type, ContractType.hashOnly] at hashOnly)
    simp [contractThrows, none]
  · have first : refusedFirst settings content = true := by
      simp [refusedFirst, type, method, off]
    simp [contractThrows, first]

/-- A transaction that lacks its setting is refused, and its session closed. -/
theorem signEnd_blind (ends : SignEnd sdk s news s')
    (blind : blindRefused s.settings s.txContent = true) :
    (∃ sw, sw ≠ Sw.ok ∧ news = [.reply [] sw]) ∧ Shut s' := by
  cases ends with
  | refused sw bad normal => exact ⟨⟨sw, bad, rfl⟩, Shut.terminated _⟩
  | thrown e bad throws =>
    simp [Session.throws, renderThrows, contractThrows_of_blind blind] at throws
  | reviewing kind r noSwap own normal printable typed rendered shown =>
    obtain ⟨contacts, residue, before, shows⟩ := Renders.shows rendered
    obtain ⟨-, byHash, call⟩ := shows.contract.gate
    simp only [blindRefused, decide_eq_true_eq] at blind
    rcases blind with ⟨hashOnly, off⟩ | ⟨type, method, off⟩
    · have on : s.settings.signByHash = true := byHash hashOnly
      simp [on] at off
    · have on : s.settings.customContract = true := call type method
      simp [on] at off
  | swapSigned ui data renders | swapFailed ui renders =>
    obtain ⟨contacts, residue, sound⟩ := swapSound_of_renders renders
    simp only [blindRefused, decide_eq_true_eq] at blind
    rcases sound.contract with type | ⟨type, method⟩
    · simp [type, ContractType.hashOnly] at blind
    · simp [type, method, ContractType.hashOnly] at blind

theorem signParse_blind {payload : Bytes} (parse : SignParse sdk c payload s news s')
    (done : (match s.parseStatus payload with
      | .processing => if c.isLast then some (s.parsed payload) else none
      | .finished => some (s.parsed payload)
      | .fault | .missingSettingDataAllowed => none) = some t)
    (blind : blindRefused t.settings t.txContent = true) :
    (∃ sw, sw ≠ Sw.ok ∧ Replied news sw) ∧ (∀ entry ∈ news, entry.isPlain = true) ∧ Shut s' := by
  cases parse with
  | acknowledged status notLast => simp [status, notLast] at done
  | faulted sw bad status => rcases status with status | status <;> simp [status] at done
  | finalises status ends =>
    obtain rfl : s.parsed payload = t := by
      rcases status with ⟨status, last⟩ | status
      · simpa [status, last] using done
      · simpa [status] using done
    obtain ⟨⟨sw, bad, rfl⟩, shut⟩ := signEnd_blind ends blind
    exact ⟨⟨sw, bad, [], rfl⟩, by simp [Effect.isPlain], shut⟩

/-- An APDU of INS_SIGN that completes a transaction without its setting. -/
theorem signMove_blind (moved : SignMove sdk c s news s') (done : s.completed sdk c = some t)
    (blind : blindRefused t.settings t.txContent = true) :
    ((∃ sw, sw ≠ Sw.ok ∧ Replied news sw) ∨ s'.exited = true) ∧
      (∀ entry ∈ news, entry.isPlain = true) ∧ (s'.exited = false → Shut s') := by
  unfold Session.completed at done
  cases moved with
  | early sw content answered => simp [answered] at done
  | enters entered entry chunk =>
    rename_i first news v payload
    have plain : ∀ e ∈ first, e.isPlain = true := by cases entry <;> simp [Effect.isPlain]
    rw [entry.entering_eq] at done
    simp only [entered, true_and] at done
    -- hashing a payload and the mark of a swap change nothing that is looked at
    have parsed {u : Session σ κ} {rest before : List Effect}
        (hashed : u = { v.hashed sdk payload with swapResponseReady := u.swapResponseReady })
        (quiet : ∀ e ∈ before, e.isPlain = true) (isOpen : v.txContext.initialized = true)
        (parse : SignParse sdk c payload u rest s') :
        ((∃ sw, sw ≠ Sw.ok ∧ Replied (rest ++ before ++ first) sw) ∨ s'.exited = true) ∧
          (∀ entry ∈ rest ++ before ++ first, entry.isPlain = true) ∧ (s'.exited = false → Shut s') := by
      rw [if_pos isOpen] at done
      have status : u.parseStatus payload = v.parseStatus payload := by rw [hashed]; rfl
      have content : (u.parsed payload).txContent = (v.parsed payload).txContent := by
        rw [hashed]; rfl
      have settings : (u.parsed payload).settings = (v.parsed payload).settings := by
        rw [hashed]; rfl
      have found : t = v.parsed payload := by
        revert done
        split
        · split <;> simp +contextual [eq_comm]
        all_goals simp +contextual [eq_comm]
      have done' : (match u.parseStatus payload with
          | .processing => if c.isLast then some (u.parsed payload) else none
          | .finished => some (u.parsed payload)
          | .fault | .missingSettingDataAllowed => none) = some (u.parsed payload) := by
        rw [status]
        revert done
        split
        · split <;> simp
        all_goals simp
      obtain ⟨⟨sw, bad, data, head⟩, quiet', shut⟩ := signParse_blind parse done' (by
        rw [content, settings, ← found]
        exact blind)
      refine ⟨.inl ⟨sw, bad, data, ?_⟩, fun e among => ?_, fun _ => shut⟩
      · cases rest with
        | nil => simp at head
        | cons entry rest => exact head
      · simp only [List.mem_append] at among
        rcases among with (among | among) | among
        · exact quiet' e among
        · exact quiet e among
        · exact plain e among
    cases chunk with
    | closed notOpen => simp [notOpen] at done
    | exits => exact ⟨.inr rfl, by simpa [Effect.isPlain, or_imp, forall_and] using plain, by simp⟩
    | parses isOpen _ parse => exact parsed rfl (by simp [Effect.isPlain]) isOpen parse
    | swapParses isOpen _ _ parse => exact parsed rfl (by simp [Effect.isPlain]) isOpen parse

/-- An exited app does nothing more. -/
theorem closed_of_exited {w : World σ κ} (exited : w.app.exited = true) : Closed sdk version w := by
  intro es w' c w'' _ computed _ stepped
  have stuck (e : Event) : step sdk version w e = none := by simp [step, exited]
  cases es with
  | nil =>
    obtain rfl : w = w' := by simpa [exec] using computed
    simp [stuck] at stepped
  | cons e es => simp [exec, stuck] at computed

/-- With the setting off, a message or a bare hash is refused and changes nothing. -/
theorem blind_refused (w : World σ κ) (blind : c.isBlind = true)
    (off : w.app.settings.signByHash = false) :
    ∃ sw, sw ≠ Sw.ok ∧ (apduDispatcher sdk version c w).trace = .reply [] sw :: w.trace ∧
      (apduDispatcher sdk version c w).session = w.session := by
  simp only [Command.isBlind, decide_eq_true_eq] at blind
  obtain ⟨cla, ins⟩ := blind
  have notKey : c.ins ≠ Ins.getPublicKey := by rcases ins with ins | ins | ins <;> rw [ins] <;> decide
  have notSign : c.ins ≠ Ins.sign := by rcases ins with ins | ins | ins <;> rw [ins] <;> decide
  have off' : w.forgetContacts.app.settings.signByHash = false := off
  unfold apduDispatcher
  rw [if_neg (by simp [cla])]
  dsimp only
  split
  · exact ⟨_, by decide, rfl, rfl⟩
  unfold dispatchIns
  rw [if_neg notKey, if_neg notSign]
  rcases ins with ins | ins | ins
  · rw [if_pos ins]
    unfold handleSignByHash
    split
    · exact ⟨_, by decide, rfl, rfl⟩
    · rw [if_pos (by simp [off'])]
      exact ⟨_, by decide, rfl, rfl⟩
  · rw [ins, if_neg (by decide), if_neg (by decide), if_neg (by decide), if_neg (by decide),
      if_pos (by decide)]
    unfold handleSignTIP712Message
    rw [if_pos (by simp [off'])]
    exact ⟨_, by decide, rfl, rfl⟩
  · rw [ins, if_neg (by decide), if_neg (by decide), if_neg (by decide), if_pos (by decide)]
    unfold handleSignPersonalMessage
    rw [if_pos (by simp [off'])]
    exact ⟨_, by decide, rfl, rfl⟩

theorem gate_of_shows {settings : Settings} {r : Review}
    (shows : ShowsSession sdk settings (.review r) log)
    (own : (lastCommand log).any Command.isSign = true) :
    (r.infos.state = .simpleTransaction → settings.signByHash = true) ∧
      (r.content.contractType = .triggerSmart → ¬RecognisedCall r.content →
        settings.customContract = true) := by
  obtain ⟨s, rfl, -, contract, renders, shown⟩ := shows own
  obtain ⟨contacts, residue, before, shows⟩ := Renders.shows renders
  obtain ⟨byHash, -, call⟩ := shows.contract.gate
  refine ⟨byHash, fun type unknown => ?_⟩
  have content_eq : r.content = renderedContent s.txContent := shown.content_eq
  have kept : (renderedContent s.txContent).contractType = s.txContent.contractType := by
    unfold renderedContent
    split <;> rfl
  rw [content_eq, kept] at type
  have same : renderedContent s.txContent = s.txContent := by
    simp [renderedContent, type]
  rw [content_eq, same] at unknown
  exact call type fun method => unknown (contract.recognised type method)

/-- An APDU adds itself to the log, and then no other. -/
theorem apduMove_noApdu (moved : ApduMove sdk c s news s') : ∀ other, .apdu other ∉ news := by
  intro other among
  cases moved with
  | sign _ moved => simpa [Effect.fromSign] using signMove_news moved _ among
  | message _ _ moved => exact (messageMove_session moved).2.2 other among
  | other _ _ moved => simpa [Effect.fromOther] using otherMove_news moved _ among

/-- What brings no APDU leaves the last command. -/
theorem lastCommand_silent (noApdu : ∀ other, .apdu other ∉ news) :
    lastCommand (news ++ log) = lastCommand log := by
  induction news with
  | nil => rfl
  | cons entry news ih =>
    have behind := ih fun other among => noApdu other (List.mem_cons_of_mem _ among)
    cases entry with
    | apdu other => exact absurd List.mem_cons_self (noApdu other)
    | _ => exact behind

theorem lastCommand_news (noApdu : ∀ other, .apdu other ∉ news) :
    lastCommand (news ++ .apdu c :: log) = some c := by
  rw [lastCommand_silent noApdu, lastCommand]

/-- What an APDU adds to the log comes with that APDU as the last command. -/
theorem lastCommand_over (noApdu : ∀ other, .apdu other ∉ news) :
    AlwaysOver (fun entry older => entry = .apdu c ∨ lastCommand older = some c) (news ++ [.apdu c])
      log := by
  induction news with
  | nil => exact ⟨.inl rfl, trivial⟩
  | cons entry news ih =>
    have behind : ∀ other, .apdu other ∉ news := fun other among =>
      noApdu other (List.mem_cons_of_mem _ among)
    refine ⟨.inr ?_, ih behind⟩
    change lastCommand (news ++ [.apdu c] ++ log) = some c
    rw [List.append_assoc]
    exact lastCommand_news behind

/-- Every review an APDU starts is claimed of with that APDU as the last command. -/
theorem review_claimed {P : Effect → List Effect → Prop} {r : Review}
    (atop : AlwaysOver P (news ++ [.apdu c]) log) (noApdu : ∀ other, .apdu other ∉ news)
    (shown : .review r ∈ news ++ [.apdu c]) :
    ∃ older, P (.review r) older ∧ lastCommand older = some c := by
  have among : .review r ∈ news := by simpa using shown
  obtain ⟨newer, older, rfl, -⟩ := (alwaysOver_append.mp atop).1.at_mem among
  have holds := (alwaysOver_append.mp (alwaysOver_append.mp atop).1).2.1
  refine ⟨_, holds, ?_⟩
  exact lastCommand_news fun other later => noApdu other (by simp [later])

/-- **In every step of every run, a blind review is started under its setting only. Without it a
message or a bare hash is refused and changes nothing, and a transaction is refused and its
session closed.** -/
theorem blind_reviews_gated {b : Boot} {es : List Event} {w w' : World σ κ}
    (run : AppRun sdk version anyStep b es w) (stepped : step sdk version w (.apdu c) = some w') :
    ∃ news, w'.trace = news ++ w.trace ∧
      (∀ r, .review r ∈ news → BlindGate w.app.settings c r) ∧
      (c.isBlind = true → w.app.settings.signByHash = false →
        w'.session = w.session ∧ ∃ sw, sw ≠ Sw.ok ∧ news = [.reply [] sw, .apdu c]) ∧
      (c.isSign = true → ∀ t, w.session.completed sdk c = some t →
        blindRefused t.settings t.txContent = true →
          ((∃ sw, sw ≠ Sw.ok ∧ Replied news sw) ∨ w'.app.exited = true) ∧
            (∀ entry ∈ news, entry.isPlain = true) ∧ Closed sdk version w') := by
  obtain ⟨news, trace, atop⟩ := run.stepShows stepped
  obtain ⟨running, news', trace', moved⟩ := step_moves sdk version w stepped
  obtain rfl : news = news' := by
    rw [trace] at trace'
    exact List.append_cancel_right trace'
  have blind (own : c.isBlind = true) (off : w.app.settings.signByHash = false) :
      w'.session = w.session ∧ ∃ sw, sw ≠ Sw.ok ∧ news = [.reply [] sw, .apdu c] := by
    have idle : w.app.pending = none := by
      cases moved with
      | apdu _ idle => exact idle
    obtain ⟨sw, bad, trace', session⟩ := blind_refused (w.receive c) own off
    have after : apduDispatcher sdk version c (w.receive c) = w' := by
      have stepped := stepped
      simp only [step, running, idle] at stepped
      simpa using stepped
    rw [after] at trace' session
    refine ⟨session, sw, bad, (List.append_left_inj w.trace).mp ?_⟩
    rw [← trace, trace']
    rfl
  cases moved with
  | apdu _ idle moved =>
    rename_i rest
    refine ⟨rest ++ [.apdu c], trace, fun r shown => ⟨fun own => ?_, fun own kind => ?_, fun own => ?_⟩,
      blind, fun own t done lacks => ?_⟩
    · by_contra off
      obtain ⟨-, sw, -, same⟩ := blind own (by simpa using off)
      simp [same] at shown
    · obtain ⟨older, shows, last⟩ := review_claimed atop (apduMove_noApdu moved) shown
      exact (gate_of_shows shows (by rw [last]; exact own)).1 kind
    · obtain ⟨older, shows, last⟩ := review_claimed atop (apduMove_noApdu moved) shown
      exact (gate_of_shows shows (by rw [last]; exact own)).2
    · cases moved with
      | sign _ moved =>
        obtain ⟨ends, plain, shut⟩ := signMove_blind moved done lacks
        refine ⟨?_, fun e among => ?_, ?_⟩
        · rcases ends with ⟨sw, bad, data, head⟩ | exited
          · refine .inl ⟨sw, bad, data, ?_⟩
            cases rest with
            | nil => simp at head
            | cons entry rest => exact head
          · exact .inr exited
        · rcases List.mem_append.mp among with among | among
          · exact plain e among
          · rw [List.mem_singleton.mp among]
            rfl
        · cases exited : w'.app.exited with
          | true => exact closed_of_exited exited
          | false => exact closed_of_shut (shut exited)
      | message message => simp [isSign_not_isMessage own] at message
      | other notSign => simp [own] at notSign

end

/-- Two bytes of a personal message; between them the setting is turned off and on again, with an
APDU that is refused. -/
def resumedMessage : List Event := [
  command Ins.signPersonalMessage P1.first 0 (pathBytes 0 ++ [0, 0, 0, 2, 0x68]),
  .toggleSetting .signByHash,
  command Ins.signPersonalMessage P1.more 0 [0x69],
  .toggleSetting .signByHash,
  command Ins.signPersonalMessage P1.more 0 [0x69],
  .answer true]

/-- The refused message is signed all the same, once the setting is on again. -/
theorem resumed_message_signed : ∃ w, AppRun device deviceVersion anyStep deviceBoot resumedMessage w ∧
    .reply [] .missingSettingSignByHash ∈ w.trace ∧ (signatures w.trace).length = 1 ∧
    (w.trace.filter fun entry => match entry with
      | .messageStart _ => true
      | _ => false).length = 1 := by
  obtain ⟨w, run, found⟩ := Run.exists_of_exec (step device deviceVersion) anyStep
    (boot device deviceBoot) resumedMessage
    (fun w => w.trace.contains (.reply [] .missingSettingSignByHash) &&
      (signatures w.trace).length = 1 && (w.trace.filter fun entry => match entry with
        | .messageStart _ => true
        | _ => false).length = 1)
    (by decide +kernel)
  simp only [Bool.and_eq_true, List.contains_iff_mem, decide_eq_true_eq] at found
  exact ⟨w, run, found.1.1, found.1.2, found.2⟩

/-- A bare hash is refused without the setting. -/
theorem bare_hash_refused : ∃ w w', AppRun device deviceVersion anyStep deviceBoot
    [.toggleSetting .signByHash] w ∧
    step device deviceVersion w (command Ins.signTxnHash 0 0 (pathBytes 0)) = some w' ∧
      w'.session = w.session := by
  obtain ⟨w, run, found⟩ := Run.exists_of_exec (step device deviceVersion) anyStep
    (boot device deviceBoot) [.toggleSetting .signByHash]
    (fun w => !w.app.settings.signByHash &&
      (step device deviceVersion w (command Ins.signTxnHash 0 0 (pathBytes 0))).isSome)
    (by decide +kernel)
  simp only [Bool.and_eq_true, Bool.not_eq_true', Option.isSome_iff_exists] at found
  obtain ⟨off, w', stepped⟩ := found
  obtain ⟨news, -, -, blind, -⟩ := blind_reviews_gated run stepped
  exact ⟨w, w', run, stepped, (blind (by decide) off).1⟩

end TronLedger
