import TronLedger.Moves
import TronLedger.Device

/-!
# After a refusal

Whether INS_SIGN can go on after it answered an APDU with an error. The error exits differ:
a refused rendering closes the session, an early refusal leaves it as it was, a parser error
opens an empty one, and an exception leaves the transaction where it stands.

* `Closed` says that nothing but a new opener gets any further.
* `leavesOpen` says which exits, from which sessions, do not close it.
-/

namespace TronLedger

/-- An APDU that continues a session. -/
def Command.continuesSign (c : Command) : Bool :=
  c.isSign ∧ (c.p1 = P1.more ∨ c.p1 = P1.last ∨ c.p1 &&& 0xF0 = P1.trc10Name)

/-- The event is an accepted opener of INS_SIGN. -/
def opensSession : Event → Bool
  | .apdu c => c.opensSign
  | _ => false

section

variable {σ κ : Type} (sdk : Sdk σ κ) (version : AppVersion)

/-- Until a session is opened again, every APDU that would continue one is refused, and
nothing is hashed, parsed or shown for it. -/
def Closed (w : World σ κ) : Prop :=
  ∀ es w' c w'', es.all (fun e => !opensSession e) = true →
    exec (step sdk version) anyStep w es = some w' → c.continuesSign = true →
    step sdk version w' (.apdu c) = some w'' →
    ∃ sw, sw ≠ Sw.ok ∧ w''.trace = .reply [] sw :: .apdu c :: w'.trace

/-- The app answers an APDU with `sw`, at once or once its review is answered. -/
def Answers (w : World σ κ) (c : Command) (w' : World σ κ) (sw : Sw) : Prop :=
  (∃ data older, w'.trace = .reply data sw :: older) ∧ ∃ w₁, step sdk version w (.apdu c) = some w₁ ∧
    ((w₁ = w' ∧ w₁.app.pending = none) ∨ ∃ confirm, step sdk version w₁ (.answer confirm) = some w')

/-- The session an entered APDU parses its payload in, and the payload. -/
def Session.entering (s : Session σ κ) (c : Command) : Session σ κ × Bytes :=
  if c.isOpener then
    ({ s with path := s.pathWritten c, txContext := ⟨sdk.sha256.init, true⟩, txContent := .empty },
      c.data.drop ((readBip32Path c.data s.path).2.getD 0))
  else if c.p1 &&& 0xF0 = P1.trc10Name then
    ({ s with txContent := metadataContent sdk s.txContent c }, [])
  else (s, c.data)

/-- An APDU answered with an error leaves a session open. -/
def Session.leavesOpen (s : Session σ κ) (c : Command) : Bool :=
  if s.entersSign sdk c then
    let (v, payload) := s.entering sdk c
    v.txContext.initialized &&
      match v.parseStatus payload with
      | .fault | .missingSettingDataAllowed => true
      | .processing => c.isLast && (v.parsed payload).throws
      | .finished => (v.parsed payload).throws
  -- refused before anything is hashed
  else s.txContext.initialized

variable {sdk version} {s s' : Session σ κ} {c : Command} {news : List Effect}

theorem SignEntry.entering_eq {first : List Effect} {v : Session σ κ} {payload : Bytes}
    (entry : SignEntry sdk c s first v payload) : s.entering sdk c = (v, payload) := by
  cases entry with
  | opens n opener read => simp [Session.entering, opener, read]
  | metadata name opener type => simp [Session.entering, opener, name]
  | continues p1 =>
    have opener : c.isOpener = false := by
      rcases p1 with p1 | p1 <;> simp [Command.isOpener, p1, P1.more, P1.last, P1.first, P1.sign]
    have name : c.p1 &&& 0xF0 ≠ P1.trc10Name := by
      rcases p1 with p1 | p1 <;> rw [p1] <;> decide
    simp [Session.entering, opener, name]

/-- The newest entry is the reply `sw`. -/
def Replied (news : List Effect) (sw : Sw) : Prop := ∃ data, news.head? = some (.reply data sw)

/-- The reply stands in front of an older entry that is none. -/
theorem Replied.before {entry : Effect} {rest : List Effect} {sw : Sw}
    (h : Replied (news ++ entry :: rest) sw) (other : ∀ data, entry ≠ .reply data sw) :
    Replied news sw := by
  obtain ⟨data, head⟩ := h
  cases news with
  | nil => exact absurd (by simpa using head) (other data)
  | cons first news => exact ⟨data, by simpa using head⟩

theorem SignEntry.replied {first : List Effect} {v : Session σ κ} {payload : Bytes} {sw : Sw}
    (entry : SignEntry sdk c s first v payload) (h : Replied (news ++ first) sw) :
    Replied news sw := by
  cases entry with
  | opens => exact h.before (by simp)
  | metadata | continues => simpa using h

/-- What the end of a transaction that was answered with an error leaves open. -/
theorem signEnd_answer (ends : SignEnd sdk s news s') {sw : Sw} (answer : Replied news sw)
    (bad : sw ≠ .ok) (isOpen : s.txContext.initialized = true) :
    s'.txContext.initialized = s.throws := by
  obtain ⟨data, head⟩ := answer
  cases ends with
  | refused sw' bad' normal => rw [normal]; rfl
  | thrown e bad' throws => rw [throws]; exact isOpen
  | reviewing => simp at head
  | swapSigned ui data' sound =>
    obtain ⟨-, rfl⟩ : data' = data ∧ Sw.ok = sw := by simpa using head
    exact absurd rfl bad
  | swapFailed ui sound =>
    obtain ⟨contacts, residue, normal, -⟩ := Renders.sound sdk sound
    rw [normal]
    rfl

theorem signParse_answer {payload : Bytes} (parse : SignParse sdk c payload s news s') {sw : Sw}
    (answer : Replied news sw) (bad : sw ≠ .ok) (isOpen : s.txContext.initialized = true) :
    s'.txContext.initialized =
      match s.parseStatus payload with
      | .fault | .missingSettingDataAllowed => true
      | .processing => c.isLast && (s.parsed payload).throws
      | .finished => (s.parsed payload).throws := by
  cases parse with
  | acknowledged =>
    obtain ⟨data, head⟩ := answer
    obtain ⟨-, rfl⟩ : ([] : Bytes) = data ∧ Sw.ok = sw := by simpa using head
    exact absurd rfl bad
  | faulted sw' bad' status => rcases status with status | status <;> rw [status] <;> rfl
  | finalises status ends =>
    rw [signEnd_answer ends (answer.before (by simp)) bad isOpen]
    rcases status with ⟨status, last⟩ | status
    · simp [status, last]
    · simp [status]

/-- What an APDU of INS_SIGN that is answered with an error leaves open. -/
theorem signMove_answer (moved : SignMove sdk c s news s') {sw : Sw}
    (answer : Replied news sw) (bad : sw ≠ .ok) :
    s'.txContext.initialized = s.leavesOpen sdk c := by
  cases moved with
  | early sw' content answered => simp [Session.leavesOpen, answered]
  | enters entered entry chunk =>
    have answer := entry.replied answer
    simp only [Session.leavesOpen, entered, if_true, entry.entering_eq]
    cases chunk with
    | closed notOpen => simp [notOpen]
    | exits =>
      obtain ⟨data, head⟩ := answer
      simp at head
    | parses isOpen noSwap parse =>
      rw [signParse_answer parse (answer.before (by simp)) bad isOpen, isOpen, Bool.true_and]
      rfl
    | swapParses isOpen swap ready parse =>
      rw [signParse_answer parse (answer.before (by simp)) bad isOpen, isOpen, Bool.true_and]
      rfl

section Runs

/-- No session is open, and there is no contract a metadata APDU could be about. -/
def Shut (s : Session σ κ) : Prop :=
  s.txContext.initialized = false ∧ s.txContent.contractType = .invalidContract

/-- A session that is not open is shut. -/
def Dormant (s : Session σ κ) : Prop := s.txContext.initialized = false → Shut s

/-- With no session open, INS_SIGN refuses everything but an opener. -/
theorem signMove_shut (own : c.isSign = true) (noOpener : c.opensSign = false)
    (shut : Shut s) (moved : SignMove sdk c s news s') :
    Shut s' ∧ ∃ sw, sw ≠ Sw.ok ∧ news = [.reply [] sw] := by
  have noMetadata : s.txContent.contractType.takesMetadata = false := by rw [shut.2]; rfl
  cases moved with
  | early sw content answered change fixed =>
    obtain ⟨rfl, bad⟩ := fixed noMetadata
    exact ⟨shut, sw, bad, rfl⟩
  | enters entered entry chunk =>
    cases entry with
    | opens n opener read =>
      simp only [Session.entersSign, opener, if_true, decide_eq_true_eq] at entered
      simp only [Command.opensSign, own, entered.1, opener, path_isSome s.path, entered.2] at noOpener
      simp at noOpener
    | metadata name opener type =>
      rw [noMetadata] at type
      simp at type
    | continues p1 =>
      cases chunk with
      | closed => exact ⟨shut, _, by decide, rfl⟩
      | exits isOpen => simp [shut.1] at isOpen
      | parses isOpen => simp [shut.1] at isOpen
      | swapParses isOpen => simp [shut.1] at isOpen

theorem messageMove_content (moved : MessageMove sdk c s news s') :
    s'.txContext = s.txContext ∧ s'.txContent.contractType = s.txContent.contractType := by
  cases moved with
  | refused => exact ⟨rfl, rfl⟩
  | badOpening => exact ⟨rfl, rfl⟩
  | enters entry chunk =>
    cases entry <;> cases chunk with
    | completes _ _ _ ends => cases ends <;> exact ⟨rfl, rfl⟩
    | _ => exact ⟨rfl, rfl⟩

theorem otherMove_content (moved : OtherMove c s news s') :
    s'.txContext = s.txContext ∧ s'.txContent = s.txContent := by
  obtain ⟨hash, ends⟩ := moved
  cases ends <;> exact ⟨rfl, rfl⟩

theorem Shut.of_eq (shut : Shut s) (context : s'.txContext = s.txContext)
    (type : s'.txContent.contractType = s.txContent.contractType) : Shut s' :=
  ⟨by rw [context]; exact shut.1, by rw [type]; exact shut.2⟩

theorem Shut.terminated (s : Session σ κ) : Shut (s.terminated sdk) := ⟨rfl, rfl⟩

theorem answerMove_shut {state : ApprovalState} (moved : AnswerMove sdk s state news s') :
    (s'.txContext = s.txContext ∧ s'.txContent = s.txContent) ∨ s' = s.terminated sdk := by
  cases moved with
  | signed | closed => exact .inr rfl
  | _ => exact .inl ⟨rfl, rfl⟩

/-- Without an opener a shut session stays shut. -/
theorem move_shut {e : Event} (moved : Move sdk s e news s') (noOpener : opensSession e = false)
    (shut : Shut s) : Shut s' := by
  cases moved with
  | apdu c idle moved =>
    cases moved with
    | sign own moved => exact (signMove_shut own noOpener shut moved).1
    | message own noSwap moved =>
      obtain ⟨context, type⟩ := messageMove_content moved
      exact shut.of_eq context type
    | other notSign notMessage moved =>
      obtain ⟨context, content⟩ := otherMove_content moved
      exact shut.of_eq context (by rw [content])
  | answer confirm asked moved =>
    rcases answerMove_shut moved with ⟨context, content⟩ | rfl
    · exact shut.of_eq context (by rw [content])
    · exact .terminated _
  | badFrame | toggleSetting | setContacts => exact shut
  | ioReset => exact ⟨rfl, rfl⟩

theorem signMove_dormant (moved : SignMove sdk c s news s') (dormant : Dormant s) : Dormant s' := by
  have parsed {payload : Bytes} {v v' : Session σ κ} {rest : List Effect}
      (parse : SignParse sdk c payload v rest v') (isOpen : v.txContext.initialized = true) :
      Dormant v' := by
    cases parse with
    | acknowledged => simp [Dormant, Session.parsed, isOpen]
    | faulted => simp [Dormant, Session.reinitialised]
    | finalises status ends =>
      cases ends with
      | thrown => simp [Dormant, Session.finished, Session.parsed, isOpen]
      | reviewing => simp [Dormant, Session.finished, Session.parsed, isOpen]
      | _ => exact fun _ => .terminated _
  cases moved with
  | early sw content answered change fixed =>
    intro notOpen
    exact ⟨notOpen, change.change.contractType.trans (dormant notOpen).2⟩
  | enters entered entry chunk =>
    cases chunk with
    | closed notOpen =>
      cases entry with
      | opens => simp at notOpen
      | metadata =>
        exact fun _ => ⟨notOpen, (metadataContent_step sdk _ c).change.contractType.trans (dormant notOpen).2⟩
      | continues => exact dormant
    | exits isOpen => simp [Dormant, Session.hashed, isOpen]
    | parses isOpen noSwap parse => exact parsed parse isOpen
    | swapParses isOpen swap ready parse => exact parsed parse isOpen

theorem move_dormant {e : Event} (moved : Move sdk s e news s') (dormant : Dormant s) :
    Dormant s' := by
  cases moved with
  | apdu c idle moved =>
    cases moved with
    | sign own moved => exact signMove_dormant moved dormant
    | message own noSwap moved =>
      obtain ⟨context, type⟩ := messageMove_content moved
      exact fun notOpen => (dormant (by rwa [context] at notOpen)).of_eq context type
    | other notSign notMessage moved =>
      obtain ⟨context, content⟩ := otherMove_content moved
      exact fun notOpen => (dormant (by rwa [context] at notOpen)).of_eq context (by rw [content])
  | answer confirm asked moved =>
    rcases answerMove_shut moved with ⟨context, content⟩ | rfl
    · exact fun notOpen => (dormant (by rwa [context] at notOpen)).of_eq context (by rw [content])
    · exact fun _ => .terminated _
  | badFrame | toggleSetting | setContacts => exact dormant
  | ioReset => exact fun _ => ⟨rfl, rfl⟩

/-- In every run, a session that is not open is shut. -/
theorem dormant_of_run {guard : World σ κ → Event → Bool} {b : Boot} {es : List Event}
    {w : World σ κ} (run : AppRun sdk version guard b es w) : Dormant w.session :=
  AppRun.preserves sdk version w (P := fun s _ => Dormant s) (fun _ => ⟨rfl, rfl⟩)
    (fun _ _ _ _ dormant _ _ moved => move_dormant moved dormant) run

theorem exec_shut {es : List Event} {w w' : World σ κ}
    (noOpener : es.all (fun e => !opensSession e) = true)
    (computed : exec (step sdk version) anyStep w es = some w') (shut : Shut w.session) :
    Shut w'.session := by
  induction es generalizing w with
  | nil =>
    obtain rfl : w = w' := by simpa [exec] using computed
    exact shut
  | cons e es ih =>
    rw [List.all_cons, Bool.and_eq_true] at noOpener
    rw [exec] at computed
    split at computed
    · simp at computed
    · rename_i mid stepped
      obtain ⟨-, news, -, moved⟩ := step_moves sdk version w stepped
      exact ih noOpener.2 (by simpa [anyStep] using computed)
        (move_shut moved (by simpa using noOpener.1) shut)

theorem continuesSign_noOpener (h : c.continuesSign = true) : c.opensSign = false := by
  simp only [Command.continuesSign, decide_eq_true_eq] at h
  have opener : c.isOpener = false := by
    simp only [Command.isOpener, decide_eq_false_iff_not]
    rintro (p1 | p1) <;> rw [p1] at h <;> exact absurd h.2 (by decide)
  simp [Command.opensSign, opener]

/-- With no session open, only an opener gets any further. -/
theorem closed_of_shut {w : World σ κ} (shut : Shut w.session) : Closed sdk version w := by
  intro es w' c w'' noOpener computed continues stepped
  have own : c.isSign = true := by
    simp only [Command.continuesSign, decide_eq_true_eq] at continues
    exact continues.1
  obtain ⟨-, news, trace, moved⟩ := step_moves sdk version w' stepped
  generalize w''.session = s' at moved
  cases moved with
  | apdu c idle moved =>
    cases moved with
    | sign _ moved =>
      obtain ⟨-, sw, bad, rfl⟩ := signMove_shut own (continuesSign_noOpener continues)
        (exec_shut noOpener computed shut) moved
      exact ⟨sw, bad, trace⟩
    | message other =>
      rw [isSign_not_isMessage own] at other
      simp at other
    | other notSign =>
      rw [own] at notSign
      simp at notSign

/-- In an open session, an APDU that is entered is hashed. -/
theorem signMove_hashes (moved : SignMove sdk c s news s') (entered : s.entersSign sdk c = true)
    (isOpen : s.txContext.initialized = true) : ∃ payload, .hashTx payload ∈ news := by
  cases moved with
  | early sw content answered =>
    rw [entered] at answered
    simp at answered
  | enters _ entry chunk =>
    rename_i first news v payload
    refine ⟨payload, ?_⟩
    cases chunk with
    | closed notOpen => cases entry <;> simp [isOpen] at notOpen
    | exits | parses | swapParses => simp

theorem more_enters (p1 : c.p1 = P1.more) (p2 : c.p2 = 0) : s.entersSign sdk c = true := by
  have opener : c.isOpener = false := by simp [Command.isOpener, p1, P1.more, P1.first, P1.sign]
  have name : ¬P1.more &&& 0xF0 = P1.trc10Name := by decide
  simp [Session.entersSign, opener, name, p1, p2]

/-- An open session that waits for an APDU goes on with an empty `P1_MORE`. -/
theorem not_closed_of_open {w : World σ κ} (isOpen : w.session.txContext.initialized = true)
    (running : w.app.exited = false) (idle : w.app.pending = none) : ¬Closed sdk version w := by
  intro closed
  let c : Command := ⟨Ins.cla, Ins.sign, P1.more, 0, [], by decide⟩
  have stepped : step sdk version w (.apdu c) = some (apduDispatcher sdk version c (w.receive c)) := by
    simp [step, running, idle]
  obtain ⟨sw, bad, answer⟩ := closed [] w c _ rfl rfl (by decide) stepped
  obtain ⟨-, news, trace, moved⟩ := step_moves sdk version w stepped
  rw [trace] at answer
  have refused : news = [.reply [] sw, .apdu c] := List.append_cancel_right answer
  generalize (apduDispatcher sdk version c (w.receive c)).session = s' at moved
  cases moved with
  | apdu _ idle moved =>
    cases moved with
    | sign _ moved =>
      obtain ⟨payload, hashed⟩ := signMove_hashes moved (more_enters rfl rfl) isOpen
      have : Effect.hashTx payload ∈ [Effect.reply [] sw, .apdu c] :=
        refused ▸ List.mem_append_left _ hashed
      simp at this
    | message other => simp [c, Command.isMessage, Ins.sign, Ins.signPersonalMessage] at other
    | other notSign => simp [c, Command.isSign] at notSign

end Runs

section Answered

theorem signEnd_asks (ends : SignEnd sdk s news s') :
    ((∃ sw, Replied news sw) ∧ s'.exited = s.exited ∧ s'.pending = s.pending) ∨
      ((∃ r, news = [.review r]) ∧ s.throws = false ∧
        ∃ kind, s'.pending = some kind ∧ kind.isTransaction = true) := by
  cases ends with
  | reviewing kind r noSwap own normal => exact .inr ⟨⟨r, rfl⟩, normal, kind, rfl, own⟩
  | _ => exact .inl ⟨⟨_, _, rfl⟩, rfl, rfl⟩

/-- An APDU of INS_SIGN is answered, or starts a review of a transaction that does not throw,
or ends the app. -/
theorem signMove_asks (moved : SignMove sdk c s news s') :
    ((∃ sw, Replied news sw) ∧ s'.exited = s.exited ∧ s'.pending = s.pending) ∨
      ((∃ r older, news = .review r :: older) ∧ s.leavesOpen sdk c = false ∧
        ∃ kind, s'.pending = some kind ∧ kind.isTransaction = true) ∨
      ((∃ older, news = .exit :: older) ∧ s'.pending = s.pending) := by
  have appended {news first : List Effect} : (∃ sw, Replied news sw) → ∃ sw, Replied (news ++ first) sw := by
    rintro ⟨sw, data, head⟩
    exact ⟨sw, data, by rw [List.head?_append, head]; rfl⟩
  have parsed {payload : Bytes} {v v' : Session σ κ} {rest first : List Effect}
      (parse : SignParse sdk c payload v rest v') : 
      ((∃ sw, Replied (rest ++ first) sw) ∧ v'.exited = v.exited ∧ v'.pending = v.pending) ∨
        ((∃ r older, rest ++ first = .review r :: older) ∧ (v.parsed payload).throws = false ∧
          (v.parseStatus payload = .processing ∨ v.parseStatus payload = .finished) ∧
          ∃ kind, v'.pending = some kind ∧ kind.isTransaction = true) := by
    cases parse with
    | acknowledged => exact .inl ⟨appended ⟨_, _, rfl⟩, rfl, rfl⟩
    | faulted => exact .inl ⟨appended ⟨_, _, rfl⟩, rfl, rfl⟩
    | finalises status ends =>
      rcases signEnd_asks ends with ⟨answer, exited, pending⟩ | ⟨⟨r, rfl⟩, normal, asks⟩
      · exact .inl ⟨appended (appended answer), exited, pending⟩
      · exact .inr ⟨⟨r, _, rfl⟩, normal, status.imp And.left id, asks⟩
  cases moved with
  | early => exact .inl ⟨⟨_, _, rfl⟩, rfl, rfl⟩
  | enters entered entry chunk =>
    have same := entry.entering_eq
    have kept : ∀ {v : Session σ κ} {payload : Bytes} {first : List Effect},
        SignEntry sdk c s first v payload → v.exited = s.exited ∧ v.pending = s.pending := by
      rintro v payload first (_ | _ | _) <;> exact ⟨rfl, rfl⟩
    obtain ⟨exited', pending'⟩ := kept entry
    have leaves {payload : Bytes} {v : Session σ κ} (same : s.entering sdk c = (v, payload))
        (normal : (v.parsed payload).throws = false)
        (status : v.parseStatus payload = .processing ∨ v.parseStatus payload = .finished) :
        s.leavesOpen sdk c = false := by
      simp only [Session.leavesOpen, entered, if_true, same]
      rcases status with status | status <;> simp [status, normal]
    cases chunk with
    | closed => exact .inl ⟨⟨_, _, rfl⟩, exited', pending'⟩
    | exits => exact .inr (.inr ⟨⟨_, rfl⟩, pending'⟩)
    | parses isOpen noSwap parse =>
      rw [List.append_assoc]
      rcases parsed parse with ⟨answer, exited, pending⟩ | ⟨review, normal, status, asks⟩
      · exact .inl ⟨answer, exited.trans exited', pending.trans pending'⟩
      · exact .inr (.inl ⟨review, leaves same normal status, asks⟩)
    | swapParses isOpen swap ready parse =>
      rw [List.append_assoc]
      rcases parsed parse with ⟨answer, exited, pending⟩ | ⟨review, normal, status, asks⟩
      · exact .inl ⟨answer, exited.trans exited', pending.trans pending'⟩
      · exact .inr (.inl ⟨review, leaves same normal status, asks⟩)

/-- An answer to a review of INS_SIGN closes the session. -/
theorem answer_shut {state : ApprovalState} (own : state.isTransaction = true)
    (moved : AnswerMove sdk s state news s') : s' = s.terminated sdk := by
  cases moved with
  | closed => rfl
  | signed => rfl
  | shared _ _ other => simp [own] at other
  | sharedTyped _ _ _ typed => subst typed; simp [ApprovalState.isTransaction] at own
  | messageSigned _ message => subst message; simp [ApprovalState.isTransaction] at own
  | messageFailed _ _ message => subst message; simp [ApprovalState.isTransaction] at own

/-- **After INS_SIGN answers an APDU with an error, the session is closed exactly when the APDU
was not refused early with a session open, not refused by the parser, and rendered without an
exception.** -/
theorem closed_iff {b : Boot} {es : List Event} {w w' : World σ κ} {sw : Sw}
    (run : AppRun sdk version anyStep b es w) (own : c.isSign = true)
    (answers : Answers sdk version w c w' sw) (bad : sw ≠ .ok) :
    Closed sdk version w' ↔ w.session.leavesOpen sdk c = false := by
  obtain ⟨⟨data, older, head⟩, w₁, stepped, ends⟩ := answers
  have dormant := dormant_of_run run
  obtain ⟨running, news, trace, moved⟩ := step_moves sdk version w stepped
  have dormant₁ : Dormant w₁.session := move_dormant moved dormant
  generalize left : w₁.session = s₁ at moved
  cases moved with
  | apdu _ idle moved =>
    rename_i news
    have moved : SignMove sdk c w.session news s₁ := by
      cases moved with
      | sign _ moved => exact moved
      | message other =>
        rw [isSign_not_isMessage own] at other
        simp at other
      | other notSign =>
        rw [own] at notSign
        simp at notSign
    rw [List.append_assoc] at trace
    rcases ends with ⟨rfl, waits⟩ | ⟨confirm, answered⟩
    · -- answered at once
      have answer : Replied news sw := by
        have first : Replied (news ++ .apdu c :: w.trace) sw := by
          refine ⟨data, ?_⟩
          rw [← List.singleton_append, ← trace, head]
          rfl
        exact first.before (by simp)
      have leaves := signMove_answer moved answer bad
      rw [← leaves, ← left]
      have runs : w₁.app.exited = false := by
        have : s₁.exited = w.session.exited := by
          rcases signMove_asks moved with ⟨-, exited, -⟩ | ⟨⟨r, _, rfl⟩, -⟩ | ⟨⟨_, rfl⟩, -⟩
          · exact exited
          · obtain ⟨_, h⟩ := answer
            simp at h
          · obtain ⟨_, h⟩ := answer
            simp at h
        rw [← left] at this
        exact this.trans running
      cases isOpen : w₁.session.txContext.initialized with
      | false => exact iff_of_true (closed_of_shut (dormant₁ isOpen)) rfl
      | true => exact iff_of_false (not_closed_of_open isOpen runs waits) (by simp)
    · -- answered by the user
      obtain ⟨-, news', -, moved'⟩ := step_moves sdk version w₁ answered
      rw [left] at moved'
      generalize closed : w'.session = s' at moved'
      cases moved' with
      | answer _ asked moved' =>
        have silent (same : s₁.pending = w.session.pending) : False := by
          rw [same, idle] at asked
          simp at asked
        rcases signMove_asks moved with ⟨-, -, same⟩ | ⟨-, normal, kind, pending, transaction⟩ | ⟨-, same⟩
        · exact (silent same).elim
        · obtain rfl : kind = _ := Option.some.inj (pending.symm.trans asked)
          have shut : Shut w'.session := by
            rw [closed, answer_shut transaction moved']
            exact .terminated _
          exact iff_of_true (closed_of_shut shut) normal
        · exact (silent same).elim

end Answered

end

/-- A chunk the parser rejects, behind the first chunk of a transfer. -/
def malformedChunk : Command := ⟨Ins.cla, Ins.sign, P1.more, 0, [0x02], by decide⟩

/-- The parser's refusal is answered with an error, and leaves an open session. -/
theorem refused_chunk_not_closed : ∃ es w w' sw,
    AppRun device deviceVersion anyStep deviceBoot es w ∧ malformedChunk.isSign = true ∧
      Answers device deviceVersion w malformedChunk w' sw ∧ sw ≠ .ok ∧
      ¬Closed device deviceVersion w' := by
  obtain ⟨w, run, found⟩ := Run.exists_of_exec (step device deviceVersion) anyStep
    (boot device deviceBoot)
    [command Ins.sign P1.first 0 (pathBytes 0 ++ sampleTransfer)]
    (fun w => (step device deviceVersion w (.apdu malformedChunk)).any fun w' =>
      w'.trace.head? = some (.reply [] .incorrectData) && w'.app.pending = none &&
        !w'.app.exited && w'.session.txContext.initialized)
    (by decide +kernel)
  rw [Option.any_eq_true] at found
  obtain ⟨w', stepped, found⟩ := found
  simp only [Bool.and_eq_true, decide_eq_true_eq, Bool.not_eq_true'] at found
  obtain ⟨⟨⟨head, idle⟩, running⟩, isOpen⟩ := found
  obtain ⟨older, trace⟩ := List.head?_eq_some_iff.mp head
  exact ⟨_, w, w', .incorrectData, run, by decide,
    ⟨⟨[], older, trace⟩, w', stepped, .inl ⟨rfl, idle⟩⟩, by decide,
    not_closed_of_open isOpen running idle⟩

/-- The first chunk of a transaction, with a fee limit alone. -/
def feeOpener : Event := command Ins.sign P1.first 0 (pathBytes 0 ++ [0x90, 1, 1])

/-- A field that is not known, as the last chunk. -/
def lastChunk : Command := ⟨Ins.cla, Ins.sign, P1.last, 0, [0x9a, 6, 1, 0xab], by decide⟩

/-- A transaction without a contract is refused when it is rendered, and its session is closed. -/
theorem closed_after_rendering : ∃ w w' sw, AppRun device deviceVersion anyStep deviceBoot [feeOpener] w ∧
    w.session.txContext.initialized = true ∧ Answers device deviceVersion w lastChunk w' sw ∧ sw ≠ .ok ∧
      Closed device deviceVersion w' := by
  obtain ⟨w, run, found⟩ := Run.exists_of_exec (step device deviceVersion) anyStep (boot device deviceBoot) [feeOpener]
    (fun w => w.session.txContext.initialized && !w.session.leavesOpen device lastChunk &&
      (step device deviceVersion w (.apdu lastChunk)).any fun w' =>
        w'.trace.head? = some (.reply [] .incorrectData) && w'.app.pending = none) (by decide +kernel)
  simp only [Bool.and_eq_true, Bool.not_eq_true', Option.any_eq_true, decide_eq_true_eq] at found
  obtain ⟨⟨isOpen, leaves⟩, w', stepped, head, idle⟩ := found
  obtain ⟨older, trace⟩ := List.head?_eq_some_iff.mp head
  have answers : Answers device deviceVersion w lastChunk w' .incorrectData :=
    ⟨⟨[], older, trace⟩, w', stepped, .inl ⟨rfl, idle⟩⟩
  exact ⟨w, w', _, run, isOpen, answers, by decide, (closed_iff run (by decide) answers (by decide)).mpr leaves⟩

end TronLedger
