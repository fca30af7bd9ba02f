import TronLedger.Moves
import TronLedger.Device

/-!
# The path a session signs with

The path of `transactionContext` is shared: INS_SIGN and the personal messages sign with it,
and four instructions write it, before they check it.

* `openedPath` and `messagePath` read from the log the path a session was opened with.
* `keepsPaths` is the condition under which an APDU leaves the paths of open sessions alone.
-/

namespace TronLedger

/-- The path of the APDU that opened the session of INS_SIGN. -/
def openedPath : List Effect → Option Bip32Path
  | [] => none
  | .apdu c :: older => if c.opensSign then c.path else openedPath older
  | _ :: older => openedPath older

/-- The path of the first APDU of the personal message. -/
def messagePath : List Effect → Option Bip32Path
  | [] => none
  | .messageStart _ :: older => (lastCommand older).bind Command.path
  | _ :: older => messagePath older

/-- A signature for INS_SIGN or for a personal message is made with the path of its session. -/
def ownPath : Effect → List Effect → Bool
  | .signature path _, older =>
    match lastCommand older with
    | none => true
    | some c =>
      (!c.isSign || openedPath older = some path) && (!c.isMessage || messagePath older = some path)
  | _, _ => true

/-- No command other than the ones that open a session writes another path while the session
is open. -/
def Session.keepsPaths {σ κ : Type} (s : Session σ κ) (c : Command) : Bool :=
  !s.writesPath c || (readBip32Path c.data s.path).1 = s.path ||
    ((!s.txContext.initialized || (c.isSign && (readBip32Path c.data s.path).2.isSome)) &&
      (!s.personal.initialized || c.isMessage))

def keepsPaths {σ κ : Type} (w : World σ κ) : Event → Bool
  | .apdu c => w.session.keepsPaths c
  | _ => true

/-- Sessions that are open sign with the path they were opened with. -/
structure PathIntegrity {σ κ : Type} (s : Session σ κ) (log : List Effect) : Prop where
  signed : Always (fun entry older => ownPath entry older = true) log
  openSession : s.txContext.initialized = true → openedPath log = some s.path
  openMessage : s.personal.initialized = true → messagePath log = some s.path
  pendingSign : s.pending.isSome = true → ∀ c, lastCommand log = some c → c.isSign = true →
    openedPath log = some s.path ∧ s.pending ≠ some .signTip72Transaction
  pendingMessage : s.pending.isSome = true → ∀ c, lastCommand log = some c → c.isMessage = true →
    messagePath log = some s.path ∧ s.pending ≠ some .signTip72Transaction

section

variable {σ κ : Type} {sdk : Sdk σ κ} {version : AppVersion} {s s' : Session σ κ} {c : Command}
  {news log : List Effect}

theorem opensSign_writes (h : c.opensSign = true) : s.writesPath c = true := by
  simp only [Command.opensSign, Command.isSign, Command.isOpener, decide_eq_true_eq] at h
  simp [Session.writesPath, h]

theorem path_of_opensSign (h : c.opensSign = true) : c.path = some (s.pathWritten c) := by
  have isSome : c.path.isSome = true := by
    simp only [Command.opensSign, decide_eq_true_eq] at h
    exact h.2.2.2
  rw [path_isSome s.path, Option.isSome_iff_exists] at isSome
  obtain ⟨n, read⟩ := isSome
  rw [path_of_read read, pathWritten_of (opensSign_writes h)]

/-- The guard keeps the path of an open session, unless the APDU opens one itself. -/
theorem keepsPaths_session (h : s.keepsPaths c = true) (isOpen : s.txContext.initialized = true)
    (other : c.opensSign = false) : s.pathWritten c = s.path := by
  cases writes : s.writesPath c with
  | false => exact pathWritten_of_not writes
  | true =>
    rw [pathWritten_of writes]
    simp only [Session.keepsPaths, writes, isOpen, Bool.not_true, Bool.false_or, Bool.or_eq_true,
      Bool.and_eq_true, decide_eq_true_eq] at h
    refine h.resolve_right ?_
    rintro ⟨⟨own, read⟩, -⟩
    rw [← path_isSome] at read
    have opens : c.opensSign = true := by
      simp only [Command.isSign, decide_eq_true_eq] at own
      simp only [Session.writesPath, decide_eq_true_eq, own, Ins.sign, Ins.signPersonalMessage,
        Ins.signTxnHash, Ins.getEcdhSecret] at writes
      simp only [Command.opensSign, Command.isSign, Command.isOpener, decide_eq_true_eq, own, read]
      simp_all
    rw [opens] at other
    simp at other

theorem keepsPaths_message (h : s.keepsPaths c = true) (isOpen : s.personal.initialized = true)
    (other : c.isMessage = false) : s.pathWritten c = s.path := by
  cases writes : s.writesPath c with
  | false => exact pathWritten_of_not writes
  | true =>
    rw [pathWritten_of writes]
    simpa [Session.keepsPaths, writes, isOpen, other] using h

/-- Nothing in the news starts a command or a personal message, and signatures are made with
`path`. -/
structure Quiet (path : Bip32Path) (news : List Effect) : Prop where
  noApdu : ∀ c, .apdu c ∉ news
  noStart : ∀ length, .messageStart length ∉ news
  signature : ∀ p hash, .signature p hash ∈ news → p = path

theorem Quiet.append {path : Bip32Path} {first : List Effect} (a : Quiet path news)
    (b : Quiet path first) : Quiet path (news ++ first) where
  noApdu c h := (List.mem_append.mp h).elim (a.noApdu c) (b.noApdu c)
  noStart l h := (List.mem_append.mp h).elim (a.noStart l) (b.noStart l)
  signature p hash h := (List.mem_append.mp h).elim (a.signature p hash) (b.signature p hash)

theorem Quiet.tail {path : Bip32Path} {entry : Effect} (q : Quiet path (entry :: news)) :
    Quiet path news where
  noApdu c h := q.noApdu c (List.mem_cons_of_mem _ h)
  noStart l h := q.noStart l (List.mem_cons_of_mem _ h)
  signature p hash h := q.signature p hash (List.mem_cons_of_mem _ h)

theorem Quiet.lastCommand {path : Bip32Path} (q : Quiet path news) :
    lastCommand (news ++ log) = lastCommand log := by
  induction news with
  | nil => rfl
  | cons entry news ih =>
    cases entry with
    | apdu c => exact absurd List.mem_cons_self (q.noApdu c)
    | _ => exact ih q.tail

theorem Quiet.openedPath {path : Bip32Path} (q : Quiet path news) :
    openedPath (news ++ log) = openedPath log := by
  induction news with
  | nil => rfl
  | cons entry news ih =>
    cases entry with
    | apdu c => exact absurd List.mem_cons_self (q.noApdu c)
    | _ => exact ih q.tail

theorem Quiet.messagePath {path : Bip32Path} (q : Quiet path news) :
    messagePath (news ++ log) = messagePath log := by
  induction news with
  | nil => rfl
  | cons entry news ih =>
    cases entry with
    | messageStart l => exact absurd List.mem_cons_self (q.noStart l)
    | _ => exact ih q.tail

theorem Quiet.signed {path : Bip32Path} (q : Quiet path news)
    (own : ∀ p hash, .signature p hash ∈ news → ∀ c, TronLedger.lastCommand log = some c →
      (c.isSign = true → TronLedger.openedPath log = some path) ∧
        (c.isMessage = true → TronLedger.messagePath log = some path))
    (all : Always (fun entry older => ownPath entry older = true) log) :
    Always (fun entry older => ownPath entry older = true) (news ++ log) := by
  induction news with
  | nil => exact all
  | cons entry news ih =>
    refine ⟨?_, ih q.tail fun p hash h => own p hash (List.mem_cons_of_mem _ h)⟩
    cases entry with
    | signature p hash =>
      obtain rfl := q.signature p hash List.mem_cons_self
      change ownPath _ (news ++ log) = true
      simp only [ownPath, q.tail.lastCommand, q.tail.openedPath, q.tail.messagePath]
      have own := own p hash List.mem_cons_self
      cases found : TronLedger.lastCommand log with
      | none => rfl
      | some c =>
        have := own c found
        simp only [Bool.and_eq_true, Bool.or_eq_true, Bool.not_eq_true', decide_eq_true_eq]
        refine ⟨?_, ?_⟩
        · cases sign : c.isSign with
          | false => exact .inl rfl
          | true => exact .inr (this.1 sign)
        · cases message : c.isMessage with
          | false => exact .inl rfl
          | true => exact .inr (this.2 message)
    | _ => rfl

section Moves

theorem answerMove_quiet {state : ApprovalState} (moved : AnswerMove sdk s state news s') :
    (∃ p, Quiet p news ∧ (state ≠ .signTip72Transaction → p = s.path)) ∧ s'.path = s.path ∧
      s'.personal = s.personal ∧ s'.pending = s.pending ∧
      (s'.txContext.initialized = true → s.txContext.initialized = true) := by
  cases moved with
  | sharedTyped data path hash typed =>
    exact ⟨⟨path, ⟨by simp, by simp, by simp⟩, fun other => absurd typed other⟩, rfl, rfl, rfl, id⟩
  | shared | messageSigned | messageFailed =>
    exact ⟨⟨_, ⟨by simp, by simp, by simp⟩, fun _ => rfl⟩, rfl, rfl, rfl, id⟩
  | signed | closed =>
    exact ⟨⟨_, ⟨by simp, by simp, by simp⟩, fun _ => rfl⟩, rfl, rfl, rfl, by simp [Session.terminated]⟩

theorem otherEnd_quiet (ends : OtherEnd s news s') :
    Quiet s'.path news ∧ s'.path = s.path ∧ s'.personal = s.personal ∧
      s'.txContext = s.txContext ∧ (s'.pending = s.pending ∨ s.calledFromSwap = false) := by
  cases ends with
  | replied => exact ⟨⟨by simp, by simp, by simp⟩, rfl, rfl, rfl, .inl rfl⟩
  | reviewing _ _ noSwap => exact ⟨⟨by simp, by simp, by simp⟩, rfl, rfl, rfl, .inr noSwap⟩
  | verifying noSwap => exact ⟨⟨by simp, by simp, by simp⟩, rfl, rfl, rfl, .inr noSwap⟩

theorem otherEnd_unsigned (ends : OtherEnd s news s') (p : Bip32Path) (hash : Buf 32) :
    .signature p hash ∉ news := by
  cases ends <;> simp

theorem messageChunk_quiet {p2 : UInt8} {content : Bytes}
    (chunk : MessageChunk sdk p2 content s news s') :
    Quiet s'.path news ∧ s'.path = s.path ∧ s'.txContext = s.txContext ∧
      (s'.pending = s.pending ∨ s'.pending = some .signPersonalMessage) := by
  cases chunk with
  | completes _ _ _ ends =>
    cases ends with
    | failed => exact ⟨⟨by simp, by simp, by simp⟩, rfl, rfl, .inl rfl⟩
    | reviewing => exact ⟨⟨by simp, by simp, by simp⟩, rfl, rfl, .inr rfl⟩
  | _ => exact ⟨⟨by simp, by simp, by simp⟩, rfl, rfl, .inl rfl⟩

/-- The message that is open once an APDU is entered has the path the APDU left. -/
theorem messageEntry_path {first : List Effect} {v : Session σ κ} {content : Bytes}
    (entry : MessageEntry sdk c s first v content)
    (live : s.personal.initialized = true → messagePath log = some s.path) :
    messagePath (first ++ .apdu c :: log) = some v.path ∧ v.path = s.pathWritten c ∧
      v.txContext = s.txContext ∧ v.pending = s.pending ∧
      (first = [] ∨ ∃ length, first = [.messageStart length]) := by
  cases entry with
  | opens n length writes read =>
    refine ⟨?_, rfl, rfl, rfl, .inr ⟨_, rfl⟩⟩
    simp only [List.singleton_append, messagePath, lastCommand, Option.bind_some, path_of_read read,
      pathWritten_of writes]
  | continues more keeps isLive =>
    exact ⟨live isLive, (pathWritten_of_not keeps).symm, rfl, rfl, .inl rfl⟩

theorem signEnd_quiet (ends : SignEnd sdk s news s') :
    Quiet s'.path news ∧ s'.path = s.path ∧ s'.personal = s.personal ∧
      (s'.pending = s.pending ∨ (s'.txContext.initialized = s.txContext.initialized ∧
        s'.pending ≠ some .signTip72Transaction)) := by
  cases ends with
  | swapSigned ui data sound =>
    exact ⟨⟨by simp, by simp, by simp [Session.terminated, Session.finished]⟩, rfl, rfl, .inl rfl⟩
  | reviewing kind r noSwap own =>
    refine ⟨⟨by simp, by simp, by simp⟩, rfl, rfl, .inr ⟨rfl, ?_⟩⟩
    simp only [ne_eq, Option.some.injEq]
    rintro rfl
    simp [ApprovalState.isTransaction] at own
  | _ => exact ⟨⟨by simp, by simp, by simp⟩, rfl, rfl, .inl rfl⟩

theorem signParse_quiet {payload : Bytes} (parse : SignParse sdk c payload s news s') :
    Quiet s'.path news ∧ s'.path = s.path ∧ s'.personal = s.personal ∧
      (s'.pending = s.pending ∨ (s'.txContext.initialized = s.txContext.initialized ∧
        s'.pending ≠ some .signTip72Transaction)) := by
  cases parse with
  | acknowledged => exact ⟨⟨by simp, by simp, by simp⟩, rfl, rfl, .inl rfl⟩
  | faulted => exact ⟨⟨by simp, by simp, by simp⟩, rfl, rfl, .inl rfl⟩
  | finalises _ ends =>
    obtain ⟨quiet, path, personal, pending⟩ := signEnd_quiet ends
    exact ⟨quiet.append ⟨by simp, by simp, by simp⟩, path, personal, pending⟩

/-- The session is still open, or it has just signed. -/
def StillOpen (s' : Session σ κ) (news : List Effect) : Prop :=
  s'.txContext.initialized = true ∨ ∃ p hash, .signature p hash ∈ news

theorem signChunk_quiet {payload : Bytes} (chunk : SignChunk sdk c payload s news s') :
    Quiet s'.path news ∧ s'.path = s.path ∧ s'.personal = s.personal ∧
      (StillOpen s' news → s.txContext.initialized = true) ∧
      (s'.pending = s.pending ∨
        (s'.txContext.initialized = true ∧ s'.pending ≠ some .signTip72Transaction)) := by
  cases chunk with
  | closed => exact ⟨⟨by simp, by simp, by simp⟩, rfl, rfl, by simp [StillOpen], .inl rfl⟩
  | exits isOpen => exact ⟨⟨by simp, by simp, by simp⟩, rfl, rfl, fun _ => isOpen, .inl rfl⟩
  | parses isOpen _ parse =>
    obtain ⟨quiet, path, personal, pending⟩ := signParse_quiet parse
    exact ⟨quiet.append ⟨by simp, by simp, by simp⟩, path, personal, fun _ => isOpen,
      pending.imp id fun ⟨same, kind⟩ => ⟨same.trans isOpen, kind⟩⟩
  | swapParses isOpen _ _ parse =>
    obtain ⟨quiet, path, personal, pending⟩ := signParse_quiet parse
    exact ⟨quiet.append ⟨by simp, by simp, by simp⟩, path, personal, fun _ => isOpen,
      pending.imp id fun ⟨same, kind⟩ => ⟨same.trans isOpen, kind⟩⟩

theorem pathWritten_of_sign (own : c.isSign = true) (other : c.isOpener = false) :
    s.pathWritten c = s.path := by
  refine pathWritten_of_not ?_
  simp only [Command.isSign, decide_eq_true_eq] at own
  simp only [Command.isOpener, decide_eq_false_iff_not] at other
  simp [Session.writesPath, own, other, Ins.sign, Ins.signPersonalMessage, Ins.signTxnHash,
    Ins.getEcdhSecret]

/-- An APDU of INS_SIGN keeps a session open only on the path it was opened with. -/
theorem signMove_quiet (own : c.isSign = true) (moved : SignMove sdk c s news s') :
    Quiet s'.path news ∧ s'.path = s.pathWritten c ∧ s'.personal = s.personal ∧
      (StillOpen s' news → c.opensSign = false → s.txContext.initialized = true) ∧
      (s'.pending = s.pending ∨
        (s'.txContext.initialized = true ∧ s'.pending ≠ some .signTip72Transaction)) := by
  cases moved with
  | early =>
    exact ⟨⟨by simp, by simp, by simp⟩, rfl, rfl, fun h _ => by simpa [StillOpen] using h, .inl rfl⟩
  | enters entered entry chunk =>
    obtain ⟨quiet, path, personal, isOpen, pending⟩ := signChunk_quiet chunk
    cases entry with
    | opens n opener read =>
      refine ⟨quiet.append ⟨by simp, by simp, by simp⟩, path, personal, fun _ notOpen => ?_, pending⟩
      simp only [Session.entersSign, decide_eq_true_eq, opener, if_true] at entered
      have opens : c.opensSign = true := by
        simp only [Command.opensSign, decide_eq_true_eq, path_isSome s.path]
        exact ⟨own, entered.1, opener, entered.2⟩
      rw [opens] at notOpen
      simp at notOpen
    | metadata name opener =>
      exact ⟨quiet.append ⟨by simp, by simp, by simp⟩, path.trans (pathWritten_of_sign own opener).symm,
        personal, fun h _ => isOpen (by simpa using h), pending⟩
    | continues p1 =>
      have opener : c.isOpener = false := by
        rcases p1 with p1 | p1 <;> simp [Command.isOpener, p1, P1.more, P1.last, P1.first, P1.sign]
      exact ⟨quiet.append ⟨by simp, by simp, by simp⟩, path.trans (pathWritten_of_sign own opener).symm,
        personal, fun h _ => isOpen (by simpa using h), pending⟩

/-- An APDU of INS_SIGN keeps the integrity of the paths. -/
theorem signMove_keeps (own : c.isSign = true) (holds : PathIntegrity s log)
    (idle : s.pending = none) (keeps : s.keepsPaths c = true) (moved : SignMove sdk c s news s') :
    PathIntegrity s' (news ++ .apdu c :: log) := by
  obtain ⟨quiet, path, personal, stays, pending⟩ := signMove_quiet own moved
  have notMessage := isSign_not_isMessage own
  have opened (isOpen : StillOpen s' news) :
      openedPath (.apdu c :: log) = some s'.path := by
    rw [path]
    cases opens : c.opensSign with
    | true => simp only [openedPath, opens, if_true, path_of_opensSign (s := s) opens]
    | false =>
      have before := stays isOpen opens
      simp only [openedPath, opens, Bool.false_eq_true, if_false, holds.openSession before,
        keepsPaths_session keeps before opens]
  refine ⟨?_, ?_, ?_, ?_, ?_⟩
  · refine quiet.signed (fun p hash signs c' last => ?_) ⟨rfl, holds.signed⟩
    obtain rfl : c = c' := by simpa [lastCommand] using last
    exact ⟨fun _ => opened (.inr ⟨p, hash, signs⟩), by simp [notMessage]⟩
  · intro isOpen
    rw [quiet.openedPath]
    exact opened (.inl isOpen)
  · intro isOpen
    rw [personal] at isOpen
    rw [quiet.messagePath, path, keepsPaths_message keeps isOpen notMessage]
    exact holds.openMessage isOpen
  · intro asked _ _ _
    rw [quiet.openedPath]
    rcases pending with same | ⟨isOpen, kind⟩
    · rw [same, idle] at asked
      simp at asked
    · exact ⟨opened (.inl isOpen), kind⟩
  · intro _ c' last message
    rw [quiet.lastCommand] at last
    obtain rfl : c = c' := by simpa [lastCommand] using last
    rw [notMessage] at message
    simp at message

/-- An APDU of a personal message keeps the integrity of the paths. -/
theorem messageMove_keeps (own : c.isMessage = true) (holds : PathIntegrity s log)
    (idle : s.pending = none) (keeps : s.keepsPaths c = true)
    (moved : MessageMove sdk c s news s') : PathIntegrity s' (news ++ .apdu c :: log) := by
  have notSign := isMessage_not_isSign own
  have notOpens : c.opensSign = false := by simp [Command.opensSign, notSign]
  have start : Always (fun entry older => ownPath entry older = true) (.apdu c :: log) :=
    ⟨rfl, holds.signed⟩
  have openedLog : openedPath (.apdu c :: log) = openedPath log := by simp [openedPath, notOpens]
  have session (isOpen : s.txContext.initialized = true) : openedPath log = some (s.pathWritten c) := by
    rw [keepsPaths_session keeps isOpen notOpens]
    exact holds.openSession isOpen
  have absurdSign {P : Prop} {c' : Command} (last : lastCommand (.apdu c :: log) = some c')
      (sign : c'.isSign = true) : P := by
    obtain rfl : c = c' := by simpa [lastCommand] using last
    rw [notSign] at sign
    simp at sign
  cases moved with
  | refused sw bad same =>
    have path := pathWritten_of_not same
    refine ⟨⟨rfl, start⟩, fun isOpen => ?_, fun isOpen => holds.openMessage isOpen, ?_, ?_⟩
    · rw [← path]
      exact openedLog.trans (session isOpen)
    · intro asked
      simp [idle] at asked
    · intro asked
      simp [idle] at asked
  | badOpening sw bad =>
    refine ⟨⟨rfl, start⟩, fun isOpen => openedLog.trans (session isOpen), ?_, ?_, ?_⟩
    · simp [Session.personalCleared]
    · intro asked
      simp [idle, Session.personalCleared] at asked
    · intro asked
      simp [idle, Session.personalCleared] at asked
  | enters entry chunk =>
    rename_i first rest v content
    obtain ⟨message, path, context, pending, started⟩ := messageEntry_path entry holds.openMessage
    obtain ⟨quiet, kept, sameContext, asks⟩ := messageChunk_quiet chunk
    -- what the start of a message adds to the log is seen by `messagePath` only
    have before : Always (fun entry older => ownPath entry older = true) (first ++ .apdu c :: log) ∧
        openedPath (first ++ .apdu c :: log) = openedPath log ∧
        lastCommand (first ++ .apdu c :: log) = some c := by
      rcases started with rfl | ⟨length, rfl⟩
      · exact ⟨start, openedLog, rfl⟩
      · exact ⟨⟨rfl, start⟩, openedLog, rfl⟩
    rw [List.append_assoc]
    refine ⟨?_, ?_, ?_, ?_, ?_⟩
    · refine quiet.signed (fun p hash _ c' last => ?_) before.1
      rw [before.2.2] at last
      obtain rfl : c = c' := by simpa using last
      refine ⟨by simp [notSign], fun _ => ?_⟩
      rw [message, kept]
    · intro isOpen
      rw [sameContext, context] at isOpen
      rw [quiet.openedPath, before.2.1, kept, path]
      exact session isOpen
    · intro _
      rw [quiet.messagePath, message, kept]
    · intro _ c' last sign
      rw [quiet.lastCommand, before.2.2] at last
      exact absurdSign last sign
    · intro asked _ _ _
      rw [quiet.messagePath, message, kept]
      refine ⟨rfl, ?_⟩
      rcases asks with same | same
      · rw [same, pending, idle]
        simp
      · rw [same]
        simp

/-- An APDU outside both protocols keeps the integrity of the paths. -/
theorem otherMove_keeps (notSign : c.isSign = false)
    (notMessage : c.isMessage = true → s.calledFromSwap = true) (holds : PathIntegrity s log)
    (idle : s.pending = none) (keeps : s.keepsPaths c = true) (moved : OtherMove c s news s') :
    PathIntegrity s' (news ++ .apdu c :: log) := by
  obtain ⟨hash, ends⟩ := moved
  obtain ⟨quiet, path, personal, context, asks⟩ := otherEnd_quiet ends
  have unsigned := otherEnd_unsigned ends
  have notOpens : c.opensSign = false := by simp [Command.opensSign, notSign]
  refine ⟨?_, ?_, ?_, ?_, ?_⟩
  · exact quiet.signed (fun p hash signs => absurd signs (unsigned p hash)) ⟨rfl, holds.signed⟩
  · intro isOpen
    rw [context] at isOpen
    rw [quiet.openedPath, path]
    simp only [openedPath, notOpens, Bool.false_eq_true, if_false, holds.openSession isOpen,
      keepsPaths_session keeps isOpen notOpens]
  · intro isLive
    rw [personal] at isLive
    have other : c.isMessage = false ∨ s.writesPath c = false := by
      by_cases message : c.isMessage = true
      · refine .inr ?_
        rw [Bool.eq_false_iff]
        intro writes
        have := (writesPath_ins writes).2
        simp only [Command.isMessage, decide_eq_true_eq] at message
        simp [notMessage (by simp [Command.isMessage, message]), message, Ins.sign,
          Ins.signPersonalMessage] at this
      · exact .inl (by simpa using message)
    rw [quiet.messagePath, path]
    rcases other with other | other
    · simp only [messagePath, holds.openMessage isLive, keepsPaths_message keeps isLive other]
    · simp only [messagePath, holds.openMessage isLive, pathWritten_of_not other]
  · intro _ c' last sign
    rw [quiet.lastCommand] at last
    obtain rfl : c = c' := by simpa [lastCommand] using last
    rw [notSign] at sign
    simp at sign
  · intro asked c' last message
    rw [quiet.lastCommand] at last
    obtain rfl : c = c' := by simpa [lastCommand] using last
    rcases asks with same | noSwap
    · simp [same, idle] at asked
    · simp [notMessage message] at noSwap

/-- The answer to a review keeps the integrity of the paths. -/
theorem answerMove_keeps {state : ApprovalState} (asked : s.pending = some state)
    (holds : PathIntegrity s log)
    (moved : AnswerMove sdk { s with pending := none } state news s') :
    PathIntegrity s' (news ++ log) := by
  obtain ⟨⟨p, quiet, own⟩, path, personal, pending, stays⟩ := answerMove_quiet moved
  have isAsked : s.pending.isSome = true := by simp [asked]
  have signsAs (kind : s.pending ≠ some .signTip72Transaction) : p = s.path :=
    own fun same => kind (same ▸ asked)
  have done : s'.pending.isSome = false := by simp [pending]
  refine ⟨?_, ?_, ?_, ?_, ?_⟩
  · refine quiet.signed (fun q hash signs c' last => ⟨fun sign => ?_, fun message => ?_⟩) holds.signed
    · obtain ⟨opened, kind⟩ := holds.pendingSign isAsked c' last sign
      rw [opened, signsAs kind]
    · obtain ⟨started, kind⟩ := holds.pendingMessage isAsked c' last message
      rw [started, signsAs kind]
  · intro isOpen
    rw [quiet.openedPath, path]
    exact holds.openSession (stays isOpen)
  · intro isLive
    rw [personal] at isLive
    rw [quiet.messagePath, path]
    exact holds.openMessage isLive
  · intro again
    simp [done] at again
  · intro again
    simp [done] at again

end Moves

theorem PathIntegrity.start (b : Boot) : PathIntegrity (boot sdk b).session [] where
  signed := trivial
  openSession := by simp [boot, World.session]
  openMessage := by simp [boot, World.session]
  pendingSign := by simp [boot, World.session]
  pendingMessage := by simp [boot, World.session]

/-- **Every session signs with the path it was opened with, in every run in which no other
command writes another path while it is open.** -/
theorem paths_kept {b : Boot} {es : List Event} {w : World σ κ}
    (run : AppRun sdk version keepsPaths b es w) : PathIntegrity w.session w.trace := by
  refine AppRun.preserves sdk version w (PathIntegrity.start b) ?_ run
  intro w e w' news holds ok _ moved
  generalize w'.session = s' at moved ⊢
  cases moved with
  | apdu c idle moved =>
    rw [List.append_assoc]
    cases moved with
    | sign own moved => exact signMove_keeps own holds idle ok moved
    | message own _ moved => exact messageMove_keeps own holds idle ok moved
    | other notSign notMessage moved => exact otherMove_keeps notSign notMessage holds idle ok moved
  | answer confirm asked moved => exact answerMove_keeps asked holds moved
  | badFrame => exact ⟨⟨rfl, holds.signed⟩, holds.openSession, holds.openMessage, holds.pendingSign,
      holds.pendingMessage⟩
  | toggleSetting | setContacts => exact ⟨holds.signed, holds.openSession, holds.openMessage,
      holds.pendingSign, holds.pendingMessage⟩
  | ioReset => exact ⟨⟨rfl, holds.signed⟩, by simp [Session.terminated], holds.openMessage,
      holds.pendingSign, holds.pendingMessage⟩

end

/-- A transfer in two chunks, and between them a refused APDU of INS_GET_ECDH_SECRET. -/
def interruptedTransfer : List Event := [
  command Ins.sign P1.first 0 (pathBytes 0 ++ sampleTransfer),
  command Ins.getEcdhSecret 0 1 (pathBytes 7),
  command Ins.sign P1.last 0 [0x70, 0x01],
  .answer true]

/-- The refused APDU leaves its path behind, and the transfer is signed with it. -/
theorem path_overwritten : ∃ w, AppRun device deviceVersion anyStep deviceBoot interruptedTransfer w ∧
    ¬Always (fun entry older => ownPath entry older = true) w.trace := by
  obtain ⟨w, run, found⟩ := Run.exists_of_exec (step device deviceVersion) anyStep
    (boot device deviceBoot) interruptedTransfer
    (fun w => !decide (Always (fun entry older => ownPath entry older = true) w.trace))
    (by decide +kernel)
  exact ⟨w, run, by simpa using found⟩

/-- A transfer and a personal message in two chunks each; a public key of another path is read out
between those of the transfer, and a chunk without a session is refused between those of the message. -/
def keptPaths : List Event := [
  command Ins.sign P1.first 0 (pathBytes 0 ++ sampleTransfer),
  command Ins.getPublicKey 0 0 (pathBytes 7),
  command Ins.sign P1.last 0 [0x70, 0x01],
  .answer true,
  command Ins.signPersonalMessage P1.first 0 (pathBytes 7 ++ [0, 0, 0, 2, 0x68]),
  command Ins.sign P1.more 0 [0x70, 0x01],
  command Ins.signPersonalMessage P1.more 0 [0x6f],
  .answer true]

theorem paths_kept_interleaved : ∃ w, AppRun device deviceVersion keepsPaths deviceBoot keptPaths w ∧
    (signatures w.trace).length = 2 ∧ PathIntegrity w.session w.trace := by
  obtain ⟨w, run, signed⟩ := Run.exists_of_exec (step device deviceVersion) keepsPaths
    (boot device deviceBoot) keptPaths (fun w => (signatures w.trace).length = 2) (by decide +kernel)
  exact ⟨w, run, by simpa using signed, paths_kept run⟩

end TronLedger
