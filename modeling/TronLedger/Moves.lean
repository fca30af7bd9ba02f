import TronLedger.SignSteps

/-!
# What a step of the app can do

`Move` collects what every event can do to the session; `step_moves` is the inversion of
`step`, and `AppRun.preserves` derives an invariant of the session and the log from it.
-/

namespace TronLedger

section

variable {σ κ : Type} (sdk : Sdk σ κ) (version : AppVersion)

/-- An APDU of INS_SIGN. -/
def Command.isSign (c : Command) : Bool := c.cla = Ins.cla ∧ c.ins = Ins.sign

/-- An APDU of INS_SIGN_PERSONAL_MESSAGE. -/
def Command.isMessage (c : Command) : Bool := c.cla = Ins.cla ∧ c.ins = Ins.signPersonalMessage

theorem isSign_not_isMessage {c : Command} (own : c.isSign = true) : c.isMessage = false := by
  simp only [Command.isSign, decide_eq_true_eq] at own
  simp [Command.isMessage, own, Ins.sign, Ins.signPersonalMessage]

theorem isMessage_not_isSign {c : Command} (own : c.isMessage = true) : c.isSign = false := by
  by_contra sign
  rw [isSign_not_isMessage (by simpa using sign)] at own
  simp at own

/-- The path an APDU carries, if it is accepted. -/
def Command.path (c : Command) : Option Bip32Path :=
  match readBip32Path c.data [] with
  | (path, some _) => some path
  | (_, none) => none

/-- The APDU opens a session of INS_SIGN. -/
def Command.opensSign (c : Command) : Bool :=
  c.isSign ∧ c.p2 = 0 ∧ c.isOpener ∧ c.path.isSome

theorem path_of_read {c : Command} {old : Bip32Path} {n : Nat}
    (read : (readBip32Path c.data old).2 = some n) :
    c.path = some (readBip32Path c.data old).1 := by
  have same := readBip32Path_accepted read []
  unfold Command.path
  rw [same]
  split
  · rename_i path _ found
    rw [found]
  · rename_i found
    rw [found] at read
    simp at read

theorem path_isSome {c : Command} (old : Bip32Path) :
    c.path.isSome = (readBip32Path c.data old).2.isSome := by
  cases read : (readBip32Path c.data old).2 with
  | some n => rw [path_of_read read]; rfl
  | none =>
    cases read' : (readBip32Path c.data []).2 with
    | some n =>
      rw [readBip32Path_accepted read' old] at read
      rw [read] at read'
      simp at read'
    | none =>
      unfold Command.path
      split
      · rename_i found
        rw [found] at read'
        simp at read'
      · rfl

/-- The APDU being processed, or last processed, at the end of a log. -/
def lastCommand : List Effect → Option Command
  | [] => none
  | .apdu c :: _ => some c
  | _ :: older => lastCommand older

/-- The signatures a log contains, newest first. -/
def signatures (log : List Effect) : List (Bip32Path × Buf 32) :=
  log.filterMap fun entry =>
    match entry with
    | .signature path hash => some (path, hash)
    | _ => none

/-- What INS_SIGN adds to a log. -/
def Effect.fromSign : Effect → Bool
  | .initTx | .hashTx _ | .processTx _ _ | .swapResponseReady | .swapAccepted _ _ | .signature _ _
  | .reply _ _ | .exit => true
  | .review r => r.infos.state.isTransaction
  | .apdu _ | .messageStart _ | .messageBytes _ | .verifyAddress => false

/-- What an instruction outside both protocols adds to a log. -/
def Effect.fromOther : Effect → Bool
  | .reply _ _ | .verifyAddress => true
  | .review r => r.infos.state.isOther
  | _ => false

/-- What the answer to a review adds to a log. -/
def Effect.fromAnswer : Effect → Bool
  | .reply _ _ | .signature _ _ => true
  | _ => false

section News

variable {σ κ : Type} {sdk : Sdk σ κ} {s s' : Session σ κ} {c : Command} {news : List Effect}

theorem signEnd_news (ends : SignEnd sdk s news s') : ∀ entry ∈ news, entry.fromSign = true := by
  cases ends with
  | reviewing kind r noSwap own normal printable typed rendered shown =>
    simpa [Effect.fromSign, shown.state_eq] using own
  | _ => simp [Effect.fromSign]

theorem signParse_news {payload : Bytes} (parse : SignParse sdk c payload s news s') :
    ∀ entry ∈ news, entry.fromSign = true := by
  cases parse with
  | finalises status ends =>
    intro entry h
    rcases List.mem_append.mp h with h | h
    · exact signEnd_news ends entry h
    · obtain rfl := List.mem_singleton.mp h
      rfl
  | _ => simp [Effect.fromSign]

theorem signMove_news (moved : SignMove sdk c s news s') : ∀ entry ∈ news, entry.fromSign = true := by
  cases moved with
  | early => simp [Effect.fromSign]
  | enters entered entry chunk =>
    rename_i first rest v payload
    have ofFirst : ∀ e ∈ first, e.fromSign = true := by cases entry <;> simp [Effect.fromSign]
    have ofRest : ∀ e ∈ rest, e.fromSign = true := by
      cases chunk with
      | closed => simp [Effect.fromSign]
      | exits => simp [Effect.fromSign]
      | parses _ _ parse =>
        intro e h
        rcases List.mem_append.mp h with h | h
        · exact signParse_news parse e h
        · obtain rfl := List.mem_singleton.mp h
          rfl
      | swapParses _ _ _ parse =>
        intro e h
        rcases List.mem_append.mp h with h | h
        · exact signParse_news parse e h
        · revert h
          simp only [List.mem_cons, List.not_mem_nil, or_false]
          rintro (rfl | rfl) <;> rfl
    intro e h
    rcases List.mem_append.mp h with h | h
    · exact ofRest e h
    · exact ofFirst e h

theorem otherMove_news (moved : OtherMove c s news s') : ∀ entry ∈ news, entry.fromOther = true := by
  obtain ⟨hash, ends⟩ := moved
  cases ends with
  | reviewing kind r noSwap other shown => simpa [Effect.fromOther, shown.state_eq] using other
  | _ => simp [Effect.fromOther]

theorem answerMove_news {state : ApprovalState} (moved : AnswerMove sdk s state news s') :
    ∀ entry ∈ news, entry.fromAnswer = true := by
  cases moved <;> simp [Effect.fromAnswer]

end News

/-- What an APDU can do once it is received. -/
inductive ApduMove (c : Command) (s : Session σ κ) : List Effect → Session σ κ → Prop
  | sign (own : c.isSign = true) {news : List Effect} {s' : Session σ κ}
      (moved : SignMove sdk c s news s') : ApduMove c s news s'
  | message (own : c.isMessage = true) (noSwap : s.calledFromSwap = false) {news : List Effect} {s' : Session σ κ}
      (moved : MessageMove sdk c s news s') : ApduMove c s news s'
  | other (notSign : c.isSign = false) (notMessage : c.isMessage = true → s.calledFromSwap = true)
      {news : List Effect} {s' : Session σ κ} (moved : OtherMove c s news s') : ApduMove c s news s'

/-- What an event can do to the session `s`. -/
inductive Move (s : Session σ κ) : Event → List Effect → Session σ κ → Prop
  | apdu (c : Command) (idle : s.pending = none) {news : List Effect} {s' : Session σ κ}
      (moved : ApduMove sdk c s news s') : Move s (.apdu c) (news ++ [.apdu c]) s'
  | answer (confirm : Bool) {state : ApprovalState} (asked : s.pending = some state)
      {news : List Effect} {s' : Session σ κ}
      (moved : AnswerMove sdk { s with pending := none } state news s') :
      Move s (.answer confirm) news s'
  | badFrame (idle : s.pending = none) (sw : Sw) : Move s .badFrame [.reply [] sw] s
  | toggleSetting (idle : s.pending = none) (setting : Setting) :
      Move s (.toggleSetting setting) [] { s with settings := s.settings.toggle setting }
  | setContacts (idle : s.pending = none) (contacts : List Contact) : Move s (.setContacts contacts) [] s
  | ioReset (idle : s.pending = none) :
      Move s .ioReset [.exit] { s.terminated sdk with exited := true }

variable (w : World σ κ)

theorem ApduMove.of_end {s s' : Session σ κ} {c : Command} {news : List Effect}
    (notSign : c.isSign = false) (notMessage : c.isMessage = true → s.calledFromSwap = true)
    (keeps : s.writesPath c = false) (ends : OtherEnd s news s') : ApduMove sdk c s news s' := by
  refine .other notSign notMessage ⟨s.hash, ?_⟩
  rw [pathWritten_of_not keeps]
  exact ends

/-- Which instructions read a path into `transactionContext`. -/
theorem writesPath_ins {s : Session σ κ} {c : Command} (h : s.writesPath c = true) :
    c.cla = Ins.cla ∧ (c.ins = Ins.sign ∨ (s.calledFromSwap = false ∧
      (c.ins = Ins.signPersonalMessage ∨ c.ins = Ins.signTxnHash ∨ c.ins = Ins.getEcdhSecret))) := by
  simp only [Session.writesPath, decide_eq_true_eq, Bool.not_eq_true'] at h
  tauto

theorem apduDispatcher_takes (c : Command) :
    w.Takes (apduDispatcher sdk version c w) (ApduMove sdk c w.session) := by
  unfold apduDispatcher
  split
  · rename_i cla
    have keeps : w.session.writesPath c = false := by
      rw [Bool.eq_false_iff]
      exact fun h => cla (writesPath_ins h).1
    exact .intro [_] rfl rfl (.of_end sdk (by simp [Command.isSign, cla])
      (by simp [Command.isMessage, cla]) keeps (.replied _ _))
  rename_i cla
  rw [not_not] at cla
  dsimp only
  split
  · rename_i swap
    have called : w.session.calledFromSwap = true := swap.1
    have keeps : w.session.writesPath c = false := by
      rw [Bool.eq_false_iff]
      intro h
      have := (writesPath_ins h).2
      simp [called, swap.2.2] at this
    exact World.Takes.intro [_] rfl rfl (.of_end sdk (by simp [Command.isSign, swap.2.2])
      (fun _ => called) keeps (.replied _ _))
  rename_i swap
  have other (ins : c.ins ≠ Ins.getPublicKey ∧ c.ins ≠ Ins.sign) :
      w.app.calledFromSwap = false := by
    rw [Bool.eq_false_iff]
    exact fun called => swap ⟨called, ins⟩
  change w.forgetContacts.Takes _ (ApduMove sdk c w.forgetContacts.session)
  -- an instruction outside both protocols that reads no path
  have ended {w' : World σ κ} (notSign : c.ins ≠ Ins.sign)
      (notMessage : c.ins ≠ Ins.signPersonalMessage) (notHash : c.ins ≠ Ins.signTxnHash)
      (notEcdh : c.ins ≠ Ins.getEcdhSecret)
      (takes : w.forgetContacts.Takes w' (OtherEnd w.forgetContacts.session)) :
      w.forgetContacts.Takes w' (ApduMove sdk c w.forgetContacts.session) := by
    refine takes.mono fun _ _ ends => .of_end sdk (by simp [Command.isSign, notSign])
      (by simp [Command.isMessage, notMessage]) ?_ ends
    rw [Bool.eq_false_iff]
    intro h
    have := (writesPath_ins h).2
    tauto
  unfold dispatchIns
  split
  · rename_i ins
    exact ended (by rw [ins]; decide) (by rw [ins]; decide) (by rw [ins]; decide)
      (by rw [ins]; decide) (handleGetPublicKey_takes sdk _ c.p1 c.p2 c.data)
  split
  · rename_i ins
    exact (handleSign_takes sdk w.forgetContacts c cla ins).mono fun _ _ moved =>
      .sign (by simp [Command.isSign, cla, ins]) moved
  rename_i notKey notSign
  have noSwap : w.forgetContacts.app.calledFromSwap = false := other ⟨notKey, notSign⟩
  split
  · rename_i ins
    exact (handleSignByHash_takes sdk w.forgetContacts c cla ins noSwap).mono fun _ _ moved =>
      .other (by simp [Command.isSign, notSign])
        (by simp [Command.isMessage, ins, Ins.signTxnHash, Ins.signPersonalMessage])
        moved
  split
  · rename_i notHash ins
    exact ended notSign (by rw [ins]; decide) notHash (by rw [ins]; decide)
      (.intro [_] rfl rfl (.replied _ _))
  split
  · rename_i ins
    exact (handleECDHSecret_takes sdk w.forgetContacts c cla ins noSwap).mono fun _ _ moved =>
      .other (by simp [Command.isSign, notSign])
        (by simp [Command.isMessage, ins, Ins.getEcdhSecret, Ins.signPersonalMessage])
        moved
  split
  · rename_i ins
    exact (handleSignPersonalMessage_takes sdk w.forgetContacts c cla ins noSwap).mono
      fun _ _ moved => .message (by simp [Command.isMessage, cla, ins]) noSwap moved
  rename_i notHash _ notEcdh notMessage
  split
  · exact ended notSign notMessage notHash notEcdh
      (handleSignTIP712Message_takes sdk _ c.p1 c.p2 c.data noSwap)
  · exact ended notSign notMessage notHash notEcdh (.intro [_] rfl rfl (.replied _ _))

/-- **Every step is one of the moves.** -/
theorem step_moves {w' : World σ κ} {e : Event} (h : step sdk version w e = some w') :
    w.app.exited = false ∧ w.Takes w' (Move sdk w.session e) := by
  unfold step at h
  split at h
  · simp at h
  rename_i running
  refine ⟨Bool.eq_false_iff.mpr running, ?_⟩
  split at h <;> simp only [Option.some.injEq, reduceCtorEq] at h <;> subst h
  · rename_i confirm state asked
    exact (reviewChoice_takes sdk { w with app := { w.app with pending := none } } confirm state).mono
      fun _ _ moved => .answer confirm asked moved
  · rename_i c idle
    refine ((apduDispatcher_takes sdk version (w.receive c) c).after [.apdu c] rfl).mono ?_
    rintro news s' ⟨rest, rfl, moved⟩
    exact .apdu c idle moved
  · rename_i idle
    exact .intro [_] rfl rfl (.badFrame idle _)
  · rename_i setting idle
    exact .intro [] rfl rfl (.toggleSetting idle setting)
  · rename_i contacts idle
    exact .intro [] rfl rfl (.setContacts idle contacts)
  · rename_i idle
    exact .intro [_] rfl rfl (.ioReset idle)

/-- **An invariant of the session and the log that every guarded move keeps holds after every
guarded run.** -/
theorem AppRun.preserves {guard : World σ κ → Event → Bool} {b : Boot}
    {P : Session σ κ → List Effect → Prop} (start : P (boot sdk b).session [])
    (move : ∀ w e w' news, P w.session w.trace → guard w e = true →
      step sdk version w e = some w' → Move sdk w.session e news w'.session →
      P w'.session (news ++ w.trace))
    {es : List Event} (run : AppRun sdk version guard b es w) : P w.session w.trace := by
  refine Run.preserves (P := fun w => P w.session w.trace) start ?_ run
  intro w e w' holds ok stepped
  obtain ⟨-, news, trace, moved⟩ := step_moves sdk version w stepped
  rw [trace]
  exact move w e w' news holds ok stepped moved

end

end TronLedger
