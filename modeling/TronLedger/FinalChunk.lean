import TronLedger.BlindReviews

/-!
# The chunk that completes a transaction

Whether the handler goes on after parsing depends on the parser as well as on `P1`: an empty
payload is reported as the end of the transaction, in whatever chunk it stands.
-/

namespace TronLedger

/-- An APDU that may complete a transaction: the only or the last chunk, or the last metadata. -/
def Command.mayFinish (c : Command) : Bool :=
  c.p1 = P1.sign ∨ c.p1 = P1.last ∨ (c.p1 &&& 0xF0 = P1.trc10Name ∧ c.p1 &&& 0x08 ≠ 0)

/-- What is shown or signed for INS_SIGN comes from an APDU that may complete a transaction. -/
def FinalEntry (entry : Effect) (older : List Effect) : Prop :=
  entry.isPlain = false → ∀ c, lastCommand older = some c → c.isSign = true → c.mayFinish = true

section

variable {σ κ : Type} (sdk : Sdk σ κ)

/-- A first or intermediate chunk that reaches an open session with no data. -/
def Session.emptyChunk (s : Session σ κ) (c : Command) : Bool :=
  c.isSign ∧ (c.p1 = P1.first ∨ c.p1 = P1.more) ∧ s.entersSign sdk c ∧
    (s.entering sdk c).1.txContext.initialized ∧ (s.entering sdk c).2 = []

/-- No first or intermediate chunk is empty. -/
def chunksFilled (w : World σ κ) : Event → Bool
  | .apdu c => !w.session.emptyChunk sdk c
  | _ => true

/-- A chunk is acknowledged: no data is returned, the session is open, and its hash goes on. -/
def Acknowledged (s : Session σ κ) (c : Command) (news : List Effect) (s' : Session σ κ) : Prop :=
  news.head? = some (.reply [] .ok) ∧ s'.pending = none ∧ s'.hash = s.hash ∧
    s'.txContext = { (s.entering sdk c).1.txContext with
      sha2 := sdk.sha256.update (s.entering sdk c).1.txContext.sha2 (s.entering sdk c).2 } ∧
    s'.txContext.initialized = true

variable {sdk} {version : AppVersion} {s s' : Session σ κ} {c : Command} {news log : List Effect}

/-- A filled payload that is not the last one is acknowledged or refused. -/
theorem signParse_filled {payload : Bytes} (filled : payload ≠ []) (notLast : c.isLast = false)
    (idle : s.pending = none) (parse : SignParse sdk c payload s news s') :
    (∀ entry ∈ news, entry.isPlain = true) ∧ s'.pending = none ∧ s'.hash = s.hash ∧
      ((∃ sw, sw ≠ Sw.ok ∧ Replied news sw) ∨
        (news.head? = some (.reply [] .ok) ∧ s'.txContext = s.txContext)) := by
  cases parse with
  | acknowledged status => exact ⟨by simp [Effect.isPlain], idle, rfl, .inr ⟨rfl, rfl⟩⟩
  | faulted sw bad status => exact ⟨by simp [Effect.isPlain], idle, rfl, .inl ⟨sw, bad, [], rfl⟩⟩
  | finalises status ends =>
    rcases status with ⟨-, last⟩ | status
    · simp [notLast] at last
    · exact absurd (processTx_finished status) filled

theorem SignEntry.kept {first : List Effect} {v : Session σ κ} {payload : Bytes}
    (entry : SignEntry sdk c s first v payload) : v.pending = s.pending ∧ v.hash = s.hash ∧
      ∀ e ∈ first, e.isPlain = true := by
  cases entry <;> exact ⟨rfl, rfl, by simp [Effect.isPlain]⟩

/-- Metadata that gets as far as the hash is flagged as the last. -/
theorem metadataAccepted_last {content : TxContent} (accepted : metadataAccepted sdk content c = true) :
    c.p1 &&& 0x08 ≠ 0 := by
  unfold metadataAccepted at accepted
  split at accepted <;> simp at accepted <;> exact accepted.2.1

/-- An APDU that may not complete a transaction, with data for an open session. -/
theorem signMove_filled (moved : SignMove sdk c s news s') (own : c.isSign = true)
    (idle : s.pending = none) (notFinal : c.mayFinish = false) (filled : s.emptyChunk sdk c = false) :
    (∀ entry ∈ news, entry.isPlain = true) ∧ s'.pending = none ∧ s'.hash = s.hash ∧
      (c.p1 = P1.first ∨ c.p1 = P1.more → (∃ sw, sw ≠ Sw.ok ∧ Replied news sw) ∨ s'.exited = true ∨
        Acknowledged sdk s c news s') := by
  have notLast : c.isLast = false := by
    simp only [Command.mayFinish, decide_eq_false_iff_not, not_or] at notFinal
    simp [Command.isLast, notFinal]
  cases moved with
  | early sw content answered change fixed named =>
    refine ⟨by simp [Effect.isPlain], idle, rfl, fun chunk => .inl ⟨sw, fun same => ?_, [], rfl⟩⟩
    rcases chunk with p1 | p1 <;> rw [p1] at named <;> exact absurd (named same) (by decide)
  | enters entered entry chunk =>
    rename_i first news v payload
    obtain ⟨pending, hash, plain⟩ := entry.kept
    have chunkP1 : c.p1 = P1.first ∨ c.p1 = P1.more := by
      simp only [Command.mayFinish, decide_eq_false_iff_not, not_or] at notFinal
      cases entry with
      | opens n opener =>
        simp only [Command.isOpener, decide_eq_true_eq] at opener
        tauto
      | metadata name opener type =>
        -- metadata that is not the last is answered before it is hashed
        simp only [Session.entersSign, opener, name, decide_eq_true_eq] at entered
        have last := metadataAccepted_last entered.2
        tauto
      | continues p1 => tauto
    have data : v.txContext.initialized = true → payload ≠ [] := by
      intro isOpen none
      simp [Session.emptyChunk, own, chunkP1, entered, entry.entering_eq, isOpen, none] at filled
    have quiet {rest before : List Effect} (loud : ∀ e ∈ rest, e.isPlain = true)
        (still : ∀ e ∈ before, e.isPlain = true) :
        ∀ e ∈ rest ++ before ++ first, e.isPlain = true := by
      intro e among
      simp only [List.mem_append] at among
      rcases among with (among | among) | among
      · exact loud e among
      · exact still e among
      · exact plain e among
    -- the payload is hashed and parsed
    have parsed {u : Session σ κ} {rest before : List Effect}
        (hashed : u = { v.hashed sdk payload with swapResponseReady := u.swapResponseReady })
        (still : ∀ e ∈ before, e.isPlain = true) (isOpen : v.txContext.initialized = true)
        (parse : SignParse sdk c payload u rest s') :
        (∀ entry ∈ rest ++ before ++ first, entry.isPlain = true) ∧ s'.pending = none ∧
          s'.hash = s.hash ∧ (c.p1 = P1.first ∨ c.p1 = P1.more →
            (∃ sw, sw ≠ Sw.ok ∧ Replied (rest ++ before ++ first) sw) ∨ s'.exited = true ∨
              Acknowledged sdk s c (rest ++ before ++ first) s') := by
      have idle' : u.pending = none := by rw [hashed]; exact pending.trans idle
      obtain ⟨loud, none, same, answer⟩ := signParse_filled (data isOpen) notLast idle' parse
      have hash' : s'.hash = s.hash := by rw [same, hashed]; exact hash
      refine ⟨quiet loud still, none, hash', fun _ => ?_⟩
      rcases answer with ⟨sw, bad, bytes, head⟩ | ⟨head, context⟩
      · refine .inl ⟨sw, bad, bytes, ?_⟩
        cases rest with
        | nil => simp at head
        | cons entry rest => exact head
      · refine .inr (.inr ⟨?_, none, hash', ?_, ?_⟩)
        · cases rest with
          | nil => simp at head
          | cons entry rest => exact head
        · rw [context, hashed, entry.entering_eq]
          rfl
        · rw [context, hashed]
          exact isOpen
    cases chunk with
    | closed notOpen =>
      refine ⟨by simpa [Effect.isPlain] using plain, pending.trans idle, hash, fun _ => .inl ?_⟩
      exact ⟨.incorrectP1P2, by decide, [], rfl⟩
    | exits =>
      exact ⟨by simpa [Effect.isPlain] using plain, pending.trans idle, hash, fun _ => .inr (.inl rfl)⟩
    | parses isOpen _ parse => exact parsed rfl (by simp [Effect.isPlain]) isOpen parse
    | swapParses isOpen _ _ parse => exact parsed rfl (by simp [Effect.isPlain]) isOpen parse

/-- What is known between the steps: the log, and the APDU a review waits for. -/
def FinalInv (s : Session σ κ) (log : List Effect) : Prop :=
  Always FinalEntry log ∧ (s.pending.isSome = true →
    ∀ c, lastCommand log = some c → c.isSign = true → c.mayFinish = true)

theorem finalEntry_over (noApdu : ∀ other, .apdu other ∉ news)
    (plain : c.isSign = true → c.mayFinish = false → ∀ entry ∈ news, entry.isPlain = true) :
    AlwaysOver FinalEntry (news ++ [.apdu c]) log := by
  induction news with
  | nil => exact ⟨by simp [FinalEntry, Effect.isPlain], trivial⟩
  | cons entry news ih =>
    have behind : ∀ other, .apdu other ∉ news := fun other among =>
      noApdu other (List.mem_cons_of_mem _ among)
    refine ⟨fun loud last same own => ?_, ih behind fun own notFinal e among =>
      plain own notFinal e (List.mem_cons_of_mem _ among)⟩
    change lastCommand (news ++ [.apdu c] ++ log) = some last at same
    rw [List.append_assoc, List.singleton_append, lastCommand_news behind] at same
    obtain rfl : c = last := by simpa using same
    by_contra notFinal
    have quiet := plain own (by simpa using notFinal) entry List.mem_cons_self
    simp [loud] at quiet

theorem move_final {e : Event} (inv : FinalInv s log) (moved : Move sdk s e news s')
    (filled : ∀ c, e = .apdu c → s.emptyChunk sdk c = false) : FinalInv s' (news ++ log) := by
  cases moved with
  | apdu c idle moved =>
    rename_i news
    have noApdu := apduMove_noApdu moved
    have quiet (own : c.isSign = true) (notFinal : c.mayFinish = false) :
        (∀ entry ∈ news, entry.isPlain = true) ∧ s'.pending = none := by
      cases moved with
      | sign _ moved =>
        obtain ⟨plain, none, -⟩ := signMove_filled moved own idle notFinal (filled c rfl)
        exact ⟨plain, none⟩
      | message message => simp [isSign_not_isMessage own] at message
      | other notSign => simp [own] at notSign
    refine ⟨(finalEntry_over noApdu fun own notFinal => (quiet own notFinal).1).always inv.1, ?_⟩
    intro asked last same own
    rw [List.append_assoc, List.singleton_append, lastCommand_news noApdu] at same
    obtain rfl : c = last := by simpa using same
    by_contra notFinal
    simp [(quiet own (by simpa using notFinal)).2] at asked
  | answer confirm asked moved =>
    have noApdu : ∀ other, .apdu other ∉ news := fun other among => by
      simpa [Effect.fromAnswer] using answerMove_news moved _ among
    have final := inv.2 (by rw [asked]; rfl)
    refine ⟨AlwaysOver.always ?_ inv.1, fun _ last same own => final last ?_ own⟩
    · clear moved
      induction news with
      | nil => trivial
      | cons entry news ih =>
        have behind : ∀ other, .apdu other ∉ news := fun other among =>
          noApdu other (List.mem_cons_of_mem _ among)
        refine ⟨fun _ last same own => final last ?_ own, ih behind⟩
        rw [← same, lastCommand_silent behind]
    · rw [← same, lastCommand_silent noApdu]
  | badFrame idle =>
    exact ⟨⟨by simp [FinalEntry, Effect.isPlain], inv.1⟩, by simp [idle]⟩
  | toggleSetting idle => exact ⟨inv.1, by simp [idle]⟩
  | setContacts idle => exact ⟨inv.1, by simp [idle]⟩
  | ioReset idle =>
    exact ⟨⟨by simp [FinalEntry, Effect.isPlain], inv.1⟩, by simp [Session.terminated, idle]⟩

/-- **In every run without empty chunks, a review or a signature of INS_SIGN comes from an APDU
that may complete a transaction; any other leaves the hash alone, and a first or intermediate
chunk that is not refused is acknowledged.** -/
theorem review_on_final_chunk {b : Boot} {es : List Event} {w : World σ κ}
    (run : AppRun sdk version (chunksFilled sdk) b es w) :
    Always FinalEntry w.trace ∧
      ∀ c w', chunksFilled sdk w (.apdu c) = true → step sdk version w (.apdu c) = some w' →
        c.isSign = true → c.mayFinish = false →
        ∃ news, w'.trace = news ++ w.trace ∧ (∀ entry ∈ news, entry.isPlain = true) ∧
          w'.session.pending = none ∧ w'.session.hash = w.session.hash ∧
          (c.p1 = P1.first ∨ c.p1 = P1.more → (∃ sw, sw ≠ Sw.ok ∧ Replied news sw) ∨
            w'.session.exited = true ∨ Acknowledged sdk w.session c news w'.session) := by
  constructor
  · refine (Run.preserves (P := fun w => FinalInv w.session w.trace)
      ⟨by simp [boot], by simp [boot, World.session]⟩ ?_ run).1
    intro w e w' inv ok stepped
    obtain ⟨-, news, trace, moved⟩ := step_moves sdk version w stepped
    rw [trace]
    refine move_final inv moved ?_
    rintro c rfl
    simpa [chunksFilled] using ok
  · intro c w' ok stepped own notFinal
    obtain ⟨-, news, trace, moved⟩ := step_moves sdk version w stepped
    generalize session : w'.session = s' at moved ⊢
    cases moved with
    | apdu _ idle moved =>
      cases moved with
      | sign _ moved =>
        obtain ⟨plain, none, hash, answer⟩ :=
          signMove_filled moved own idle notFinal (by simpa [chunksFilled] using ok)
        refine ⟨_, trace, by simpa [Effect.isPlain, or_imp, forall_and] using plain, none, hash, fun chunk => ?_⟩
        rcases answer chunk with ⟨sw, bad, data, head⟩ | exited | ⟨head, rest⟩
        · exact .inl ⟨sw, bad, data, by rw [List.head?_append, head]; rfl⟩
        · exact .inr (.inl exited)
        · exact .inr (.inr ⟨by rw [List.head?_append, head]; rfl, rest⟩)
      | message message => simp [isSign_not_isMessage own] at message
      | other notSign => simp [own] at notSign

end

/-- A whole transfer, and an intermediate chunk without data. -/
def emptyMore : List Event := [
  command Ins.sign P1.first 0 (pathBytes 0 ++ sampleTransfer) sampleTransfer_short,
  command Ins.sign P1.more 0 [] noData_short]

/-- The intermediate chunk starts the review. -/
theorem review_on_empty_chunk : ∃ w r older, AppRun device deviceVersion anyStep deviceBoot emptyMore w ∧
    w.trace = .review r :: older ∧ (lastCommand older).any (fun c => c.isSign && c.p1 = P1.more) = true := by
  exact exists_review anyStep emptyMore
    (fun _ older => (lastCommand older).any fun c => c.isSign && c.p1 = P1.more) (by decide +kernel)

/-- A transfer in two chunks is reviewed on the last one. -/
theorem review_on_last_chunk : ∃ w r older, AppRun device deviceVersion (chunksFilled device) deviceBoot [
    command Ins.sign P1.first 0 (pathBytes 0 ++ sampleTransfer),
    command Ins.sign P1.last 0 [0x70, 1]] w ∧ w.trace = .review r :: older ∧
      Always FinalEntry w.trace := by
  obtain ⟨w, r, older, run, trace, -⟩ := exists_review (chunksFilled device)
    [command Ins.sign P1.first 0 (pathBytes 0 ++ sampleTransfer),
      command Ins.sign P1.last 0 [0x70, 1]] (fun _ _ => true) (by decide +kernel)
  exact ⟨w, r, older, run, trace, (review_on_final_chunk run).1⟩

end TronLedger
