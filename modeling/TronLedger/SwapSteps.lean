import TronLedger.SessionClosed

/-!
# What a step can do in a swap

In a swap there are no reviews, and one APDU of INS_SIGN at most has its payload parsed. It makes the
response ready, and is answered at once.

* `SwapMove` is the inversion of a step in a swap, `SwapAnswer` that of the APDU that is parsed.
-/

namespace TronLedger

/-- Entries that start no review, sign nothing and make no response ready. -/
def Effect.isQuiet : Effect → Bool
  | .review _ | .verifyAddress | .signature _ _ | .swapResponseReady => false
  | _ => true

def Effect.isReply : Effect → Bool
  | .reply _ _ => true
  | _ => false

section

variable {σ κ : Type} (sdk : Sdk σ κ)

/-- The APDU gets a payload parsed. -/
def Session.parses (s : Session σ κ) (c : Command) : Bool :=
  c.isSign && s.entersSign sdk c && (s.entering sdk c).1.txContext.initialized

def Session.entryStatus (s : Session σ κ) (c : Command) : ParserStatus :=
  (s.entering sdk c).1.parseStatus (s.entering sdk c).2

/-- The transaction as the APDU leaves it to its rendering. -/
def Session.brings (s : Session σ κ) (c : Command) : TxContent :=
  ((s.entering sdk c).1.parsed (s.entering sdk c).2).txContent

/-- An intermediate chunk, which is acknowledged. -/
def Session.acknowledges (s : Session σ κ) (c : Command) : Bool :=
  s.parses sdk c && s.entryStatus sdk c = .processing && !c.isLast

/-- The APDU completes its transaction. -/
def Session.finalises (s : Session σ κ) (c : Command) : Bool :=
  s.parses sdk c && (s.entryStatus sdk c = .finished || s.entryStatus sdk c = .processing && c.isLast)

/-- What is added to the log once the response is ready. -/
inductive SwapAnswer (s : Session σ κ) (c : Command) : List Effect → Prop
  | acknowledged (payload : Bytes) (acks : s.acknowledges sdk c = true) :
      SwapAnswer s c [.reply [] .ok, .processTx payload .processing]
  | refused (sw : Sw) (bad : sw ≠ .ok) (final : s.acknowledges sdk c = false) {middle : List Effect}
      (quiet : ∀ entry ∈ middle, entry.isQuiet = true ∧ entry.isReply = false) :
      SwapAnswer s c (.reply [] sw :: middle)
  | signed (data payload : Bytes) (status : ParserStatus) (path : Bip32Path) (v : Session σ κ) (ui : Ui)
      (final : s.acknowledges sdk c = false) (completes : s.finalises sdk c = true)
      (brings : v.txContent = s.brings sdk c) (validated : v.swapValidated = s.swapValidated)
      (renders : v.Renders sdk .swapSign ui) :
      SwapAnswer s c [.reply data .ok, .signature path (v.finished sdk).hash,
        .swapAccepted (renderedContent v.txContent) ui, .processTx payload status]

/-- What an event can do in a swap. -/
inductive SwapMove (s : Session σ κ) : Event → List Effect → Session σ κ → Prop
  | quiet {e : Event} {news : List Effect} {s' : Session σ κ} (quiet : ∀ entry ∈ news, entry.isQuiet = true)
      (same : s'.swapResponseReady = s.swapResponseReady)
      (final : ∀ c, e = .apdu c → s.swapResponseReady = false → s.acknowledges sdk c = false) :
      SwapMove s e news s'
  | answers (c : Command) {news first : List Effect} {s' : Session σ κ} (unready : s.swapResponseReady = false)
      (ready : s'.swapResponseReady = true) (quiet : ∀ entry ∈ first, entry.isQuiet = true)
      (answer : SwapAnswer sdk s c news) :
      SwapMove s (.apdu c) (news ++ .swapResponseReady :: first) s'

/-- What stays through a swap. -/
structure SwapKeeps (s s' : Session σ κ) : Prop where
  called : s'.calledFromSwap = s.calledFromSwap
  validated : s'.swapValidated = s.swapValidated
  pending : s'.pending = s.pending

variable {sdk} {s v s' : Session σ κ} {c : Command} {e : Event} {news first : List Effect} {payload : Bytes}

theorem SignEntry.keeps (entry : SignEntry sdk c s first v payload) :
    SwapKeeps s v ∧ v.swapResponseReady = s.swapResponseReady ∧ ∀ e ∈ first, e.isQuiet = true := by
  cases entry with
  | opens => exact ⟨⟨rfl, rfl, rfl⟩, rfl, by simp [Effect.isQuiet]⟩
  | metadata | continues => exact ⟨⟨rfl, rfl, rfl⟩, rfl, by simp⟩

/-- How a transaction that is completed in a swap is answered. -/
theorem signEnd_swap (swap : v.calledFromSwap = true) (ends : SignEnd sdk v news s') :
    SwapKeeps v s' ∧ s'.swapResponseReady = v.swapResponseReady ∧
      ((∃ sw middle, sw ≠ Sw.ok ∧ news = .reply [] sw :: middle ∧
          ∀ entry ∈ middle, entry.isQuiet = true ∧ entry.isReply = false) ∨
        ∃ data ui, v.Renders sdk .swapSign ui ∧ news = [.reply data .ok,
          .signature v.path (v.finished sdk).hash, .swapAccepted (renderedContent v.txContent) ui]) := by
  cases ends with
  | refused sw bad => exact ⟨⟨rfl, rfl, rfl⟩, rfl, .inl ⟨sw, [], bad, rfl, by simp⟩⟩
  | thrown sw bad => exact ⟨⟨rfl, rfl, rfl⟩, rfl, .inl ⟨sw, [], bad, rfl, by simp⟩⟩
  | reviewing _ _ noSwap => simp [swap] at noSwap
  | swapSigned ui data renders => exact ⟨⟨rfl, rfl, rfl⟩, rfl, .inr ⟨data, ui, renders, rfl⟩⟩
  | swapFailed ui renders =>
    exact ⟨⟨rfl, rfl, rfl⟩, rfl, .inl ⟨_, _, by decide, rfl, by simp [Effect.isQuiet, Effect.isReply]⟩⟩

/-- How the payload of an APDU is answered in a swap: `v` is the session it is parsed in. -/
theorem signParse_swap (parses : s.parses sdk c = true) (entering : s.entering sdk c = (v, payload))
    (swap : v.calledFromSwap = true) (validated : v.swapValidated = s.swapValidated)
    (parse : SignParse sdk c payload { v.hashed sdk payload with swapResponseReady := true } news s') :
    SwapKeeps v s' ∧ s'.swapResponseReady = true ∧ SwapAnswer sdk s c news := by
  have status_eq : s.entryStatus sdk c = v.parseStatus payload := by
    rw [Session.entryStatus, entering]
  cases parse with
  | acknowledged status notLast =>
    have processing : v.parseStatus payload = .processing := status
    refine ⟨⟨rfl, rfl, rfl⟩, rfl, .acknowledged payload ?_⟩
    simp [Session.acknowledges, parses, status_eq, processing, notLast]
  | faulted sw bad status =>
    have faulty : v.parseStatus payload = .fault ∨ v.parseStatus payload = .missingSettingDataAllowed := status
    refine ⟨⟨rfl, rfl, rfl⟩, rfl, .refused sw bad ?_ (by simp [Effect.isQuiet, Effect.isReply])⟩
    rcases faulty with faulty | faulty <;> simp [Session.acknowledges, status_eq, faulty]
  | finalises status ends =>
    rename_i newer
    have complete : (v.parseStatus payload = .processing ∧ c.isLast = true) ∨ v.parseStatus payload = .finished :=
      status
    have final : s.acknowledges sdk c = false := by
      rcases complete with ⟨processing, last⟩ | finished
      · simp [Session.acknowledges, last]
      · simp [Session.acknowledges, status_eq, finished]
    have completes : s.finalises sdk c = true := by
      rcases complete with ⟨processing, last⟩ | finished
      · simp [Session.finalises, parses, status_eq, processing, last]
      · simp [Session.finalises, parses, status_eq, finished]
    obtain ⟨keeps, ready, answered⟩ := signEnd_swap (by exact swap) ends
    refine ⟨⟨keeps.called, keeps.validated, keeps.pending⟩, ready, ?_⟩
    rcases answered with ⟨sw, middle, bad, rfl, quiet⟩ | ⟨data, ui, renders, rfl⟩
    · refine .refused sw bad final fun entry among => ?_
      rcases List.mem_append.mp among with among | among
      · exact quiet entry among
      · rw [List.mem_singleton.mp among]
        exact ⟨rfl, rfl⟩
    · refine .signed data payload _ _ _ ui final completes ?_ validated renders
      rw [Session.brings, entering]
      rfl

/-- An APDU of INS_SIGN in a swap. -/
theorem signMove_swap (own : c.isSign = true) (swap : s.calledFromSwap = true) (moved : SignMove sdk c s news s') :
    SwapKeeps s s' ∧ SwapMove sdk s (.apdu c) (news ++ [.apdu c]) s' := by
  have silent {news : List Effect} {s' : Session σ κ} (quiet : ∀ entry ∈ news, entry.isQuiet = true)
      (same : s'.swapResponseReady = s.swapResponseReady)
      (final : s.swapResponseReady = false → s.parses sdk c = false) :
      SwapMove sdk s (.apdu c) (news ++ [.apdu c]) s' := by
    refine .quiet (fun entry among => ?_) same fun other received unready => ?_
    · rcases List.mem_append.mp among with among | among
      · exact quiet entry among
      · rw [List.mem_singleton.mp among]
        rfl
    · obtain rfl := Event.apdu.inj received
      simp [Session.acknowledges, final unready]
  cases moved with
  | early sw content answered =>
    refine ⟨⟨rfl, rfl, rfl⟩, silent (by simp [Effect.isQuiet]) rfl fun _ => ?_⟩
    simp [Session.parses, answered]
  | enters entered entry chunk =>
    rename_i first news v payload
    obtain ⟨keeps, same, quiet⟩ := entry.keeps
    have entering := entry.entering_eq
    cases chunk with
    | closed notOpen =>
      refine ⟨keeps, silent ?_ same fun _ => ?_⟩
      · simpa [Effect.isQuiet] using quiet
      · simp [Session.parses, entering, notOpen]
    | exits isOpen _ ready =>
      refine ⟨⟨keeps.called, keeps.validated, keeps.pending⟩, silent ?_ same fun unready => ?_⟩
      · simpa [Effect.isQuiet] using quiet
      · rw [same, unready] at ready
        simp at ready
    | parses _ noSwap =>
      rw [keeps.called, swap] at noSwap
      simp at noSwap
    | swapParses isOpen _ notReady parse =>
      have parses : s.parses sdk c = true := by simp [Session.parses, own, entered, entering, isOpen]
      obtain ⟨kept, ready, answer⟩ := signParse_swap parses entering (keeps.called.trans swap) keeps.validated parse
      refine ⟨⟨kept.called.trans keeps.called, kept.validated.trans keeps.validated,
        kept.pending.trans keeps.pending⟩, ?_⟩
      have before : ∀ entry ∈ .hashTx payload :: (first ++ [.apdu c]), entry.isQuiet = true := by
        intro entry among
        rcases List.mem_cons.mp among with rfl | among
        · rfl
        rcases List.mem_append.mp among with among | among
        · exact quiet entry among
        · rw [List.mem_singleton.mp among]
          rfl
      have move : SwapMove sdk s (.apdu c) _ s' := .answers c (same.symm.trans notReady) ready before answer
      simpa using move

/-- **Every step of a swap is one of its moves.** -/
theorem move_swap (swap : s.calledFromSwap = true) (idle : s.pending = none) (moved : Move sdk s e news s') :
    SwapKeeps s s' ∧ SwapMove sdk s e news s' := by
  cases moved with
  | apdu c _ moved =>
    cases moved with
    | sign own moved => exact signMove_swap own swap moved
    | message _ noSwap => simp [swap] at noSwap
    | other notSign _ moved =>
      obtain ⟨hash, ends⟩ := moved
      cases ends with
      | replied =>
        refine ⟨⟨rfl, rfl, rfl⟩, .quiet (by simp [Effect.isQuiet]) rfl fun other received _ => ?_⟩
        obtain rfl := Event.apdu.inj received
        simp [Session.acknowledges, Session.parses, notSign]
      | reviewing _ _ noSwap => simp [swap] at noSwap
      | verifying noSwap => simp [swap] at noSwap
  | answer confirm asked => simp [idle] at asked
  | badFrame | toggleSetting | setContacts | ioReset =>
    exact ⟨⟨rfl, rfl, rfl⟩, .quiet (by simp [Effect.isQuiet]) rfl (by simp)⟩

end

end TronLedger
