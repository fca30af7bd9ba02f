import TronLedger.SwapSteps

/-!
# What a swap reports

The first reply that is sent once the response is ready ends the swap, and its status is what the
Exchange app is told. The response is ready from the first chunk on that is parsed, so the
acknowledgement of an intermediate chunk is told as a success.

* `swapReport` is what is told, `wholeTransactions` the condition under which it is right.
-/

namespace TronLedger

/-- What a reply reports on top of a log: its status, if the response is ready. -/
def Effect.reports (older : List Effect) : Effect → Option Bool
  | .reply _ sw => if .swapResponseReady ∈ older then some (decide (sw = .ok)) else none
  | _ => none

/-- Whether the swap is reported as a success, once a reply has been sent with the response ready. -/
def swapReport : List Effect → Option Bool
  | [] => none
  | entry :: older => (swapReport older).or (entry.reports older)

/-- A signature of a transaction that passed the comparison was returned. -/
def ReturnsSignature (log : List Effect) : Prop :=
  ∃ newer data path hash content ui older, log = newer ++
    .reply data .ok :: .signature path hash :: .swapAccepted content ui :: older

section Logs

variable {news log older : List Effect}

theorem swapReport_cons (entry : Effect) : swapReport (entry :: log) = (swapReport log).or (entry.reports log) := rfl

theorem Effect.reports_silent {entry : Effect} (silent : entry.isReply = false) : entry.reports log = none := by
  cases entry with
  | reply => simp [Effect.isReply] at silent
  | _ => rfl

theorem swapReport_unready (unready : .swapResponseReady ∉ log) : swapReport log = none := by
  induction log with
  | nil => rfl
  | cons entry older ih =>
    have behind : .swapResponseReady ∉ older := fun among => unready (List.mem_cons_of_mem _ among)
    have nothing : entry.reports older = none := by cases entry <;> simp [Effect.reports, behind]
    rw [swapReport_cons, ih behind, nothing]
    rfl

theorem swapReport_append {success : Bool} (news : List Effect) (reported : swapReport log = some success) :
    swapReport (news ++ log) = some success := by
  induction news with
  | nil => exact reported
  | cons entry news ih =>
    rw [List.cons_append, swapReport_cons, ih]
    rfl

/-- Nothing is reported before a reply. -/
theorem swapReport_silent (silent : ∀ entry ∈ news, entry.isReply = false) (nothing : swapReport log = none) :
    swapReport (news ++ log) = none := by
  induction news with
  | nil => exact nothing
  | cons entry news ih =>
    have behind := ih fun e among => silent e (List.mem_cons_of_mem _ among)
    rw [List.cons_append, swapReport_cons, behind, Effect.reports_silent (silent entry List.mem_cons_self)]
    rfl

/-- The first reply with the response ready is reported. -/
theorem swapReport_reply {data : Bytes} {sw : Sw} (silent : ∀ entry ∈ news, entry.isReply = false)
    (unready : .swapResponseReady ∉ older) :
    swapReport (.reply data sw :: (news ++ .swapResponseReady :: older)) = some (decide (sw = .ok)) := by
  have before : swapReport (.swapResponseReady :: older) = none := by
    rw [swapReport_cons, swapReport_unready unready]
    rfl
  have now : (Effect.reply data sw).reports (news ++ .swapResponseReady :: older) = some (decide (sw = .ok)) :=
    if_pos (by simp)
  rw [swapReport_cons, swapReport_silent silent before, now]
  rfl

theorem signatures_append (news log : List Effect) :
    signatures (news ++ log) = signatures news ++ signatures log := List.filterMap_append

theorem signatures_quiet (quiet : ∀ entry ∈ news, entry.isQuiet = true) : signatures news = [] := by
  refine List.filterMap_eq_nil_iff.mpr fun entry among => ?_
  have plain := quiet entry among
  cases entry <;> simp_all [Effect.isQuiet]

theorem unready_append (quiet : ∀ entry ∈ news, entry.isQuiet = true) (unready : .swapResponseReady ∉ log) :
    .swapResponseReady ∉ news ++ log := by
  intro among
  rcases List.mem_append.mp among with among | among
  · exact absurd (quiet _ among) (by decide)
  · exact unready among

theorem ReturnsSignature.append (news : List Effect) (returned : ReturnsSignature log) :
    ReturnsSignature (news ++ log) := by
  obtain ⟨newer, data, path, hash, content, ui, older, rfl⟩ := returned
  exact ⟨news ++ newer, data, path, hash, content, ui, older, (List.append_assoc _ _ _).symm⟩

theorem ReturnsSignature.signed (returned : ReturnsSignature log) : signatures log ≠ [] := by
  obtain ⟨newer, data, path, hash, content, ui, older, rfl⟩ := returned
  rw [signatures_append]
  simp [signatures]

end Logs

/-- A swap whose report is right so far. -/
inductive ReportsRight (ready : Bool) (log : List Effect) : Prop
  | waiting (unready : ready = false) (flag : .swapResponseReady ∉ log) (unsigned : signatures log = [])
  | signed (isReady : ready = true) (reported : swapReport log = some true) (returned : ReturnsSignature log)
      (single : (signatures log).length = 1)
  | refused (isReady : ready = true) (reported : swapReport log = some false) (unsigned : signatures log = [])

/-- A swap that is reported as a success though nothing is signed. -/
structure ReportsWrong (ready : Bool) (log : List Effect) : Prop where
  isReady : ready = true
  reported : swapReport log = some true
  unsigned : signatures log = []

section Moves

variable {σ κ : Type} {sdk : Sdk σ κ} {s s' : Session σ κ} {c : Command} {e : Event} {news log : List Effect}

theorem ReportsRight.right {ready : Bool} (reports : ReportsRight ready log) :
    swapReport log = some true ↔ ReturnsSignature log := by
  cases reports with
  | waiting unready flag unsigned =>
    rw [swapReport_unready flag]
    exact ⟨by simp, fun returned => absurd unsigned returned.signed⟩
  | signed _ reported returned => exact ⟨fun _ => returned, fun _ => reported⟩
  | refused _ reported unsigned =>
    rw [reported]
    exact ⟨by simp, fun returned => absurd unsigned returned.signed⟩

theorem ReportsWrong.wrong {ready : Bool} (reports : ReportsWrong ready log) :
    ¬(swapReport log = some true ↔ ReturnsSignature log) := by
  intro right
  exact (right.mp reports.reported).signed reports.unsigned

/-- An APDU that is not acknowledged as a chunk keeps the report right. -/
theorem ReportsRight.move (reports : ReportsRight s.swapResponseReady log) (moved : SwapMove sdk s e news s')
    (whole : ∀ c, e = .apdu c → s.swapResponseReady = false → s.acknowledges sdk c = false) :
    ReportsRight s'.swapResponseReady (news ++ log) := by
  cases moved with
  | quiet quiet same =>
    have none := signatures_quiet quiet
    rw [same]
    cases reports with
    | waiting unready flag unsigned =>
      exact .waiting unready (unready_append quiet flag) (by rw [signatures_append, none, unsigned]; rfl)
    | signed isReady reported returned single =>
      exact .signed isReady (swapReport_append _ reported) (returned.append _)
        (by rw [signatures_append, none]; exact single)
    | refused isReady reported unsigned =>
      exact .refused isReady (swapReport_append _ reported) (by rw [signatures_append, none, unsigned]; rfl)
  | answers c unready ready quiet answer =>
    rename_i newer first
    cases reports with
    | signed isReady | refused isReady => simp [unready] at isReady
    | waiting _ flag unsigned =>
      have flag' : .swapResponseReady ∉ first ++ log := unready_append quiet flag
      have below : signatures (.swapResponseReady :: (first ++ log)) = [] := by
        have above := signatures_quiet quiet
        change signatures (first ++ log) = []
        rw [signatures_append, above, unsigned]
        rfl
      rw [List.append_assoc, List.cons_append]
      cases answer with
      | acknowledged payload acks =>
        rw [whole c rfl unready] at acks
        simp at acks
      | refused sw bad _ silent =>
        rename_i middle
        refine .refused ready ?_ ?_
        · rw [List.cons_append, swapReport_reply (fun entry among => (silent entry among).2) flag']
          simp [bad]
        · have none : signatures (.reply [] sw :: middle) = [] := by
            change signatures middle = []
            exact signatures_quiet fun entry among => (silent entry among).1
          rw [signatures_append, none, below]
          rfl
      | signed data payload status path v ui =>
        refine .signed ready ?_ ⟨[], data, path, _, _, ui, _, rfl⟩ ?_
        · exact @swapReport_reply [.signature path _, .swapAccepted _ ui, .processTx payload status] _ _ _
            (by simp [Effect.isReply]) flag'
        · rw [signatures_append, below]
          rfl

/-- The acknowledgement of a chunk is reported as a success. -/
theorem ReportsRight.acknowledged (reports : ReportsRight s.swapResponseReady log)
    (moved : SwapMove sdk s (.apdu c) news s') (unready : s.swapResponseReady = false)
    (acks : s.acknowledges sdk c = true) : ReportsWrong s'.swapResponseReady (news ++ log) := by
  obtain ⟨flag, unsigned⟩ : .swapResponseReady ∉ log ∧ signatures log = [] := by
    cases reports with
    | waiting _ flag unsigned => exact ⟨flag, unsigned⟩
    | signed isReady | refused isReady => simp [unready] at isReady
  cases moved with
  | quiet _ _ final =>
    rw [final c rfl unready] at acks
    simp at acks
  | answers _ _ ready quiet answer =>
    rename_i newer first _
    cases answer with
    | refused _ _ final | signed _ _ _ _ _ _ final =>
      rw [final] at acks
      simp at acks
    | acknowledged payload =>
      have flag' : .swapResponseReady ∉ first ++ log := unready_append quiet flag
      refine ⟨ready, ?_, ?_⟩
      · exact @swapReport_reply [.processTx payload .processing] _ _ _ (by simp [Effect.isReply]) flag'
      · have above := signatures_quiet quiet
        change signatures (first ++ log) = []
        rw [signatures_append, above, unsigned]
        rfl

/-- What is reported stays. -/
theorem ReportsWrong.move (reports : ReportsWrong s.swapResponseReady log) (moved : SwapMove sdk s e news s') :
    ReportsWrong s'.swapResponseReady (news ++ log) := by
  cases moved with
  | quiet quiet same =>
    have none := signatures_quiet quiet
    rw [same]
    exact ⟨reports.isReady, swapReport_append _ reports.reported,
      by rw [signatures_append, none, reports.unsigned]; rfl⟩
  | answers _ unready =>
    have ready := reports.isReady
    simp [unready] at ready

end Moves

section Runs

variable {σ κ : Type} {sdk : Sdk σ κ} {version : AppVersion}

variable (sdk) in
/-- No chunk of a transaction is acknowledged before the rest of it. -/
def wholeTransactions (w : World σ κ) : Event → Bool
  | .apdu c => w.session.swapResponseReady || !w.session.acknowledges sdk c
  | _ => true

/-- The session of a swap between two events. -/
structure SwapSession (b : Boot) (s : Session σ κ) : Prop where
  swap : s.calledFromSwap = true
  validated : s.swapValidated = b.swapValidated
  idle : s.pending = none

theorem SwapSession.start {b : Boot} (swap : b.calledFromSwap = true) : SwapSession b (boot sdk b).session :=
  ⟨swap, rfl, rfl⟩

/-- A step of a swap. -/
theorem SwapSession.moves {b : Boot} {w w' : World σ κ} {e : Event} (session : SwapSession b w.session)
    (stepped : step sdk version w e = some w') : SwapSession b w'.session ∧
      ∃ news, w'.trace = news ++ w.trace ∧ SwapMove sdk w.session e news w'.session := by
  obtain ⟨-, news, trace, moved⟩ := step_moves sdk version w stepped
  obtain ⟨keeps, moved⟩ := move_swap session.swap session.idle moved
  exact ⟨⟨keeps.called.trans session.swap, keeps.validated.trans session.validated,
    keeps.pending.trans session.idle⟩, news, trace, moved⟩

/-- A run of whole transactions reports right. -/
theorem wholeRun_reports {b : Boot} {es : List Event} {w : World σ κ} (swap : b.calledFromSwap = true)
    (run : AppRun sdk version (wholeTransactions sdk) b es w) :
    SwapSession b w.session ∧ ReportsRight w.session.swapResponseReady w.trace := by
  refine Run.preserves (P := fun w => SwapSession b w.session ∧ ReportsRight w.session.swapResponseReady w.trace)
    ⟨.start swap, .waiting rfl (by simp [boot]) rfl⟩ ?_ run
  rintro w e w' ⟨session, reports⟩ whole stepped
  obtain ⟨session', news, trace, moved⟩ := session.moves stepped
  refine ⟨session', ?_⟩
  rw [trace]
  refine reports.move moved fun c received unready => ?_
  subst received
  simpa [wholeTransactions, unready] using whole

/-- Any other run is reported as a success, with nothing signed. -/
theorem swapRun_cases {b : Boot} {es : List Event} {w : World σ κ} (swap : b.calledFromSwap = true)
    (run : AppRun sdk version anyStep b es w) :
    AppRun sdk version (wholeTransactions sdk) b es w ∨
      (SwapSession b w.session ∧ ReportsWrong w.session.swapResponseReady w.trace) := by
  induction run with
  | start => exact .inl .start
  | next _ _ stepped ih =>
    rename_i w w' e _ _
    rcases ih with whole | ⟨session, wrong⟩
    · cases allowed : wholeTransactions sdk w e with
      | true => exact .inl (whole.next allowed stepped)
      | false =>
        obtain ⟨session, right⟩ := wholeRun_reports swap whole
        obtain ⟨session', news, trace, moved⟩ := session.moves stepped
        right
        refine ⟨session', ?_⟩
        rw [trace]
        cases e with
        | apdu c =>
          simp only [wholeTransactions, Bool.or_eq_false_iff, Bool.not_eq_false'] at allowed
          exact right.acknowledged moved allowed.1 allowed.2
        | badFrame | answer | toggleSetting | setContacts | ioReset => simp [wholeTransactions] at allowed
    · obtain ⟨session', news, trace, moved⟩ := session.moves stepped
      right
      refine ⟨session', ?_⟩
      rw [trace]
      exact wrong.move moved

/-- **A swap is reported as a success exactly when a signature was returned, in the runs that
acknowledge no chunk of a transaction before the rest of it, and in no others.** -/
theorem swap_report_iff {b : Boot} {es : List Event} {w : World σ κ} (swap : b.calledFromSwap = true)
    (run : AppRun sdk version anyStep b es w) :
    (swapReport w.trace = some true ↔ ReturnsSignature w.trace) ↔
      AppRun sdk version (wholeTransactions sdk) b es w := by
  constructor
  · intro right
    rcases swapRun_cases swap run with whole | ⟨-, wrong⟩
    · exact whole
    · exact absurd right wrong.wrong
  · intro whole
    exact (wholeRun_reports swap whole).2.right

end Runs

/-- A swap of 1.5 TRX to an account. -/
def sampleSwap : CreateTransactionParameters where
  coinConfiguration := none
  amount := some [0x16, 0xe3, 0x60]
  destinationAddress := some (getBase58FromAddress device (Buf.ofBytes 21 (sampleAccount 2)) (Buf.zero 35) 0).bytes
  destinationAddressExtraId := some [0]

/-- The app as the Exchange app starts it, without a configuration of the coin. -/
def swapBoot (params : CreateTransactionParameters) : Boot :=
  { deviceBoot with
    calledFromSwap := true
    swapValidated := savedSwap default (swapCopyTransactionParameters (fun _ => none) params) }

/-- The first chunk of the validated transfer is reported as a success, and nothing is signed. -/
theorem chunk_reported : ∃ w, AppRun device deviceVersion anyStep (swapBoot sampleSwap)
    [command Ins.sign P1.first 0 (pathBytes 0 ++ sampleTransfer)] w ∧
      ¬(swapReport w.trace = some true ↔ ReturnsSignature w.trace) := by
  obtain ⟨w, run, found⟩ := Run.exists_of_exec (step device deviceVersion) anyStep (boot device (swapBoot sampleSwap))
    [command Ins.sign P1.first 0 (pathBytes 0 ++ sampleTransfer)]
    (fun w => swapReport w.trace = some true && signatures w.trace = []) (by decide +kernel)
  rw [Bool.and_eq_true, decide_eq_true_eq, decide_eq_true_eq] at found
  refine ⟨w, run, fun right => ?_⟩
  exact (right.mp found.1).signed found.2

/-- In one APDU, the validated transfer is signed and reported. -/
theorem swap_report_iff_sample : ∃ w, AppRun device deviceVersion anyStep (swapBoot sampleSwap)
    [command Ins.sign P1.sign 0 (pathBytes 0 ++ sampleTransfer)] w ∧ swapReport w.trace = some true ∧
      ((swapReport w.trace = some true ↔ ReturnsSignature w.trace) ↔
        AppRun device deviceVersion (wholeTransactions device) (swapBoot sampleSwap)
          [command Ins.sign P1.sign 0 (pathBytes 0 ++ sampleTransfer)] w) := by
  obtain ⟨w, run, found⟩ := Run.exists_of_exec (step device deviceVersion) anyStep (boot device (swapBoot sampleSwap))
    [command Ins.sign P1.sign 0 (pathBytes 0 ++ sampleTransfer)] (fun w => swapReport w.trace = some true)
    (by decide +kernel)
  exact ⟨w, run, of_decide_eq_true found, swap_report_iff rfl run⟩

end TronLedger
