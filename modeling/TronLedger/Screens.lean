import TronLedger.Consent
import TronLedger.Lib.Refinement

/-!
# The screens

`ui_review_menu_nbgl.c`, `ui_idle_menu_nbgl.c` and `settings.h`: the pages of a review with the
warnings in front of it, the status behind it, and the home screen with its switches.

* `Panel` is the app with its screen; a press is an event of its environment.
* `panel_refines`: what the app sees of the presses is a run of the app.
* `secrets_behind_pages`: nothing secret is put out before every page was accepted.
* `settings_survive`: the switches show the settings in force, which survive a restart.
-/

namespace TronLedger

section Storage

/-- `_FLIP_BIT` -/
def flipBit (n k : UInt8) : UInt8 := n ^^^ (1 <<< k)

/-- `HAS_SETTING` of the byte in NVRAM -/
def hasSetting (storage k : UInt8) : Bool := (storage &&& (1 <<< k)) >>> k ≠ 0

/-- `S_DATA_ALLOWED`, `S_CUSTOM_CONTRACT` and `S_SIGN_BY_HASH` -/
def Setting.bit : Setting → UInt8
  | .dataAllowed => 0
  | .customContract => 1
  | .signByHash => 2

/-- `S_INITIALIZED` -/
def initializedBit : UInt8 := 7

/-- `nv_app_state_init` -/
def nvAppStateInit (storage : UInt8) : UInt8 := if !hasSetting storage initializedBit then 0x80 else storage

/-- The settings, as they are read from NVRAM wherever they are asked for. -/
def storedSettings (storage : UInt8) : Settings where
  dataAllowed := hasSetting storage Setting.dataAllowed.bit
  customContract := hasSetting storage Setting.customContract.bit
  signByHash := hasSetting storage Setting.signByHash.bit

end Storage

/-- The texts of `nbgl_useCaseReviewStatus` and `nbgl_useCaseStatus`. -/
inductive Status
  | transactionSigned
  | transactionRejected
  | transactionFailure
  | addressVerified
  | addressRejected
  deriving DecidableEq

/-- What is on the screen; it is `off` in a swap. -/
inductive Screen
  | off
  | home
  | dataWarning
  | customContractWarning
  | transaction
  | address
  | status (s : Status)
  deriving DecidableEq

/-- What happens to the device: a message from the host, a choice on a page of a review, a
status page that is left, a switch of the settings, the button that quits. -/
inductive Press
  | apdu (c : Command)
  | badFrame
  | setContacts (contacts : List Contact)
  | ioReset
  | choose (accept : Bool)
  | dismiss
  | toggle (token : Setting)
  | quit
  deriving DecidableEq

/-- The app, the byte `N_settings`, the states of the switches, the screen and `txInfos`. -/
structure Panel (σ κ : Type) where
  world : World σ κ
  storage : UInt8
  switches : Settings
  screen : Screen
  txInfos : Option TxInfos

section Pages

variable {σ κ : Type} (sdk : Sdk σ κ)

namespace Panel

/-- `ui_idle` -/
def uiIdle (p : Panel σ κ) : Panel σ κ :=
  { p with switches := storedSettings p.storage, screen := .home }

/-- `settingsControlsCallback`, with `SETTING_TOGGLE` -/
def settingsControlsCallback (token : Setting) (p : Panel σ κ) : Panel σ κ :=
  let storage := flipBit p.storage token.bit
  { p with
    world := { p.world with app := { p.world.app with settings := storedSettings storage } }
    storage := storage
    switches := storedSettings storage }

/-- `onQuitCallback` -/
def onQuitCallback (p : Panel σ κ) : Panel σ κ := { p with world := p.world.osSchedExit }

/-- The first page of `reviewStart`. -/
def reviewStart (infos : TxInfos) : Screen :=
  if infos.dataWarning then .dataWarning
  else if infos.customContractWarning then .customContractWarning
  else .transaction

/-- The review is no longer waiting. -/
def answered (p : Panel σ κ) : World σ κ := { p.world with app := { p.world.app with pending := none } }

/-- `ui_callback_tx_cancel(false)` and the status page. -/
def cancel (p : Panel σ κ) : Panel σ κ :=
  { p with world := uiCallbackTxCancel sdk p.answered, screen := .status .transactionRejected }

def dataWarningChoice (accept : Bool) (p : Panel σ κ) : Panel σ κ :=
  if accept then
    { p with
      screen := if p.txInfos.any (·.customContractWarning) then .customContractWarning else .transaction }
  else p.cancel sdk

def customContractWarningChoice (accept : Bool) (p : Panel σ κ) : Panel σ κ :=
  if accept then { p with screen := .transaction } else p.cancel sdk

/-- The callbacks return whether they answered with `E_OK`. -/
def repliedOk (w : World σ κ) : Bool :=
  match w.trace with
  | .reply _ sw :: _ => sw = .ok
  | _ => false

/-- `reviewChoice`; without `txInfos` there is no such page. -/
def reviewChoice (confirm : Bool) (p : Panel σ κ) : Panel σ κ :=
  match p.txInfos with
  | none => p
  | some infos =>
    if confirm then
      let world := confirmReview sdk infos.state p.answered
      let ret := repliedOk world
      { p with world := world, screen := .status (if ret then .transactionSigned else .transactionFailure) }
    else
      { p with world := rejectReview sdk infos.state p.answered, screen := .status .transactionRejected }

def displayAddressCallback (confirm : Bool) (p : Panel σ κ) : Panel σ κ :=
  if confirm then
    { p with world := helperSendResponsePubkey p.answered, screen := .status .addressVerified }
  else { p with world := uiCallbackTxCancel sdk p.answered, screen := .status .addressRejected }

/-- What `ux_flow_display` left on the screen, if it was called. -/
def refresh (world : World σ κ) (p : Panel σ κ) : Panel σ κ :=
  match world.app.pending, world.trace with
  | none, _ => { p with world := world }
  | some _, .review r :: _ => { p with world := world, txInfos := some r.infos, screen := reviewStart r.infos }
  | some _, _ => { p with world := world, screen := .address }

end Panel

/-- What the host sends, and what the OS does. -/
def Press.outside : Press → Option Event
  | .apdu c => some (.apdu c)
  | .badFrame => some .badFrame
  | .setContacts contacts => some (.setContacts contacts)
  | .ioReset => some .ioReset
  | _ => none

/-- One press, when it can happen. -/
def panelStep (version : AppVersion) (p : Panel σ κ) (press : Press) : Option (Panel σ κ) :=
  if p.world.app.exited then none
  else
    match press, p.screen with
    | .choose accept, .dataWarning => some (p.dataWarningChoice sdk accept)
    | .choose accept, .customContractWarning => some (p.customContractWarningChoice sdk accept)
    | .choose confirm, .transaction => some (p.reviewChoice sdk confirm)
    | .choose confirm, .address => some (p.displayAddressCallback sdk confirm)
    | .dismiss, .status _ => some p.uiIdle
    | .toggle token, .home => some (p.settingsControlsCallback token)
    | .quit, .home => some p.onQuitCallback
    | press, _ => press.outside.bind fun e => (step sdk version p.world e).map p.refresh

/-- `app_main` up to its loop, with `storage` in NVRAM. -/
def powerOn (b : Boot) (storage : UInt8) : Panel σ κ :=
  let storage := nvAppStateInit storage
  let off : Panel σ κ := {
    world := boot sdk { b with settings := storedSettings storage }
    storage := storage
    switches := ⟨false, false, false⟩
    screen := .off
    txInfos := none }
  if b.calledFromSwap then off else off.uiIdle

/-- The runs of the device until the user quits. -/
abbrev PanelRun (version : AppVersion) (b : Boot) (storage : UInt8) : List Press → Panel σ κ → Prop :=
  Run (panelStep sdk version) (fun _ press => press ≠ .quit) (powerOn sdk b storage)

end Pages

section Displays

variable {σ κ : Type} {sdk : Sdk σ κ} {s v s' : Session σ κ} {c : Command} {news first : List Effect} {payload : Bytes}

/-- What is asked of a review on the screen: its warnings are those of a transaction. -/
structure Review.Warns (r : Review) (c : Command) : Prop where
  notAddress : r.infos.state ≠ .verifyAddress
  data : r.infos.dataWarning = true → r.infos.state.isTransaction = true
  sign : c.isSign = true → r.infos.dataWarning = decide (0 < r.content.dataBytes)
  contract : r.infos.customContractWarning = decide (r.infos.state = .customContract)

/-- What an APDU leaves waiting is what it put on the screen last. -/
inductive Displays (c : Command) (s' : Session σ κ) : List Effect → Prop
  | nothing (news : List Effect) (idle : s'.pending = none) : Displays c s' news
  | review (r : Review) (older : List Effect) (waits : s'.pending = some r.infos.state) (warns : r.Warns c) :
      Displays c s' (.review r :: older)
  | address (older : List Effect) (waits : s'.pending = some .verifyAddress) : Displays c s' (.verifyAddress :: older)

theorem Displays.after (displays : Displays c s' news) (first : List Effect) : Displays c s' (news ++ first) := by
  cases displays with
  | nothing news idle => exact .nothing _ idle
  | review r older waits warns => exact .review r _ waits warns
  | address older waits => exact .address _ waits

theorem customContractWarning_eq {state : ApprovalState} {dataWarning : Bool} {type : ContractType} {ui : Ui}
    {infos : TxInfos} (ready : prepareTxInfos state dataWarning type ui = .ready infos) :
    infos.customContractWarning = decide (infos.state = .customContract) := by
  unfold prepareTxInfos at ready
  split at ready
  · simp at ready
  split at ready
  · simp at ready
  · simp only [Prepared.ready.injEq] at ready
    rw [← ready]

/-- A review of the session `s`. -/
theorem reviewOf_displays {kind : ApprovalState} {warning : Bool} {r : Review} (shown : ReviewOf s kind warning r)
    (waits : s'.pending = some kind) (notAddress : kind ≠ .verifyAddress)
    (data : warning = true → kind.isTransaction = true)
    (sign : c.isSign = true → warning = decide (0 < s.txContent.dataBytes)) : Displays c s' [.review r] := by
  have state := shown.state_eq
  have dataWarning := shown.warning_eq
  refine .review r [] (by rw [waits, state]) ⟨state ▸ notAddress, ?_, ?_, customContractWarning_eq shown.ready⟩
  · rw [dataWarning, state]
    exact data
  · rw [dataWarning, shown.content_eq]
    exact sign

theorem signEnd_displays (idle : s.pending = none) (ends : SignEnd sdk s news s') : Displays c s' news := by
  cases ends with
  | reviewing kind r _ own _ _ _ _ shown =>
    refine reviewOf_displays shown rfl ?_ (fun _ => own) fun _ => ?_
    · rintro rfl
      simp [ApprovalState.isTransaction] at own
    · exact congrArg (fun n => decide (0 < n)) (renderedContent_dataBytes s.txContent).symm
  | _ => exact .nothing _ (by exact idle)

theorem signMove_displays (idle : s.pending = none) (moved : SignMove sdk c s news s') : Displays c s' news := by
  have parsed {v : Session σ κ} {payload : Bytes} {news : List Effect} (idle : v.pending = none)
      (parse : SignParse sdk c payload v news s') : Displays c s' news := by
    cases parse with
    | acknowledged => exact .nothing _ (by exact idle)
    | faulted => exact .nothing _ (by exact idle)
    | finalises _ ends => exact (signEnd_displays (by exact idle) ends).after _
  cases moved with
  | early => exact .nothing _ (by exact idle)
  | enters _ entry chunk =>
    rename_i first rest v payload
    have entered : v.pending = none := by cases entry <;> exact idle
    refine Displays.after ?_ first
    cases chunk with
    | closed => exact .nothing _ (by exact entered)
    | exits => exact .nothing _ (by exact entered)
    | parses _ _ parse => exact (parsed (by exact entered) parse).after _
    | swapParses _ _ _ parse => exact (parsed (by exact entered) parse).after _

theorem messageMove_displays (other : c.isSign = false) (idle : s.pending = none) (moved : MessageMove sdk c s news s') :
    Displays c s' news := by
  cases moved with
  | refused => exact .nothing _ (by exact idle)
  | badOpening => exact .nothing _ (by exact idle)
  | enters entry chunk =>
    rename_i first rest v content
    have entered : v.pending = none := by cases entry <;> exact idle
    refine Displays.after ?_ first
    cases chunk with
    | badP2 => exact .nothing _ (by exact entered)
    | tooLong => exact .nothing _ (by exact entered)
    | absorbs => exact .nothing _ (by exact entered)
    | completes _ _ _ ends =>
      refine Displays.after ?_ _
      cases ends with
      | failed => exact .nothing _ (by exact entered)
      | reviewing r shown =>
        exact reviewOf_displays shown rfl (by decide) (by simp) fun own => by simp [other] at own

theorem otherMove_displays (other : c.isSign = false) (idle : s.pending = none) (moved : OtherMove c s news s') :
    Displays c s' news := by
  obtain ⟨hash, ends⟩ := moved
  cases ends with
  | replied => exact .nothing _ (by exact idle)
  | reviewing kind r _ own shown =>
    refine reviewOf_displays shown rfl ?_ (by simp) fun own => by simp [other] at own
    rintro rfl
    simp [ApprovalState.isOther] at own
  | verifying => exact .address [] rfl

/-- What an APDU puts on the screen. -/
theorem apdu_displays (idle : s.pending = none) (moved : ApduMove sdk c s news s') : Displays c s' news := by
  cases moved with
  | sign _ moved => exact signMove_displays idle moved
  | message own _ moved => exact messageMove_displays (isMessage_not_isSign own) idle moved
  | other notSign _ moved => exact otherMove_displays notSign idle moved

end Displays

section Storage

theorem byte_forall {P : UInt8 → Prop} (all : ∀ n : Fin 256, P (UInt8.ofNat n.val)) (storage : UInt8) : P storage := by
  have small := storage.toNat_lt
  have value := all ⟨storage.toNat, small⟩
  rwa [UInt8.ofNat_toNat] at value

theorem storedSettings_flipBit (storage : UInt8) (token : Setting) :
    storedSettings (flipBit storage token.bit) = (storedSettings storage).toggle token := by
  revert storage
  refine byte_forall ?_
  cases token <;> decide +kernel

theorem flipBit_initialized (storage : UInt8) (token : Setting) :
    hasSetting (flipBit storage token.bit) initializedBit = hasSetting storage initializedBit := by
  revert storage
  refine byte_forall ?_
  cases token <;> decide +kernel

theorem nvAppStateInit_initialized (storage : UInt8) : hasSetting (nvAppStateInit storage) initializedBit = true := by
  unfold nvAppStateInit
  split
  · decide
  · rename_i initialized
    simpa using initialized

end Storage

section Following

variable {σ κ : Type} (sdk : Sdk σ κ) {version : AppVersion}

/-- The pages of a review, the warnings first. -/
def TxInfos.pages (infos : TxInfos) : List Screen :=
  (if infos.dataWarning then [.dataWarning] else []) ++
    (if infos.customContractWarning then [.customContractWarning] else []) ++ [.transaction]

/-- A page that waits for a choice. -/
def Screen.asks : Screen → Bool
  | .dataWarning | .customContractWarning | .transaction | .address => true
  | .off | .home | .status _ => false

/-- A page is on the screen because the pages before it were accepted, since the APDU that
started the review. -/
inductive Panel.Follows (p : Panel σ κ) : List Press → Prop
  | quiet (presses : List Press) (idle : p.world.app.pending = none) (noQuestion : p.screen.asks = false) :
      p.Follows presses
  | address (before : List Press) (c : Command) (waits : p.world.app.pending = some .verifyAddress)
      (screen : p.screen = .address) : p.Follows (before ++ [.apdu c])
  | page (before : List Press) (c : Command) (r : Review) (older : List Effect) (k : Nat)
      (trace : p.world.trace = .review r :: older) (infos : p.txInfos = some r.infos)
      (waits : p.world.app.pending = some r.infos.state) (warns : r.Warns c)
      (page : r.infos.pages[k]? = some p.screen) :
      p.Follows (before ++ .apdu c :: List.replicate k (.choose true))

/-- What holds of every device that was switched on. -/
structure Panel.Sound (p : Panel σ κ) (presses : List Press) : Prop where
  stored : p.world.app.settings = storedSettings p.storage
  initialized : hasSetting p.storage initializedBit = true
  home : p.screen = .home → p.switches = storedSettings p.storage
  follows : p.Follows presses

theorem powerOn_sound (b : Boot) (storage : UInt8) : (powerOn sdk b storage).Sound [] := by
  unfold powerOn
  cases b.calledFromSwap with
  | true => exact ⟨rfl, nvAppStateInit_initialized storage, by simp, .quiet _ rfl rfl⟩
  | false => exact ⟨rfl, nvAppStateInit_initialized storage, fun _ => rfl, .quiet _ rfl rfl⟩

/-- The event a press is for the app; the app sees an accepted warning as nothing. -/
def Press.event : Press → Option Event
  | .choose accept => some (.answer accept)
  | .toggle token => some (.toggleSetting token)
  | .dismiss | .quit => none
  | press => press.outside

/-- The events that can be missed. -/
def Event.approves (e : Event) : Bool := e = .answer true

variable {sdk}

/-- After a message of the host. -/
theorem refresh_sound {p : Panel σ κ} {presses : List Press} {press : Press} {e : Event} {w : World σ κ}
    (sound : p.Sound presses) (outside : press.outside = some e) (stepped : step sdk version p.world e = some w) :
    (p.refresh w).Sound (presses ++ [press]) := by
  obtain ⟨-, news, trace, moved⟩ := step_moves sdk version p.world stepped
  generalize before : p.world.session = s, after : w.session = s' at moved
  have settingsBefore : p.world.app.settings = s.settings := congrArg Session.settings before
  have settingsAfter : w.app.settings = s'.settings := congrArg Session.settings after
  have pendingBefore : p.world.app.pending = s.pending := congrArg Session.pending before
  have pendingAfter : w.app.pending = s'.pending := congrArg Session.pending after
  have quiet (idle : s.pending = none) (idle' : s'.pending = none) (settings : s'.settings = s.settings) :
      (p.refresh w).Sound (presses ++ [press]) := by
    have noQuestion : p.screen.asks = false := by
      cases sound.follows with
      | quiet _ _ noQuestion => exact noQuestion
      | address _ _ waits => simp [pendingBefore, idle] at waits
      | page _ _ _ _ _ _ _ waits => simp [pendingBefore, idle] at waits
    have waiting := pendingAfter.trans idle'
    simp only [Panel.refresh, waiting]
    refine ⟨?_, sound.initialized, sound.home, .quiet _ waiting noQuestion⟩
    rw [← sound.stored, settingsBefore, settingsAfter, settings]
  cases moved with
  | @apdu c idle own s' moved =>
    obtain rfl : press = .apdu c := by cases press <;> simp_all [Press.outside]
    have settings := (apduMove_kept moved).settings
    have stored : w.app.settings = storedSettings p.storage := by
      rw [← sound.stored, settingsBefore, settingsAfter, settings]
    have displays := (apdu_displays idle moved).after [.apdu c]
    generalize own ++ [.apdu c] = news at displays trace
    cases displays with
    | nothing _ idle' => exact quiet idle idle' settings
    | review r older waits warns =>
      have waiting := pendingAfter.trans waits
      rw [List.cons_append] at trace
      simp only [Panel.refresh, waiting, trace]
      refine ⟨stored, sound.initialized, fun home => ?_, ?_⟩
      · simp only [Panel.reviewStart] at home
        split_ifs at home
      · refine .page presses c r _ 0 trace rfl waiting warns ?_
        simp only [Panel.reviewStart, TxInfos.pages]
        cases r.infos.dataWarning <;> cases r.infos.customContractWarning <;> rfl
    | address older waits =>
      have waiting := pendingAfter.trans waits
      rw [List.cons_append] at trace
      simp only [Panel.refresh, waiting, trace]
      refine ⟨stored, sound.initialized, fun home => ?_, .address presses c waiting rfl⟩
      simp at home
  | answer => cases press <;> simp [Press.outside] at outside
  | badFrame idle => exact quiet idle idle rfl
  | toggleSetting => cases press <;> simp [Press.outside] at outside
  | setContacts idle => exact quiet idle idle rfl
  | ioReset idle => exact quiet idle idle rfl

/-- One press as the app sees it. -/
abbrev SeenByApp (sdk : Sdk σ κ) (version : AppVersion) : Panel σ κ → Panel σ κ → Press → Prop :=
  SeenAs Panel.world Press.event Event.approves (step sdk version)

/-- What an answer leaves. -/
theorem step_answer (sdk : Sdk σ κ) (version : AppVersion) {w : World σ κ} {state : ApprovalState} (running : w.app.exited = false)
    (waits : w.app.pending = some state) (confirm : Bool) :
    step sdk version w (.answer confirm) =
      some (TronLedger.reviewChoice sdk confirm state { w with app := { w.app with pending := none } }) := by
  simp [step, running, waits]

/-- A review that was answered. -/
theorem answer_sound {p p' : Panel σ κ} {presses : List Press} {confirm : Bool} {state : ApprovalState} (status : Status)
    (sound : p.Sound presses) (running : p.world.app.exited = false) (waits : p.world.app.pending = some state)
    (answered : p' = { p with
      world := TronLedger.reviewChoice sdk confirm state p.answered, screen := .status status }) :
    p'.Sound (presses ++ [.choose confirm]) ∧ SeenByApp sdk version p p' (.choose confirm) := by
  obtain ⟨news, -, moved⟩ := reviewChoice_takes sdk p.answered confirm state
  have stepped := step_answer sdk version running waits confirm
  subst answered
  have settings := (answerMove_called moved).settings
  refine ⟨⟨settings.trans sound.stored, sound.initialized, fun home => by simp at home, .quiet _ ?_ rfl⟩,
    .step (.answer confirm) rfl stepped⟩
  exact (reviewChoice_answer sdk p.answered state confirm).2

/-- The page behind the one that is accepted. -/
theorem next_page {infos : TxInfos} {k : Nat} {screen : Screen} (page : infos.pages[k]? = some screen) :
    (screen = .dataWarning → infos.dataWarning = true ∧ infos.pages[k + 1]? =
      some (if infos.customContractWarning then .customContractWarning else .transaction)) ∧
    (screen = .customContractWarning → infos.customContractWarning = true ∧ infos.pages[k + 1]? = some .transaction) ∧
    (screen = .transaction → k + 1 = infos.pages.length) := by
  revert page
  simp only [TxInfos.pages]
  cases infos.dataWarning <;> cases infos.customContractWarning <;>
    rcases k with _ | _ | _ | k <;> simp +contextual <;> rintro rfl <;> simp

/-- A page of a review follows the pages in front of it. -/
structure Panel.OnPage (p : Panel σ κ) (presses : List Press) (before : List Press) (c : Command) (r : Review) (k : Nat) :
    Prop where
  presses_eq : presses = before ++ .apdu c :: List.replicate k (.choose true)
  trace : p.world.trace.head? = some (.review r)
  infos : p.txInfos = some r.infos
  waits : p.world.app.pending = some r.infos.state
  warns : r.Warns c
  page : r.infos.pages[k]? = some p.screen

theorem Panel.Sound.onPage {p : Panel σ κ} {presses : List Press} (sound : p.Sound presses) (asks : p.screen.asks = true)
    (notAddress : p.screen ≠ .address) : ∃ before c r k, p.OnPage presses before c r k := by
  cases sound.follows with
  | quiet _ _ noQuestion => simp [noQuestion] at asks
  | address _ _ _ screen => exact absurd screen notAddress
  | page before c r older k trace infos waits warns page =>
    exact ⟨before, c, r, k, rfl, by rw [trace]; rfl, infos, waits, warns, page⟩

theorem pages_ask {infos : TxInfos} {k : Nat} {screen : Screen} (page : infos.pages[k]? = some screen) :
    screen.asks = true ∧ screen ≠ .address := by
  have among := List.mem_of_getElem? page
  have known : screen = .dataWarning ∨ screen = .customContractWarning ∨ screen = .transaction := by
    revert among
    simp only [TxInfos.pages]
    cases infos.dataWarning <;> cases infos.customContractWarning <;> simp <;> tauto
  rcases known with rfl | rfl | rfl <;> decide

/-- Nothing waits behind another screen. -/
theorem Panel.Sound.idle {p : Panel σ κ} {presses : List Press} (sound : p.Sound presses)
    (quiet : p.screen.asks = false) : p.world.app.pending = none := by
  cases sound.follows with
  | quiet _ idle => exact idle
  | address _ _ _ screen => simp [screen, Screen.asks] at quiet
  | page _ _ _ _ _ _ _ _ _ page => simp [(pages_ask page).1] at quiet

theorem Panel.Sound.onAddress {p : Panel σ κ} {presses : List Press} (sound : p.Sound presses)
    (screen : p.screen = .address) : p.world.app.pending = some .verifyAddress := by
  cases sound.follows with
  | quiet _ _ noQuestion => simp [screen, Screen.asks] at noQuestion
  | address _ _ waits => exact waits
  | page _ _ _ _ _ _ _ _ _ page => exact absurd screen (pages_ask page).2

theorem refresh_world (p : Panel σ κ) (w : World σ κ) : (p.refresh w).world = w := by
  unfold Panel.refresh
  split <;> rfl

theorem outside_event {press : Press} {e : Event} (outside : press.outside = some e) : press.event = some e := by
  cases press <;> first | exact outside | simp [Press.outside] at outside

/-- A warning that is accepted. -/
theorem accept_sound {p : Panel σ κ} {presses before : List Press} {c : Command} {r : Review} {k : Nat} {next : Screen}
    (sound : p.Sound presses) (on : p.OnPage presses before c r k) (page : r.infos.pages[k + 1]? = some next)
    (away : next ≠ .home) :
    ({ p with screen := next } : Panel σ κ).Sound (presses ++ [.choose true]) ∧
      SeenByApp sdk version p { p with screen := next } (.choose true) := by
  obtain ⟨older, trace⟩ := List.head?_eq_some_iff.mp on.trace
  refine ⟨⟨sound.stored, sound.initialized, fun home => absurd home away, ?_⟩, .unseen rfl fun f meant => ?_⟩
  · rw [on.presses_eq, List.append_assoc, List.cons_append, ← List.replicate_succ']
    exact .page before c r older (k + 1) trace on.infos on.waits on.warns page
  · obtain rfl := Option.some.inj meant
    rfl

/-- A warning that is rejected refuses the review behind it. -/
theorem cancel_sound {p : Panel σ κ} {presses before : List Press} {c : Command} {r : Review} {k : Nat}
    (sound : p.Sound presses) (running : p.world.app.exited = false) (on : p.OnPage presses before c r k)
    (warned : r.infos.state.isTransaction = true) :
    (p.cancel sdk).Sound (presses ++ [.choose false]) ∧ SeenByApp sdk version p (p.cancel sdk) (.choose false) := by
  refine answer_sound .transactionRejected sound running on.waits ?_
  have rejected : TronLedger.reviewChoice sdk false r.infos.state p.answered = uiCallbackTxCancel sdk p.answered := by
    cases state : r.infos.state <;> first | rfl | simp [state, ApprovalState.isTransaction] at warned
  rw [rejected]
  rfl

/-- **What one press does.** -/
theorem panelStep_sound {p p' : Panel σ κ} {presses : List Press} {press : Press} (sound : p.Sound presses)
    (stepped : panelStep sdk version p press = some p') (stays : press ≠ .quit) :
    p'.Sound (presses ++ [press]) ∧ SeenByApp sdk version p p' press := by
  unfold panelStep at stepped
  split at stepped
  · simp at stepped
  rename_i running
  rw [Bool.not_eq_true] at running
  split at stepped
  · -- the data warning
    rename_i accept screen
    obtain rfl := Option.some.inj stepped
    obtain ⟨before, c, r, k, on⟩ := sound.onPage (by rw [screen]; rfl) (by rw [screen]; decide)
    obtain ⟨shown, next⟩ := (next_page on.page).1 screen
    cases accept with
    | true =>
      have custom : p.txInfos.any (·.customContractWarning) = r.infos.customContractWarning := by rw [on.infos]; rfl
      simp only [Panel.dataWarningChoice, if_true, custom]
      exact accept_sound sound on next (by split <;> decide)
    | false => exact cancel_sound sound running on (on.warns.data shown)
  · -- the custom contract warning
    rename_i accept screen
    obtain rfl := Option.some.inj stepped
    obtain ⟨before, c, r, k, on⟩ := sound.onPage (by rw [screen]; rfl) (by rw [screen]; decide)
    obtain ⟨shown, next⟩ := (next_page on.page).2.1 screen
    have custom : r.infos.state = .customContract := by
      have kind := on.warns.contract
      rw [shown] at kind
      exact of_decide_eq_true kind.symm
    cases accept with
    | true => exact accept_sound sound on next (by decide)
    | false => exact cancel_sound sound running on (by rw [custom]; rfl)
  · -- the review
    rename_i confirm screen
    obtain rfl := Option.some.inj stepped
    obtain ⟨before, c, r, k, on⟩ := sound.onPage (by rw [screen]; rfl) (by rw [screen]; decide)
    cases confirm with
    | true =>
      let ret := Panel.repliedOk (confirmReview sdk r.infos.state p.answered)
      refine answer_sound (if ret then .transactionSigned else .transactionFailure) sound running on.waits ?_
      rw [Panel.reviewChoice, on.infos]
      rfl
    | false =>
      refine answer_sound .transactionRejected sound running on.waits ?_
      rw [Panel.reviewChoice, on.infos]
      rfl
  · -- the address
    rename_i confirm screen
    obtain rfl := Option.some.inj stepped
    have waits := sound.onAddress screen
    cases confirm with
    | true => exact answer_sound .addressVerified sound running waits rfl
    | false => exact answer_sound .addressRejected sound running waits rfl
  · -- a status page that is left
    rename_i status screen
    obtain rfl := Option.some.inj stepped
    have idle := sound.idle (by rw [screen]; rfl)
    exact ⟨⟨sound.stored, sound.initialized, fun _ => rfl, .quiet _ idle rfl⟩, .unseen rfl fun f meant => nomatch meant⟩
  · -- a switch of the settings
    rename_i token screen
    obtain rfl := Option.some.inj stepped
    have quiet : p.screen.asks = false := by rw [screen]; rfl
    have idle := sound.idle quiet
    refine ⟨⟨rfl, ?_, fun _ => rfl, .quiet _ idle quiet⟩, .step (.toggleSetting token) rfl ?_⟩
    · exact (flipBit_initialized p.storage token).trans sound.initialized
    · have toggled : storedSettings (flipBit p.storage token.bit) = p.world.app.settings.toggle token := by
        rw [storedSettings_flipBit, sound.stored]
      simp [step, running, idle, Panel.settingsControlsCallback, toggled]
  · exact absurd rfl stays
  · -- a message of the host
    obtain ⟨e, outside, moved⟩ := Option.bind_eq_some_iff.mp stepped
    obtain ⟨w, stepped', rfl⟩ := Option.map_eq_some_iff.mp moved
    refine ⟨refresh_sound sound outside stepped', .step e (outside_event outside) ?_⟩
    rw [refresh_world]
    exact stepped'

end Following

section Runs

variable {σ κ : Type} {sdk : Sdk σ κ} {version : AppVersion} {b : Boot} {storage : UInt8} {presses : List Press}
  {p p' : Panel σ κ}

theorem panelRun_sound (run : PanelRun sdk version b storage presses p) : p.Sound presses :=
  Run.history (I := fun presses p => p.Sound presses) (powerOn_sound sdk b storage)
    (fun _ _ _ _ sound stays stepped => (panelStep_sound sound stepped (of_decide_eq_true stays)).1) run

theorem powerOn_world (b : Boot) (storage : UInt8) :
    (powerOn sdk b storage).world = boot sdk { b with settings := storedSettings (nvAppStateInit storage) } := by
  unfold powerOn
  cases b.calledFromSwap <;> rfl

theorem panelRun_seen (presses : List Press) (p : Panel σ κ) (press : Press) (p' : Panel σ κ)
    (run : PanelRun sdk version b storage presses p) (stays : decide (press ≠ .quit) = true)
    (stepped : panelStep sdk version p press = some p') : SeenByApp sdk version p p' press :=
  (panelStep_sound (panelRun_sound run) stepped (of_decide_eq_true stays)).2

/-- **The device with its screens is the app.** What the presses are for the app is a run of it, from the settings in
NVRAM; only acceptances are left out, those of a warning. -/
theorem panel_refines (run : PanelRun sdk version b storage presses p) :
    ∃ es, AppRun sdk version anyStep { b with settings := storedSettings (nvAppStateInit storage) } es p.world ∧
      es.Sublist (presses.filterMap Press.event) ∧
      (es.filter fun e => !e.approves) = (presses.filterMap Press.event).filter fun e => !e.approves := by
  have viewed := run.refines panelRun_seen
  rw [powerOn_world] at viewed
  exact viewed

/-- What was secret stays all there is, unless a request is approved. -/
theorem quiet_step (formats : sdk.FormatsHex) {w w' : World σ κ} {e : Event} {answered : List (Request × Bool)}
    (noSwap : w.app.calledFromSwap = false) (consents : Consents sdk w answered)
    (stepped : step sdk version w e = some w') (denied : e.answers ≠ some true) :
    w'.trace.filter Effect.isSecret = w.trace.filter Effect.isSecret := by
  obtain ⟨newer, answers, consents', -⟩ := step_consents formats noSwap consents stepped
  rw [consents.secrets, consents'.secrets]
  apply ConsentRules.granted_denied
  intro q confirm among
  have own : confirm ∈ e.answers.toList := answers ▸ List.mem_map_of_mem among
  rw [Option.mem_toList] at own
  cases confirm with
  | false => rfl
  | true => exact absurd own denied

/-- What an address comes to is not secret. -/
theorem address_noSecret (context : PublicKeyContext) :
    ((Request.address context).approved sdk).filter Effect.isSecret = [] := by
  have long : context.response.length ≠ 65 := by
    simp only [PublicKeyContext.response, List.length_append, List.length_cons, List.length_nil, context.publicKey.size]
    omega
  simp [Request.approved, Effect.isSecret, long]

theorem quit_trace (stepped : panelStep sdk version p .quit = some p') : p'.world.trace = .exit :: p.world.trace := by
  unfold panelStep at stepped
  split at stepped
  · simp at stepped
  · cases screen : p.screen <;> simp [screen, Press.outside] at stepped
    rw [← stepped]
    rfl

theorem event_answer {press : Press} {accept : Bool} (meant : press.event = some (.answer accept)) :
    press = .choose accept := by
  cases press <;> simp [Press.event, Press.outside] at meant
  rw [meant]

/-- An acceptance puts out nothing that is secret, but on the last page. -/
theorem choose_true (sound : p.Sound presses) (stepped : panelStep sdk version p (.choose true) = some p') :
    p'.world.trace.filter Effect.isSecret = p.world.trace.filter Effect.isSecret ∨
    p.screen = .transaction ∧ ∃ before c r, p.OnPage presses before c r (r.infos.pages.length - 1) ∧
      p'.world.trace = (p.world.app.requested r.infos.state).approved sdk ++ p.world.trace := by
  unfold panelStep at stepped
  split at stepped
  · simp at stepped
  cases screen : p.screen with
  | dataWarning | customContractWarning =>
    left
    simp only [screen, Option.some.injEq] at stepped
    rw [← stepped]
    rfl
  | transaction =>
    right
    obtain ⟨before, c, r, k, on⟩ := sound.onPage (by rw [screen]; rfl) (by rw [screen]; decide)
    have last := (next_page on.page).2.2 screen
    obtain rfl : k = r.infos.pages.length - 1 := by omega
    refine ⟨rfl, before, c, r, on, ?_⟩
    simp only [screen, Option.some.injEq, Panel.reviewChoice, on.infos] at stepped
    rw [← stepped]
    exact (confirmReview_approved sdk p.answered r.infos.state).1.trans (by rw [Panel.answered, requested_idle])
  | address =>
    left
    simp only [screen, Option.some.injEq] at stepped
    rw [← stepped]
    have sent := (confirmReview_approved sdk p.answered .verifyAddress).1
    change (confirmReview sdk .verifyAddress p.answered).trace.filter Effect.isSecret = _
    rw [sent, List.filter_append]
    simp only [App.requested, address_noSecret, List.nil_append]
    rfl
  | off | home | status => simp [screen, Press.outside] at stepped

/-- **Where the user started the app, nothing secret is put out before every page was accepted**, the warnings of the
review first and in their order, since the APDU that started it; what is put out then is what its approval means. -/
theorem secrets_behind_pages (formats : sdk.FormatsHex) (user : b.calledFromSwap = false)
    (run : PanelRun sdk version b storage presses p) {press : Press} (stepped : panelStep sdk version p press = some p')
    (secret : p'.world.trace.filter Effect.isSecret ≠ p.world.trace.filter Effect.isSecret) :
    press = .choose true ∧ p.screen = .transaction ∧ ∃ before c r,
      p.OnPage presses before c r (r.infos.pages.length - 1) ∧
      p'.world.trace = (p.world.app.requested r.infos.state).approved sdk ++ p.world.trace := by
  have sound := panelRun_sound run
  by_cases chosen : press = .choose true
  · subst chosen
    rcases choose_true sound stepped with kept | confirmed
    · exact absurd kept secret
    · exact ⟨rfl, confirmed⟩
  · refine absurd ?_ secret
    by_cases quits : press = .quit
    · rw [quits] at stepped
      rw [quit_trace stepped]
      rfl
    cases (panelStep_sound sound stepped quits).2 with
    | unseen same => rw [same]
    | step e meant stepped' =>
      obtain ⟨es, viewed, -⟩ := run.refines panelRun_seen
      rw [powerOn_world] at viewed
      obtain ⟨noSwap, answered, -, consents, -⟩ := run_consents formats (by exact user) viewed
      refine quiet_step formats noSwap consents stepped' fun approved => chosen ?_
      cases e <;> simp [Event.answers] at approved
      subst approved
      exact event_answer meant

/-- The switch a press turns. -/
def Press.switch : Press → Option Setting
  | .toggle token => some token
  | _ => none

theorem move_settings {s s' : Session σ κ} {e : Event} {news : List Effect} (moved : Move sdk s e news s')
    (noSwitch : ∀ token, e ≠ .toggleSetting token) : s'.settings = s.settings := by
  cases moved with
  | apdu _ _ moved => exact (apduMove_kept moved).settings
  | answer _ _ moved => exact (answerMove_called moved).settings
  | toggleSetting _ token => exact absurd rfl (noSwitch token)
  | _ => rfl

/-- Only a switch changes the settings. -/
theorem panelStep_settings {press : Press} (sound : p.Sound presses)
    (stepped : panelStep sdk version p press = some p') (stays : press ≠ .quit) :
    p'.world.app.settings = press.switch.toList.foldl Settings.toggle p.world.app.settings := by
  cases (panelStep_sound sound stepped stays).2 with
  | unseen same silent =>
    rw [same]
    cases press with
    | toggle token =>
      have approves := silent _ rfl
      simp [Event.approves] at approves
    | _ => rfl
  | step e meant stepped =>
    obtain ⟨-, news, -, moved⟩ := step_moves sdk version p.world stepped
    cases press with
    | toggle token =>
      obtain rfl := Option.some.inj meant
      generalize before : p.world.session = s, after : p'.world.session = s' at moved
      have settingsBefore : p.world.app.settings = s.settings := congrArg Session.settings before
      have settingsAfter : p'.world.app.settings = s'.settings := congrArg Session.settings after
      cases moved with
      | toggleSetting => rw [settingsAfter, settingsBefore]; rfl
    | _ =>
      refine move_settings moved ?_
      rintro token rfl
      simp [Press.event, Press.outside] at meant

/-- The settings as GET_APP_CONFIGURATION sends them: bit 2 is reserved. -/
def wireSettings (storage : UInt8) : UInt8 := (storage &&& 3) ||| ((storage &&& 4) <<< (1 : UInt8))

theorem handleGetAppConfiguration_wire (w : World σ κ) (stored : w.app.settings = storedSettings storage) :
    (handleGetAppConfiguration version w).trace =
      .reply [wireSettings storage, version.major, version.minor, version.patch] .ok :: w.trace := by
  have bits (n : UInt8) : (if hasSetting n 0 then (1 : UInt8) <<< 0 else 0) |||
      (if hasSetting n 1 then (1 : UInt8) <<< 1 else 0) ||| (if hasSetting n 2 then (1 : UInt8) <<< 3 else 0) =
        wireSettings n := by
    revert n
    refine byte_forall ?_
    decide +kernel
  rw [← bits]
  simp only [handleGetAppConfiguration, stored]
  rfl

/-- **The settings are what the user switched**, from the byte in NVRAM on: the home screen shows them, the host reads
them, and a restart finds them again. -/
theorem settings_survive (run : PanelRun sdk version b storage presses p) :
    p.world.app.settings =
        (presses.filterMap Press.switch).foldl Settings.toggle (storedSettings (nvAppStateInit storage)) ∧
      (p.screen = .home → p.switches = p.world.app.settings) ∧
      (∀ b' : Boot, (powerOn sdk b' p.storage).world.app.settings = p.world.app.settings) ∧
      (handleGetAppConfiguration version p.world).trace.head? = some (.reply
        [wireSettings p.storage, version.major, version.minor, version.patch] .ok) := by
  have sound := panelRun_sound run
  refine ⟨?_, fun home => (sound.home home).trans sound.stored.symm, fun b' => ?_, ?_⟩
  · clear sound
    induction run with
    | start =>
      rw [powerOn_world]
      rfl
    | next before stays stepped ih =>
      rw [panelStep_settings (panelRun_sound before) stepped (of_decide_eq_true stays), ih, List.filterMap_append,
        List.foldl_append]
      rename_i press _ _
      cases press
      all_goals rfl
  · have kept : nvAppStateInit p.storage = p.storage := by simp [nvAppStateInit, sound.initialized]
    rw [powerOn_world, kept, sound.stored]
    rfl
  · rw [handleGetAppConfiguration_wire p.world sound.stored]
    rfl

end Runs

section Sample

/-- A transfer with extra data. -/
def sampleMemo : Command :=
  ⟨Ins.cla, Ins.sign, P1.sign, 0, pathBytes 0 ++ (delimitedField 10 [1, 2, 3] ++ sampleTransfer), by decide⟩

/-- It is sent, its warning is accepted, and one setting was switched before. -/
def memoPresses : List Press := [.toggle .customContract, .apdu sampleMemo, .choose true]

theorem memoPresses_run : ∃ p, PanelRun device deviceVersion deviceBoot 0x81 memoPresses p ∧
    ∃ p', panelStep device deviceVersion p (.choose true) = some p' ∧
      p'.world.trace.filter Effect.isSecret ≠ p.world.trace.filter Effect.isSecret := by
  obtain ⟨p, run, signs⟩ := Run.exists_of_exec (panelStep device deviceVersion) (fun _ press => press ≠ .quit)
    (powerOn device deviceBoot 0x81) memoPresses
    (fun p => (panelStep device deviceVersion p (.choose true)).any fun p' =>
      (p'.world.trace.filter Effect.isSecret).length ≠ (p.world.trace.filter Effect.isSecret).length) (by decide +kernel)
  obtain ⟨p', stepped, longer⟩ := (Option.any_eq_true _ _).mp signs
  refine ⟨p, run, p', stepped, fun same => ?_⟩
  rw [same] at longer
  simp at longer

theorem panel_refines_memo : ∃ p es, PanelRun device deviceVersion deviceBoot 0x81 memoPresses p ∧
    AppRun device deviceVersion anyStep { deviceBoot with settings := storedSettings (nvAppStateInit 0x81) } es p.world := by
  obtain ⟨p, run, -⟩ := memoPresses_run
  obtain ⟨es, viewed, -⟩ := panel_refines run
  exact ⟨p, es, run, viewed⟩

theorem secrets_behind_pages_memo : ∃ p before c r, PanelRun device deviceVersion deviceBoot 0x81 memoPresses p ∧
    p.OnPage memoPresses before c r (r.infos.pages.length - 1) := by
  obtain ⟨p, run, p', stepped, secret⟩ := memoPresses_run
  obtain ⟨-, -, before, c, r, on, -⟩ := secrets_behind_pages device_formatsHex rfl run stepped secret
  exact ⟨p, before, c, r, run, on⟩

theorem settings_survive_memo : ∃ p, PanelRun device deviceVersion deviceBoot 0x81 memoPresses p ∧
    p.world.app.settings = ⟨true, true, false⟩ := by
  obtain ⟨p, run, -⟩ := memoPresses_run
  obtain ⟨switched, -⟩ := settings_survive run
  exact ⟨p, run, by rw [switched]; decide⟩

end Sample

end TronLedger
