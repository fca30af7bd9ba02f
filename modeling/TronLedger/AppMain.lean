import TronLedger.Handlers
import TronLedger.Lib.Run

/-!
# The main loop

`app_main` and `apdu_dispatcher`: the app is a machine whose events are APDUs, answers to
the review on screen, and what the user does from the idle menu. A review is answered
before the next APDU is processed.
-/

namespace TronLedger

namespace Ins

def cla : UInt8 := 0xE0
def getPublicKey : UInt8 := 0x02
def sign : UInt8 := 0x04
def signTxnHash : UInt8 := 0x05
def getAppConfiguration : UInt8 := 0x06
def signPersonalMessage : UInt8 := 0x08
def getEcdhSecret : UInt8 := 0x0A
def signTip712Message : UInt8 := 0x0C

end Ins

inductive Setting
  | dataAllowed
  | customContract
  | signByHash
  deriving DecidableEq

def Settings.toggle (s : Settings) : Setting → Settings
  | .dataAllowed => { s with dataAllowed := !s.dataAllowed }
  | .customContract => { s with customContract := !s.customContract }
  | .signByHash => { s with signByHash := !s.signByHash }

inductive Event
  | apdu (c : Command)
  | badFrame
  | answer (confirm : Bool)
  | toggleSetting (s : Setting)
  | setContacts (contacts : List Contact)
  | ioReset
  deriving DecidableEq

section

variable {σ κ : Type} (sdk : Sdk σ κ) (version : AppVersion)

/-- The `switch` of `apdu_dispatcher`. -/
def dispatchIns (c : Command) (w : World σ κ) : World σ κ :=
  if c.ins = Ins.getPublicKey then handleGetPublicKey sdk c.p1 c.p2 c.data w
  else if c.ins = Ins.sign then handleSign sdk c.p1 c.p2 c.data w
  else if c.ins = Ins.signTxnHash then handleSignByHash sdk c.p1 c.p2 c.data w
  else if c.ins = Ins.getAppConfiguration then handleGetAppConfiguration version w
  else if c.ins = Ins.getEcdhSecret then handleECDHSecret sdk c.p1 c.p2 c.data w
  else if c.ins = Ins.signPersonalMessage then handleSignPersonalMessage sdk c.p1 c.p2 c.data w
  else if c.ins = Ins.signTip712Message then handleSignTIP712Message sdk c.p1 c.p2 c.data w
  else w.ioSendSw .insNotSupported

/-- No command starts with a contact or a service left from an earlier one. -/
def World.forgetContacts (w : World σ κ) : World σ κ :=
  w.setUi { w.app.ui with
    recipientContact := none
    senderContact := none
    recipientService := none }

def apduDispatcher (c : Command) (w : World σ κ) : World σ κ :=
  if c.cla ≠ Ins.cla then w.ioSendSw .claNotSupported
  else
    let w := w.forgetContacts
    if w.app.calledFromSwap ∧ c.ins ≠ Ins.getPublicKey ∧ c.ins ≠ Ins.sign then
      w.ioSendSw .swapCheckingFail
    else dispatchIns sdk version c w

/-- `io_recv_command`: the frame lies in the APDU buffer. -/
def World.receive (w : World σ κ) (c : Command) : World σ κ :=
  let frame := [c.cla, c.ins, c.p1, c.p2, UInt8.ofNat c.data.length] ++ c.data
  World.log (w.setUi { w.app.ui with apduBuffer := w.app.ui.apduBuffer.write 0 frame }) (.apdu c)

/-- One event, when it can happen. -/
def step (w : World σ κ) (e : Event) : Option (World σ κ) :=
  if w.app.exited then none
  else
    match e, w.app.pending with
    | .answer confirm, some state =>
      some (reviewChoice sdk confirm state { w with app := { w.app with pending := none } })
    | .answer _, none => none
    | _, some _ => none
    | .apdu c, none => some (apduDispatcher sdk version c (w.receive c))
    | .badFrame, none => some (w.ioSendSw .wrongDataLength)
    | .toggleSetting s, none =>
      some { w with app := { w.app with settings := w.app.settings.toggle s } }
    | .setContacts contacts, none => some { w with app := { w.app with contacts := contacts } }
    | .ioReset, none => some (w.terminateSigningSession sdk).osSchedExit

/-- What the app is started with. -/
structure Boot where
  settings : Settings
  contacts : List Contact
  calledFromSwap : Bool
  swapValidated : SwapValidated

/-- The globals when the main loop is entered. -/
def boot (b : Boot) : World σ κ where
  app := {
    settings := b.settings
    contacts := b.contacts
    calledFromSwap := b.calledFromSwap
    swapResponseReady := false
    swapValidated := b.swapValidated
    txContext := ⟨sdk.sha256.zeroed, false⟩
    txContent := .empty
    msg := default
    transactionContext := default
    publicKeyContext := default
    personalMsgCtx := ⟨sdk.keccak256.zeroed, false⟩
    messageSigningContext712 := default
    ui := default
    pending := none
    exited := false }
  trace := []

/-- The runs of the app whose steps all meet `guard`. -/
abbrev AppRun (guard : World σ κ → Event → Bool) (b : Boot) : List Event → World σ κ → Prop :=
  Run (step sdk version) guard (boot sdk b)

end

end TronLedger
