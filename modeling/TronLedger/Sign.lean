import TronLedger.Render

/-!
# INS_SIGN

`handleSign`: a session is opened by `P1_FIRST` or `P1_SIGN`, continued by `P1_MORE`,
completed by `P1_LAST`, and `P1_TRC10_NAME` adds signed metadata in between.

* `signEntry` is the part before the data is hashed; it either answers or leaves the bytes
  to hash.
* `signChunk` hashes and parses them, `signFinalise` computes the digest and renders.
-/

namespace TronLedger

namespace P1

def sign : UInt8 := 0x10
def first : UInt8 := 0x00
def more : UInt8 := 0x80
def last : UInt8 := 0x90
def trc10Name : UInt8 := 0xA0

end P1

section

variable {σ κ : Type} (sdk : Sdk σ κ)

/-- An APDU that opens a session: the path and, if it is accepted, a fresh context. -/
def signOpen (workBuffer : Bytes) (w : World σ κ) : Except (World σ κ) (World σ κ × Bytes) :=
  let (path, ret) := readBip32Path workBuffer w.app.transactionContext.bip32Path
  let w := w.setPath path
  match ret with
  | none => .error (w.ioSendSw .incorrectBip32Path)
  | some n =>
    let w := w.initTx sdk
    .ok (w.setUi { w.app.ui with customContractField := 0 }, workBuffer.drop n)

/-- Replace `txContent`, which a metadata parser updated in place. -/
def World.setContent (w : World σ κ) (content : TxContent) : World σ κ :=
  { w with app := { w.app with txContent := content } }

/-- An APDU with token or exchange metadata; nothing of it is left to hash. -/
def signMetadata (p1 : UInt8) (workBuffer : Bytes) (w : World σ κ) :
    Except (World σ κ) (World σ κ × Bytes) :=
  match w.app.txContent.contractType with
  | .transferAsset | .exchangeCreate =>
    -- Max 2 Tokens Name
    if 1 < p1 &&& 0x07 then .error (w.ioSendSw .incorrectP1P2)
    else
      let tokenId : Fin 2 := if p1 &&& 0x07 = 0 then 0 else 1
      match parseTokenName sdk tokenId workBuffer w.app.txContent with
      | (false, content) => .error ((w.setContent content).ioSendSw .incorrectData)
      | (true, content) =>
        let w := w.setContent content
        if p1 &&& 0x08 = 0 then .error (w.ioSendSw .ok) else .ok (w, [])
  | .exchangeInject | .exchangeWithdraw | .exchangeTransaction =>
    -- Max 1 pair set
    if 0 < p1 &&& 0x07 then .error (w.ioSendSw .incorrectP1P2)
    else if p1 &&& 0x08 = 0 then .error (w.ioSendSw .incorrectP1P2)
    else
      match parseExchange sdk workBuffer w.app.txContent with
      | (false, content) => .error ((w.setContent content).ioSendSw .incorrectData)
      | (true, content) => .ok (w.setContent content, [])
  | _ => .error (w.ioSendSw .incorrectData)

/-- Up to the check of the context: `.error` when the APDU has been answered, else the bytes
to hash. -/
def signEntry (p1 : UInt8) (workBuffer : Bytes) (w : World σ κ) :
    Except (World σ κ) (World σ κ × Bytes) :=
  if p1 = P1.first ∨ p1 = P1.sign then signOpen sdk workBuffer w
  else if p1 &&& 0xF0 = P1.trc10Name then signMetadata sdk p1 workBuffer w
  else if p1 ≠ P1.more ∧ p1 ≠ P1.last then .error (w.ioSendSw .incorrectP1P2)
  else .ok (w, workBuffer)

def renderContext (w : World σ κ) : RenderContext σ κ where
  sdk := sdk
  settings := w.app.settings
  contacts := w.app.contacts
  calledFromSwap := w.app.calledFromSwap
  swapValidated := w.app.swapValidated
  msg := w.app.msg
  hash := w.app.transactionContext.hash
  residue := sdk.residue w.trace.length

/-- `cx_hash_no_throw(&txContext.sha2, CX_LAST, ...)` into `transactionContext.hash`. -/
def World.finishHash (w : World σ κ) : World σ κ :=
  let (digest, sha2) := sdk.sha256.last w.app.txContext.sha2
  World.setHash { w with app := { w.app with txContext := { w.app.txContext with sha2 := sha2 } } }
    digest

/-- What `handleSign` does with the verdict of the rendering. -/
def applyVerdict (verdict : Verdict) (w : World σ κ) : World σ κ :=
  match verdict with
  | .refuse sw => w.refuse sdk sw
  | .thrown e => w.throwSw e
  | .display state => uxFlowDisplay sdk state (0 < w.app.txContent.dataBytes) w
  | .swapSign => uiCallbackTxOk sdk (w.log (.swapAccepted w.app.txContent w.app.ui))

/-- The last data of the transaction has been parsed. -/
def signFinalise (w : World σ κ) : World σ κ :=
  let w := w.finishHash sdk
  let content := w.app.txContent
  let (verdict, ui) := (renderTransaction (renderContext sdk w) content).verdict w.app.ui
  applyVerdict sdk verdict ((w.setUi ui).setContent (renderedContent content))

/-- `cx_hash_no_throw(&txContext.sha2, 0, workBuffer, dataLength, ...)` -/
def World.hashTx (w : World σ κ) (payload : Bytes) : World σ κ :=
  let txContext := w.app.txContext
  World.log { w with app := { w.app with
    txContext := { txContext with sha2 := sdk.sha256.update txContext.sha2 payload } } }
    (.hashTx payload)

def World.setSwapResponseReady (w : World σ κ) : World σ κ :=
  World.log { w with app := { w.app with swapResponseReady := true } } .swapResponseReady

/-- `processTx` on the globals. -/
def World.processTx (w : World σ κ) (payload : Bytes) : ParserStatus × World σ κ :=
  let (status, content, msg) :=
    TronLedger.processTx w.app.settings.dataAllowed payload w.app.txContent w.app.msg
  (status, World.log { w with app := { w.app with txContent := content, msg := msg } }
    (.processTx payload status))

/-- The parsing of a hashed chunk, and what follows from its status. -/
def signParse (p1 : UInt8) (payload : Bytes) (w : World σ κ) : World σ κ :=
  match w.processTx payload with
  | (.processing, w) =>
    -- Last data should not return
    if p1 = P1.last ∨ p1 = P1.sign then signFinalise sdk w else w.ioSendSw .ok
  | (.finished, w) => signFinalise sdk w
  | (.fault, w) => (w.initTx sdk).ioSendSw .incorrectData
  | (.missingSettingDataAllowed, w) =>
    (w.initTx sdk).ioSendSw
      (if w.app.calledFromSwap then .swapCheckingFail else .missingSettingDataAllowed)

/-- Hash the data, then parse it. In a swap the app quits after the next reply, and a second
transaction is stopped here. -/
def signChunk (p1 : UInt8) (payload : Bytes) (w : World σ κ) : World σ κ :=
  let w := w.hashTx sdk payload
  if w.app.calledFromSwap then
    if w.app.swapResponseReady then w.osSchedExit
    else signParse sdk p1 payload w.setSwapResponseReady
  else signParse sdk p1 payload w

def handleSign (p1 p2 : UInt8) (workBuffer : Bytes) (w : World σ κ) : World σ κ :=
  if p2 ≠ 0x00 then w.ioSendSw .incorrectP1P2
  else
    match signEntry sdk p1 workBuffer w with
    | .error w => w
    | .ok (w, payload) =>
      if !w.app.txContext.initialized then w.ioSendSw .incorrectP1P2
      else signChunk sdk p1 payload w

end

end TronLedger
