import TronLedger.Sign

/-!
# The other instructions

Personal messages, typed messages, bare hashes, shared secrets, public keys and the app
configuration.
-/

namespace TronLedger

section

variable {σ κ : Type} (sdk : Sdk σ κ)

/-- `SIGN_MAGIC` -/
def signMagic : Bytes := 0x19 :: ascii "TRON Signed Message:\n"

/-- `snprintf(tmp, 11, "%d", length)`: the conversion is signed, and cut to ten characters. -/
def personalLength (length : UInt32) : Bytes := (signedDecimal length.toInt32.toInt).take 10

namespace World

/-- `explicit_bzero(&personal_msg_ctx, ...)` -/
def clearPersonalMsgCtx (w : World σ κ) : World σ κ :=
  { w with app := { w.app with personalMsgCtx := ⟨sdk.keccak256.zeroed, false⟩ } }

def setSha3 (w : World σ κ) (sha3 : κ) : World σ κ :=
  { w with app := { w.app with personalMsgCtx := { w.app.personalMsgCtx with sha3 := sha3 } } }

def setDataBytes (w : World σ κ) (dataBytes : UInt64) : World σ κ :=
  w.setContent { w.app.txContent with dataBytes := dataBytes }

/-- Header and length of a new message go into a fresh Keccak context. -/
def startPersonalMessage (w : World σ κ) (length : UInt32) : World σ κ :=
  let sha3 := sdk.keccak256.absorb [signMagic, personalLength length]
  World.log { w.setDataBytes length.toUInt64 with app := { (w.setDataBytes length.toUInt64).app with
    personalMsgCtx := ⟨sha3, true⟩ } } (.messageStart length)

end World

/-- The first APDU of a message: its path, its length, and the bytes that follow. -/
def personalOpen (workBuffer : Bytes) (w : World σ κ) :
    Except (World σ κ) (World σ κ × Bytes) :=
  let (path, ret) := readBip32Path workBuffer w.app.transactionContext.bip32Path
  let w := w.setPath path
  match ret with
  | none => .error ((w.clearPersonalMsgCtx sdk).ioSendSw .incorrectBip32Path)
  | some n =>
    let workBuffer := workBuffer.drop n
    if workBuffer.length < 4 then
      .error ((w.clearPersonalMsgCtx sdk).ioSendSw .incorrectLength)
    else
      let length := UInt32.ofNat (beNat (workBuffer.take 4))
      .ok (w.startPersonalMessage sdk length, workBuffer.drop 4)

/-- The last byte of the message has been hashed. -/
def personalFinalise (w : World σ κ) : World σ κ :=
  let digest := (sdk.keccak256.last w.app.personalMsgCtx.sha3).1
  let w := (w.setHash digest).clearPersonalMsgCtx sdk
  let w := w.setUi { w.app.ui with
    fullContract := sdk.putHex w.app.ui.fullContract 0 digest.bytes 67 }
  match initPublicKeyContext sdk w.app.transactionContext.bip32Path w.app.publicKeyContext
      w.app.ui.fromAddress with
  | none => w.ioSendSw .securityStatusNotSatisfied
  | some (context, fromAddress) =>
    uxFlowDisplay sdk .signPersonalMessage false
      { w with app := { w.app with
        publicKeyContext := context
        ui := { w.app.ui with fromAddress := fromAddress } } }

/-- Hash message bytes that the announced length still allows. -/
def personalChunk (content : Bytes) (w : World σ κ) : World σ κ :=
  if w.app.txContent.dataBytes < UInt64.ofNat content.length then
    (w.clearPersonalMsgCtx sdk).ioSendSw .incorrectLength
  else
    let w := (w.setSha3 (sdk.keccak256.update w.app.personalMsgCtx.sha3 content)).log
      (.messageBytes content)
    let w := w.setDataBytes (w.app.txContent.dataBytes - UInt64.ofNat content.length)
    if w.app.txContent.dataBytes = 0 then personalFinalise sdk w else w.ioSendSw .ok

def handleSignPersonalMessage (p1 p2 : UInt8) (workBuffer : Bytes) (w : World σ κ) : World σ κ :=
  if !w.app.settings.signByHash then w.ioSendSw .missingSettingSignByHash
  else
    let opened :=
      if p1 = P1.first ∨ p1 = P1.sign then personalOpen sdk workBuffer w
      else if p1 ≠ P1.more ∨ !w.app.personalMsgCtx.initialized then
        .error (w.ioSendSw .incorrectP1P2)
      else .ok (w, workBuffer)
    match opened with
    | .error w => w
    | .ok (w, content) =>
      if p2 ≠ 0 then w.ioSendSw .incorrectP1P2 else personalChunk sdk content w

/-- The path loop of the TIP-712 handler: the indices written, and the bytes left behind all
of them. -/
def readPath712 : Nat → Nat → Bytes → Vector UInt32 10 → Vector UInt32 10 × Option Bytes
  | 0, _, data, path => (path, some data)
  | n + 1, i, data, path =>
    if data.length < 4 then (path, none)
    else readPath712 n (i + 1) (data.drop 4) (path.setIfInBounds i (UInt32.ofNat (beNat (data.take 4))))

def World.setTip712 (w : World σ κ) (context : MessageSigningContext712) : World σ κ :=
  { w with app := { w.app with messageSigningContext712 := context } }

def handleSignTIP712Message (p1 p2 : UInt8) (workBuffer : Bytes) (w : World σ κ) : World σ κ :=
  if !w.app.settings.signByHash then w.ioSendSw .missingSettingSignByHash
  else if p1 ≠ 0 ∨ p2 ≠ 0 then w.ioSendSw .incorrectP1P2
  else
    match workBuffer with
    | [] => w.ioSendSw .incorrectData
    | pathLength :: data =>
      let w := w.setTip712 { w.app.messageSigningContext712 with pathLength := pathLength }
      if pathLength < 1 ∨ 10 < pathLength then w.ioSendSw .incorrectData
      else
        let (path, rest) :=
          readPath712 pathLength.toNat 0 data w.app.messageSigningContext712.bip32Path
        let w := w.setTip712 { w.app.messageSigningContext712 with bip32Path := path }
        match rest with
        | none => w.ioSendSw .incorrectData
        | some data =>
          if pathLength < 2 ∨ path.toList.take 2 ≠ tronBip32Prefix then w.ioSendSw .incorrectData
          else if data.length < 32 * 2 then w.ioSendSw .incorrectData
          else
            let w := w.setTip712 { w.app.messageSigningContext712 with
              domainHash := Buf.ofBytes 32 (data.take 32)
              messageHash := Buf.ofBytes 32 ((data.drop 32).take 32) }
            match initPublicKeyContext sdk (path.toList.take pathLength.toNat) w.app.publicKeyContext
                w.app.ui.fromAddress with
            | none => w.ioSendSw .securityStatusNotSatisfied
            | some (context, fromAddress) =>
              let rawAddress := getAddressFromPublicKey sdk context.publicKey.bytes
              uxFlowDisplay sdk .signTip72Transaction false
                { w with app := { w.app with
                  publicKeyContext := context
                  ui := { w.app.ui with
                    fromAddress := fromAddress
                    senderContact := getAddressBookContact w.app.contacts rawAddress } } }

def handleSignByHash (p1 p2 : UInt8) (workBuffer : Bytes) (w : World σ κ) : World σ κ :=
  if p1 ≠ 0x00 ∨ p2 ≠ 0x00 then w.ioSendSw .incorrectP1P2
  else if !w.app.settings.signByHash then w.ioSendSw .missingSettingSignByHash
  else
    let (path, ret) := readBip32Path workBuffer w.app.transactionContext.bip32Path
    let w := w.setPath path
    match ret with
    | none => w.ioSendSw .incorrectBip32Path
    | some n =>
      let data := workBuffer.drop n
      match initPublicKeyContext sdk path w.app.publicKeyContext w.app.ui.fromAddress with
      | none => w.ioSendSw .securityStatusNotSatisfied
      | some (context, fromAddress) =>
        let w : World σ κ := { w with app := { w.app with
          publicKeyContext := context
          ui := { w.app.ui with fromAddress := fromAddress } } }
        if data.length ≠ 32 then w.ioSendSw .incorrectLength
        else
          let w := w.setHash (Buf.ofBytes 32 data)
          let w := w.setUi { w.app.ui with
            fullHash := sdk.putHex w.app.ui.fullHash 0 data 65
            fullContract := w.app.ui.fullContract.strlcpy 0 (ascii "Unknown Type") 67 }
          uxFlowDisplay sdk .simpleTransaction false w

def handleECDHSecret (p1 p2 : UInt8) (workBuffer : Bytes) (w : World σ κ) : World σ κ :=
  if p1 ≠ 0x00 ∨ p2 ≠ 0x01 then w.ioSendSw .incorrectP1P2
  else
    let (path, ret) := readBip32Path workBuffer w.app.transactionContext.bip32Path
    let w := w.setPath path
    match ret with
    | none => w.ioSendSw .incorrectBip32Path
    | some n =>
      let data := workBuffer.drop n
      if data.length ≠ 65 then w.ioSendSw .incorrectLength
      else
        match initPublicKeyContext sdk path w.app.publicKeyContext w.app.ui.fromAddress with
        | none => w.ioSendSw .securityStatusNotSatisfied
        | some (context, fromAddress) =>
          uxFlowDisplay sdk .sharedEcdhSecret false
            { w with app := { w.app with
              publicKeyContext := context
              transactionContext := { w.app.transactionContext with
                signature := Buf.ofBytes 65 data }
              ui := { w.app.ui with
                fromAddress := fromAddress
                toAddress := getBase58FromPublicKey sdk data w.app.ui.toAddress } } }

/-- `handleGetPublicKey`; the path is a local variable here. -/
def handleGetPublicKey (p1 p2 : UInt8) (dataBuffer : Bytes) (w : World σ κ) : World σ κ :=
  let p2Chain := p2 &&& 0x3F
  if p1 ≠ 0x01 ∧ p1 ≠ 0x00 then w.ioSendSw .incorrectP1P2
  else if p2Chain ≠ 0x01 ∧ p2Chain ≠ 0x00 then w.ioSendSw .incorrectP1P2
  else
    let w : World σ κ := { w with app := { w.app with
      publicKeyContext := { w.app.publicKeyContext with getChaincode := p2Chain = 0x01 } } }
    match readBip32Path dataBuffer [] with
    | (_, none) => w.ioSendSw .incorrectBip32Path
    | (path, some _) =>
      match initPublicKeyContext sdk path w.app.publicKeyContext
          w.app.publicKeyContext.address58 with
      | none => w.ioSendSw .securityStatusNotSatisfied
      | some (context, address58) =>
        let w : World σ κ := { w with app := { w.app with
          publicKeyContext := { context with address58 := address58 }
          ui := { w.app.ui with toAddress := address58 } } }
        if p1 = 0x00 then helperSendResponsePubkey w
        else if w.app.calledFromSwap then w.ioSendSw .swapCheckingFail
        else uxFlowDisplay sdk .verifyAddress false w

/-- `MAJOR_VERSION`, `MINOR_VERSION` and `PATCH_VERSION` come from the build. -/
structure AppVersion where
  major : UInt8
  minor : UInt8
  patch : UInt8

def handleGetAppConfiguration (version : AppVersion) (w : World σ κ) : World σ κ :=
  let bit (set : Bool) (position : UInt8) : UInt8 := if set then 1 <<< position else 0
  let settings := w.app.settings
  let config := bit settings.dataAllowed 0 ||| bit settings.customContract 1 |||
    bit settings.signByHash 3
  w.ioSendResponse [config, version.major, version.minor, version.patch] .ok

end

end TronLedger
