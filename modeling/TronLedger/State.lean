import TronLedger.ProcessTx
import TronLedger.UInt256

/-!
# The app's globals

The global variables of the app, the status words it answers with, and the log of what it
does that its environment can see. Functions take the app with its log and return both.

* `Effect` lists the calls whose order matters: an APDU arriving, the transaction context
  being initialised, hashed into or parsed, a review started, a reply, a signature made.
* The log is kept newest first.
-/

namespace TronLedger

abbrev Sw := UInt16

namespace Sw

def ok : Sw := 0x9000
def incorrectLength : Sw := 0x6700
def securityStatusNotSatisfied : Sw := 0x6982
def conditionsOfUseNotSatisfied : Sw := 0x6985
def incorrectData : Sw := 0x6a80
def incorrectBip32Path : Sw := 0x6a8a
def missingSettingDataAllowed : Sw := 0x6a8b
def missingSettingSignByHash : Sw := 0x6a8c
def missingSettingCustomContract : Sw := 0x6a8d
def swapCheckingFail : Sw := 0x6a8e
def wrongDataLength : Sw := 0x6a87
def incorrectP1P2 : Sw := 0x6b00
def insNotSupported : Sw := 0x6d00
def claNotSupported : Sw := 0x6e00

end Sw

/-- `command_t`; `lc` is the length of `data`, one byte on the wire. -/
structure Command where
  cla : UInt8
  ins : UInt8
  p1 : UInt8
  p2 : UInt8
  data : Bytes
  short : data.length < 256
  deriving DecidableEq

structure Settings where
  dataAllowed : Bool
  customContract : Bool
  signByHash : Bool
  deriving DecidableEq

/-- `s_ab_contact`: an address-book entry. -/
structure Contact where
  ledgerAccount : Bool
  contactName : Bytes
  scope : Bytes
  identifier : Address
  deriving DecidableEq

/-- The indices in use of a `bip32_path_t`; the length is their number. -/
abbrev Bip32Path := List UInt32

structure TxContext (σ : Type) where
  sha2 : σ
  initialized : Bool
  deriving DecidableEq

structure TransactionContext where
  bip32Path : Bip32Path
  hash : Buf 32
  signature : Buf 65
  deriving DecidableEq, Inhabited

structure PublicKeyContext where
  publicKey : Buf 65
  address58 : Buf 35
  chainCode : Buf 32
  getChaincode : Bool
  deriving DecidableEq, Inhabited

structure PersonalMsgCtx (κ : Type) where
  sha3 : κ
  initialized : Bool
  deriving DecidableEq

/-- The path is an array of ten words, whatever its length. -/
structure MessageSigningContext712 where
  pathLength : UInt8
  bip32Path : Vector UInt32 10
  domainHash : Buf 32
  messageHash : Buf 32
  deriving DecidableEq, Inhabited

/-- `swap_validated_t` -/
structure SwapValidated where
  initialized : Bool
  decimals : UInt8
  ticker : Buf 15
  amount : UInt256
  recipient : Buf 35
  deriving DecidableEq, Inhabited

/-- `permissionEntry_t` of a permission that is present. -/
structure PermissionEntry where
  threshold : Bytes
  keys : List Bytes
  operations : Bytes
  deriving DecidableEq

inductive ApprovalState
  | transfer
  | simpleTransaction
  | permissionUpdate
  | exchangeCreate
  | exchangeTransaction
  | exchangeWithdrawInject
  | witnessVoteTransaction
  | freezeAssetTransaction
  | unfreezeAssetTransaction
  | withdrawBalanceTransaction
  | signPersonalMessage
  | customContract
  | sharedEcdhSecret
  | verifyAddress
  | freezeAssetV2Transaction
  | unfreezeAssetV2Transaction
  | delegateResourceTransaction
  | undelegateResourceTransaction
  | withdrawExpireUnfreezeTransaction
  | signTip72Transaction
  deriving DecidableEq, Repr

/-- What a field of a review points to. -/
inductive Slot
  | text (s : Bytes)
  | apduBuffer (off : Nat)
  | fullContract
  | toAddress
  | fromAddress
  | trc20Action
  | trc20ActionSendAllow
  | fullHash
  | maxFee
  | strings (off : Nat)
  deriving DecidableEq

/-- `nbgl_layoutTagValue_t`; `contact` is set when the address is shown as an alias. -/
structure TagValue where
  item : Slot
  value : Slot
  contact : Option Contact
  deriving DecidableEq

/-- `nbgl_tx_infos_t` with the texts of the long-press page. -/
structure TxInfos where
  state : ApprovalState
  dataWarning : Bool
  customContractWarning : Bool
  fields : List TagValue
  flowTitle : Bytes
  flowSubtitle : Bytes
  text : Bytes
  deriving DecidableEq

/-- The buffers and pointers the screens show. `strings` is the union `strings_t`, whose
`common.maxFee` lies at offset 122. -/
structure Ui where
  customContractField : UInt8
  fromAddress : Buf 40
  toAddress : Buf 35
  fullContract : Buf 67
  trc20Action : Buf 9
  trc20ActionSendAllow : Buf 8
  fullHash : Buf 65
  votesCount : Nat
  permissionEntries : List (Option PermissionEntry)
  recipientContact : Option Contact
  senderContact : Option Contact
  recipientService : Option Bytes
  strings : Buf 296
  apduBuffer : Buf 260
  deriving DecidableEq, Inhabited

/-- A started review: its screens and the globals they and the signature are taken from. -/
structure Review where
  infos : TxInfos
  ui : Ui
  content : TxContent
  msg : Msg
  hash : Buf 32
  path : Bip32Path
  deriving DecidableEq

inductive Effect
  | apdu (c : Command)
  | initTx
  | hashTx (payload : Bytes)
  | processTx (payload : Bytes) (status : ParserStatus)
  | messageStart (length : UInt32)
  | messageBytes (content : Bytes)
  | swapResponseReady
  | review (r : Review)
  | swapAccepted (content : TxContent) (ui : Ui)
  | verifyAddress
  | signature (path : Bip32Path) (hash : Buf 32)
  | reply (data : Bytes) (sw : Sw)
  | exit
  deriving DecidableEq

/-- The globals. `pending` is the review waiting for its answer. -/
structure App (σ κ : Type) where
  settings : Settings
  contacts : List Contact
  calledFromSwap : Bool
  swapResponseReady : Bool
  swapValidated : SwapValidated
  txContext : TxContext σ
  txContent : TxContent
  msg : Msg
  transactionContext : TransactionContext
  publicKeyContext : PublicKeyContext
  personalMsgCtx : PersonalMsgCtx κ
  messageSigningContext712 : MessageSigningContext712
  ui : Ui
  pending : Option ApprovalState
  exited : Bool

structure World (σ κ : Type) where
  app : App σ κ
  trace : List Effect

section Operations

variable {σ κ : Type} (sdk : Sdk σ κ)

namespace World

def log (w : World σ κ) (e : Effect) : World σ κ := { w with trace := e :: w.trace }

def setUi (w : World σ κ) (ui : Ui) : World σ κ := { w with app := { w.app with ui := ui } }

/-- `io_send_response_pointer`. The exit of the SDK behind the reply that ends a swap is not in it: a log that ends a
swap goes on behind that reply. -/
def ioSendResponse (w : World σ κ) (data : Bytes) (sw : Sw) : World σ κ := w.log (.reply data sw)

/-- `io_send_sw` -/
def ioSendSw (w : World σ κ) (sw : Sw) : World σ κ := w.ioSendResponse [] sw

/-- `THROW(e)`: the handler is left and the `CATCH_OTHER` of `app_main` answers with `e`. -/
def throwSw (w : World σ κ) (e : Sw) : World σ κ := w.ioSendSw e

def osSchedExit (w : World σ κ) : World σ κ :=
  World.log { w with app := { w.app with exited := true } } .exit

def initTx (w : World σ κ) : World σ κ :=
  World.log { w with app := { w.app with
    txContext := ⟨sdk.sha256.init, true⟩
    txContent := .empty } } .initTx

def terminateSigningSession (w : World σ κ) : World σ κ :=
  { w with app := { w.app with
    txContext := ⟨sdk.sha256.zeroed, false⟩
    txContent := .empty } }

/-- `terminate_signing_session(...); return io_send_sw(sw);` -/
def refuse (w : World σ κ) (sw : Sw) : World σ κ := (w.terminateSigningSession sdk).ioSendSw sw

def setPath (w : World σ κ) (path : Bip32Path) : World σ κ :=
  { w with app := { w.app with
    transactionContext := { w.app.transactionContext with bip32Path := path } } }

def setHash (w : World σ κ) (hash : Buf 32) : World σ κ :=
  { w with app := { w.app with
    transactionContext := { w.app.transactionContext with hash := hash } } }

end World

end Operations

section Helpers

variable {σ κ : Type} (sdk : Sdk σ κ)

/-- `TRON_BIP32_PREFIX_0` and `TRON_BIP32_PREFIX_1`: 44' and 195' -/
def tronBip32Prefix : List UInt32 := [0x8000002c, 0x800000c3]

/-- `n` big-endian words. -/
def readWords : Nat → Bytes → List UInt32
  | 0, _ => []
  | n + 1, bs => UInt32.ofNat (beNat (bs.take 4)) :: readWords n (bs.drop 4)

/-- `read_bip32_path`: what it leaves in `path`, and the bytes consumed or `none` for -1. The
path is written before its prefix is checked. -/
def readBip32Path (buffer : Bytes) (path : Bip32Path) : Bip32Path × Option Nat :=
  match buffer with
  | [] => (path, none)
  | pathLength :: words =>
    let n := pathLength.toNat
    if n < 1 ∨ 10 < n then (path, none)
    else if words.length < 4 * n then (path, none)
    else
      let path := readWords n words
      if path.take 2 = tronBip32Prefix then (path, some (1 + 4 * n)) else (path, none)

/-- `getBase58FromAddress` into a buffer at `off`; an encoder error leaves the old text. -/
def getBase58FromAddress {n : Nat} (address : Address) (out : Buf n) (off : Nat) : Buf n :=
  let checksum := (sdk.cxHashSha256 (sdk.cxHashSha256 address.bytes).bytes).bytes.take 4
  let out :=
    match sdk.base58Encode (address.bytes ++ checksum) 34 with
    | none => out
    | some text => out.write off text
  out.write (off + 34) [0]

def getAddressFromPublicKey (publicKey : Bytes) : Address :=
  let hash := (sdk.cxHashKeccak256 (publicKey.drop 1)).bytes
  Buf.ofBytes 21 (0x41 :: hash.drop 12)

def getBase58FromPublicKey {n : Nat} (publicKey : Bytes) (out : Buf n) : Buf n :=
  getBase58FromAddress sdk (getAddressFromPublicKey sdk publicKey) out 0

def getAddressBookContact (contacts : List Contact) (address : Address) : Option Contact :=
  contacts.find? fun contact => contact.identifier = address

/-- `initPublicKeyContext`: the key goes to `publicKeyContext`, the address to `out`. -/
def initPublicKeyContext {n : Nat} (path : Bip32Path) (context : PublicKeyContext) (out : Buf n) :
    Option (PublicKeyContext × Buf n) :=
  match sdk.derivePublicKey path with
  | none => none
  | some (publicKey, chainCode) =>
    some ({ context with publicKey := publicKey, chainCode := chainCode },
      getBase58FromPublicKey sdk publicKey.bytes out)

/-- `signTransaction`: `r`, `s` and the parity go to `transactionContext.signature`. -/
def signTransaction (w : World σ κ) : Bool × World σ κ :=
  let context := w.app.transactionContext
  match sdk.signHash context.bip32Path context.hash with
  | none => (false, w)
  | some (r, s, odd) =>
    let signature := Buf.ofBytes 65 (r.bytes ++ s.bytes ++ [if odd then 1 else 0])
    (true, World.log { w with app := { w.app with
      transactionContext := { context with signature := signature } } }
      (.signature context.bip32Path context.hash))

end Helpers

end TronLedger
