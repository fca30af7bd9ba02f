import TronLedger.Parse

/-!
# One chunk of a transaction

`processTx` decodes a chunk of `Transaction.raw` into `txContent`. The contract is only
captured while the chunk is decoded, and read when its type is known.
-/

namespace TronLedger

open Nanopb

inductive ParserStatus
  | processing
  | finished
  | fault
  | missingSettingDataAllowed
  deriving DecidableEq, Repr

/-- `buffer_t`: `buf` holds the memory, the start and the size of the captured region. -/
structure ContractBuffer where
  buf : Option Istream
  captured : Bool
  deriving DecidableEq

/-- `pb_decode_contract_parameter` -/
def pbDecodeContractParameter : Callback ContractBuffer := fun stream buffer =>
  if buffer.captured then (none, buffer) else (some stream, ⟨some stream, true⟩)

/-- `protocol_Transaction_raw` with the arguments of its callbacks: `dataBytes` is what
`custom_data.arg` points to, `contractBuffer` what `contract[0].parameter.value.arg` does. -/
structure TransactionRaw where
  dataBytes : UInt64
  contractCount : Nat
  contract : TransactionContract
  contractBuffer : ContractBuffer
  feeLimit : Int64
  deriving DecidableEq

/-- `pb_get_tx_data_size` -/
def pbGetTxDataSize : Callback TransactionRaw := fun stream raw =>
  (some stream, { raw with dataBytes := UInt64.ofNat stream.data.length })

/-- `contract` has room for one entry. -/
def TransactionRaw.fields : Descriptor TransactionRaw := .table
  [(10, callback pbGetTxDataSize),
   (11, submessage
      (fun raw => (decide (raw.contractCount < 1), { raw with contractCount := raw.contractCount + 1 }))
      (TransactionContract.fields pbDecodeContractParameter)
      (fun raw => (default, raw.contractBuffer))
      (fun (contract, buffer) raw => { raw with contract := contract, contractBuffer := buffer })),
   (18, int64 fun v raw => { raw with feeLimit := v })]

def TransactionRaw.initial (dataBytes : UInt64) : TransactionRaw where
  dataBytes := dataBytes
  contractCount := 0
  contract := default
  contractBuffer := ⟨none, false⟩
  feeLimit := 0

/-- The fee limit of a chunk; it has no presence flag, so 0 leaves what an earlier chunk
set. `none` when it contradicts an earlier one. -/
def TxContent.applyFeeLimit (content : TxContent) (feeLimit : UInt64) : Option TxContent :=
  if feeLimit = 0 then some content
  else if content.feeLimitSeen ∧ content.feeLimit ≠ feeLimit then none
  else some { content with feeLimit := feeLimit, feeLimitSeen := true }

/-- The global `msg`, of which only `account_permission_update_contract` is read back. -/
abbrev Msg := AccountPermissionUpdateContract

/-- The `switch` over the contract type. -/
def readByType (type : UInt32) (content : TxContent) (stream : Istream) (msg : Msg) :
    Bool × TxContent × Msg :=
  if ContractType.ofCode type = .accountPermissionUpdate then
    match pbDecode AccountPermissionUpdateContract.fields stream msg with
    | (none, msg) => (false, content, msg)
    | (some _, msg) => (true, { content with account := msg.ownerAddress }, msg)
  else
    match contractReader (ContractType.ofCode type) with
    | none => (false, content, msg)
    | some read =>
      match read content stream with
      | (ok, content) => (ok, content, msg)

/-- The part of `processTx` behind the setting check: the contract, if the chunk has one. -/
def processContract (raw : TransactionRaw) (content : TxContent) (msg : Msg) :
    ParserStatus × TxContent × Msg :=
  if raw.contract.hasParameter then
    -- a second contract-bearing chunk would be hashed but never displayed
    if content.contractSeen then (.fault, content, msg)
    else
      let content := { content with contractSeen := true }
      match raw.contractBuffer.buf with
      | none => (.fault, content, msg)
      | some stream =>
        if stream.data.length = 0 then (.fault, content, msg)
        -- a pointer into the chunk, or one to the stack copy of a scalar
        else if stream.mem ≠ .caller then (.fault, content, msg)
        else
          let content := { content with
            permissionId := raw.contract.permissionId
            contractType := ContractType.ofCode raw.contract.type }
          match readByType raw.contract.type content (pbIstreamFromBuffer stream.data) msg with
          | (true, content, msg) => (.processing, content, msg)
          | (false, content, msg) => (.fault, content, msg)
  else (.processing, content, msg)

/-- `processTx`; `dataAllowed` is `HAS_SETTING(S_DATA_ALLOWED)`. -/
def processTx (dataAllowed : Bool) (buffer : Bytes) (content : TxContent) (msg : Msg) :
    ParserStatus × TxContent × Msg :=
  if buffer.length = 0 then (.finished, content, msg)
  else
    match pbDecode TransactionRaw.fields (pbIstreamFromBuffer buffer)
        (TransactionRaw.initial content.dataBytes) with
    | (none, raw) => (.fault, { content with dataBytes := raw.dataBytes }, default)
    | (some _, raw) =>
      let content := { content with dataBytes := raw.dataBytes }
      match content.applyFeeLimit raw.feeLimit.toUInt64 with
      | none => (.fault, content, default)
      | some content =>
        if !dataAllowed ∧ content.dataBytes ≠ 0 then (.missingSettingDataAllowed, content, default)
        else processContract raw content default

end TronLedger
