import TronLedger.State

/-!
# Swap checks

`handle_swap_sign_transaction.c`: the parameters the Exchange app validated, and the
comparison of a transaction's displayed strings with them.
-/

namespace TronLedger

/-- `create_transaction_parameters_t`; `none` stands for a NULL pointer, and the length of a
configuration or an amount is the length of its bytes. -/
structure CreateTransactionParameters where
  coinConfiguration : Option Bytes
  amount : Option Bytes
  destinationAddress : Option Bytes
  destinationAddressExtraId : Option Bytes

/-- The lengths that `convertUint256BE` is called with, in order. -/
abbrev Converting := StateM (List Nat)

/-- A call of `convertUint256BE`. -/
def convertCalled (data : Bytes) : Converting UInt256 := do
  modify (· ++ [data.length])
  return convertUint256BE data

/-- The offsets in `tmp[32]` that `convertUint256BE` copies `length` bytes to. -/
def scratchOffsets (length : Nat) : List Int := (List.range length).map fun i : Nat => 32 - (length : Int) + i

/-- Ticker and decimals; without a configuration TRX is swapped. `swapParseConfig` is the SDK's parser of a
coin configuration into a ticker buffer and decimals. -/
def coinConfig (swapParseConfig : Bytes → Option (Buf 15 × UInt8)) : Option Bytes → Option (Buf 15 × UInt8)
  | none => some ((Buf.zero 15).strcpy 0 (ascii "TRX"), 6)
  | some config => swapParseConfig config

/-- `swap_copy_transaction_parameters`, with its calls. -/
def swapCopyCalls (swapParseConfig : Bytes → Option (Buf 15 × UInt8)) (params : CreateTransactionParameters) :
    Converting (Option SwapValidated) := do
  match params.destinationAddressExtraId, params.destinationAddress, params.amount with
  | some extraId, some destination, some amount =>
    if cstr extraId ≠ [] then return none
    match coinConfig swapParseConfig params.coinConfiguration with
    | none => return none
    | some (ticker, decimals) =>
      if (cstr destination).length ≠ 34 then return none
      let amountNumber ← convertCalled amount
      return some {
        initialized := true
        decimals := decimals
        ticker := ticker
        amount := amountNumber
        recipient := (Buf.zero 35).strlcpy 0 (cstr destination) 35 }
  | _, _, _ => return none

/-- What `swap_copy_transaction_parameters` copies. -/
def swapCopyTransactionParameters (swapParseConfig : Bytes → Option (Buf 15 × UInt8))
    (params : CreateTransactionParameters) : Option SwapValidated :=
  ((swapCopyCalls swapParseConfig params).run []).1

/-- `G_swap_validated` after a call: replaced where the parameters are accepted. -/
def savedSwap (saved : SwapValidated) (result : Option SwapValidated) : SwapValidated := result.getD saved

/-- `get_printable_amount_parameters_t` without its result. -/
structure GetPrintableAmountParameters where
  coinConfiguration : Option Bytes
  amount : Bytes
  isFee : Bool

/-- A fee is in TRX, whatever is swapped. -/
def GetPrintableAmountParameters.config (swapParseConfig : Bytes → Option (Buf 15 × UInt8))
    (params : GetPrintableAmountParameters) : Option (Buf 15 × UInt8) :=
  coinConfig swapParseConfig (if params.isFee then none else params.coinConfiguration)

/-- `swap_handle_get_printable_amount`, with its calls: what is left in `printable_amount`. The
verdict of `tostring256` is not looked at, and neither is what `strlcat` returns. -/
def swapHandleGetPrintableAmount (swapParseConfig : Bytes → Option (Buf 15 × UInt8))
    (params : GetPrintableAmountParameters) (printableAmount : Buf 50) : Converting (Buf 50) := do
  match params.config swapParseConfig with
  | none => return Buf.zero 50
  | some (ticker, decimals) =>
    let amountNumber ← convertCalled params.amount
    let amountRawString := (amountNumber.tostring 10 50).2
    match adjustDecimals amountRawString 50 decimals.toNat with
    | none => return Buf.zero 50
    | some text => return ((printableAmount.strcpy 0 text).strlcat (ascii " ") 50).strlcat (ticker.str 0) 50

/-- `strncmp(a, b, n) == 0` -/
def strncmpEq (a b : Bytes) (n : Nat) : Bool := (cstr a).take n = (cstr b).take n

/-- `MAX_PRINTABLE_AMOUNT_SIZE` -/
def maxPrintableAmountSize : Nat := 50

/-- The text `check_swap_amount` compares with; the verdict of `tostring256` is not looked at,
so an amount that does not fit leaves the characters it wrote. -/
def validatedAmount (amount : UInt256) (decimals : Nat) : Option Bytes :=
  let amountRawString := (amount.tostring 10 maxPrintableAmountSize).2
  adjustDecimals amountRawString maxPrintableAmountSize decimals

/-- `check_swap_amount` -/
def checkSwapAmount (validated : SwapValidated) (amount : Bytes) (decimals : Nat) : Bool :=
  match validatedAmount validated.amount decimals with
  | none => false
  | some text => strncmpEq amount text maxPrintableAmountSize

def swapCheckValidity (validated : SwapValidated) (amount tokenName action toAddress : Bytes) :
    Bool :=
  if !validated.initialized then false
  else if !checkSwapAmount validated amount validated.decimals.toNat then false
  else if !strncmpEq tokenName validated.ticker.bytes 15 then false
  else if !strncmpEq action (ascii "To") 3 then false
  else strncmpEq validated.recipient.bytes toAddress 35

/-- `MAX_SWAP_FEE_LIMIT`, 100 TRX in SUN -/
def maxSwapFeeLimit : UInt64 := 100000000

end TronLedger
