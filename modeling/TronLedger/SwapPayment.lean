import TronLedger.TokenCall
import TronLedger.SwapAmounts
import TronLedger.AmountReview

/-!
# What a swap pays

A transaction that passes the comparison is a transfer of TRX or of a known token. The texts that
are compared are those of what is on the wire, but for the destination of a transfer of TRX, whose
text has to fit.

* `Payment` is such a transfer, as it is on the wire.
* `SwapValidated.Agrees` says that its texts are the validated ones.
-/

namespace TronLedger

open Nanopb

/-- What a swap can pay in. -/
inductive SwapAsset
  | trx
  | token (known : TokenDefinition)
  deriving DecidableEq

namespace SwapAsset

def decimals : SwapAsset → Nat
  | .trx => sunDig
  | .token known => known.decimals.toNat

def ticker : SwapAsset → Bytes
  | .trx => ascii "TRX"
  | .token known => known.ticker

end SwapAsset

/-- A contract of type `code` with the parameter `rs` transfers an amount of an asset to a destination,
and nothing else. Amounts of TRX are read without their sign. -/
inductive Payment (code : UInt32) (rs : List Record) : SwapAsset → Address → Nat → Prop
  | trx (type : ContractType.ofCode code = .transfer) :
      Payment code rs .trx (fixedValue 21 2 rs) (int64Value 3 rs).toUInt64.toNat
  | token {token : TokenDefinition} {word word' : Bytes} (type : ContractType.ofCode code = .triggerSmart)
      (call : TokenCall rs .transfer token word word') (noValue : int64Value 3 rs = 0)
      (noToken : int64Value 5 rs = 0) :
      Payment code rs (.token token) (Buf.ofBytes 21 (0x41 :: word.drop 12)) (beNat word')

/-- The texts of a payment are the validated ones. -/
structure SwapValidated.Agrees (validated : SwapValidated) (asset : SwapAsset) (amount : Nat)
    (destination : Bytes) : Prop where
  amount : validatedAmount validated.amount validated.decimals.toNat =
    some (canonicalDecimal amount asset.decimals)
  ticker : validated.ticker.str 0 = asset.ticker
  destination : validated.recipient.str 0 = destination

section Texts

/-- Of two texts that agree, the one that is cut nowhere is the other. -/
theorem strncmpEq_short {a b : Bytes} {n : Nat} (ha : ∀ c ∈ a, c ≠ 0) (hb : ∀ c ∈ b, c ≠ 0) (short : b.length < n)
    (agree : strncmpEq a b n = true) : a = b := by
  have whole {text : Bytes} (nonzero : ∀ c ∈ text, c ≠ 0) : cstr text = text :=
    List.takeWhile_eq_self_iff.mpr fun c among => decide_eq_true (nonzero c among)
  rw [strncmpEq, whole ha, whole hb, decide_eq_true_eq, List.take_of_length_le (Nat.le_of_lt short)] at agree
  have length := congrArg List.length agree
  rw [List.length_take] at length
  rw [← agree, List.take_of_length_le (by omega)]

theorem cstr_cstr (bs : Bytes) : cstr (cstr bs) = cstr bs :=
  List.takeWhile_eq_self_iff.mpr fun c among => decide_eq_true (cstr_nonzero bs c among)

/-- A buffer is compared in full. -/
theorem strncmpEq_buffer {n : Nat} (a b : Buf n) (agree : strncmpEq a.bytes (b.str 0) n = true) :
    a.str 0 = b.str 0 := by
  have short (buffer : Buf n) : (cstr buffer.bytes).length ≤ n :=
    (List.takeWhile_prefix _).length_le.trans_eq buffer.size
  rw [strncmpEq, Buf.str, List.drop_zero, cstr_cstr, decide_eq_true_eq, List.take_of_length_le (short a),
    List.take_of_length_le (short b)] at agree
  rw [Buf.str, Buf.str, List.drop_zero, List.drop_zero]
  exact agree

/-- An amount that is accepted has the validated text. -/
theorem checkSwapAmount_canonical {validated : SwapValidated} {amount d e : Nat}
    (agree : checkSwapAmount validated (canonicalDecimal amount d) e = true) :
    validatedAmount validated.amount e = some (canonicalDecimal amount d) := by
  rw [checkSwapAmount, validatedAmount_eq] at agree
  rw [validatedAmount_eq]
  by_cases room : AdjustRoom validated.amount.toNat 50 e
  · have short := canonicalDecimal_length room
    rw [if_pos room] at agree ⊢
    dsimp only at agree
    rw [strncmpEq_short (canonicalDecimal_nonzero _ _) (canonicalDecimal_nonzero _ _) (by
      rw [maxPrintableAmountSize]
      omega) agree]
  · rw [if_neg room] at agree
    simp at agree

/-- A ticker of the app is shorter than a validated one can be. -/
theorem ticker_agrees {token : Bytes} {ticker : Buf 15} (nonzero : ∀ c ∈ token, c ≠ 0) (short : token.length < 15)
    (agree : strncmpEq token ticker.bytes 15 = true) : ticker.str 0 = token := by
  have same : strncmpEq (cstr ticker.bytes) token 15 = true := by
    rw [strncmpEq, decide_eq_true_eq] at agree ⊢
    rw [cstr_cstr]
    exact agree.symm
  rw [Buf.str, List.drop_zero]
  exact strncmpEq_short (cstr_nonzero _) nonzero short same

/-- What the comparison says of an amount and a ticker of the app. -/
theorem swapCheckValidity_agrees {validated : SwapValidated} {asset : SwapAsset} {amount : Nat} {action : Bytes}
    {toAddress : Buf 35} (nonzero : ∀ c ∈ asset.ticker, c ≠ 0) (short : asset.ticker.length < 15)
    (valid : swapCheckValidity validated (canonicalDecimal amount asset.decimals) asset.ticker action
      (toAddress.str 0) = true) : validated.Agrees asset amount (toAddress.str 0) := by
  unfold swapCheckValidity at valid
  split_ifs at valid with initialized sum token verb
  rw [Bool.not_eq_true, Bool.not_eq_false'] at sum token
  exact ⟨checkSwapAmount_canonical sum, ticker_agrees nonzero short token, strncmpEq_buffer _ _ valid⟩

end Texts

section Reader

variable {content stored : TxContent} {parameter : Bytes}

theorem transferContract_toAddress : TransferContract.fields.KeepsElsewhere 2 TransferContract.toAddress :=
  .table (by simp)

/-- The destination of a transfer is its second field, and its token is TRX. -/
theorem transferContract_destination
    (read : transferContract content (pbIstreamFromBuffer parameter) = (true, stored)) :
    stored.destination = fixedValue 21 2 (recordsOf parameter) ∧ stored.tokenNamesLength.first = 4 ∧
      ∃ before : Buf 67, stored.tokenNames.first = before.strcpy 0 (ascii "TRX") := by
  obtain ⟨rest, msg, decoded, stored_eq⟩ := readContract_decodes read
  have destination := pbDecode_fixed transferContract_local rfl (fun _ _ => rfl) transferContract_toAddress rfl
    decoded
  obtain rfl := (Prod.mk.inj stored_eq).2
  exact ⟨destination, rfl, _, rfl⟩

end Reader

section Screens

variable {σ κ : Type} {sdk : Sdk σ κ} {ctx : RenderContext σ κ} {log : List Effect} {content : TxContent} {msg : Msg}
  {before ui : Ui}

/-- The text of an amount of TRX. -/
theorem amountShown_sun {amount : UInt64} (short : tooLong amount = false) :
    amountShown amount 100 sunDig =
      if amount.toNat = 0 then ascii "0.000000" else canonicalDecimal amount.toNat sunDig := by
  by_cases zero : amount.toNat = 0
  · obtain rfl : amount = 0 := UInt64.toNat_inj.mp zero
    rw [if_pos zero]
    decide
  · have small : amount.toNat < 10 ^ 19 := by simpa [tooLong] using short
    have printed := printAmount_canonical (Nat.pos_of_ne_zero zero) small
    rw [printAmount_eq, if_neg (Nat.not_le_of_lt small)] at printed
    rw [if_neg zero]
    exact Option.some.inj printed

/-- A transfer of TRX, as it is on the wire. -/
theorem ContractOf.trx (of : ContractOf log content msg) (type : content.contractType = .transfer) :
    ∃ contract parameter, SessionCarries log contract parameter ∧ ContractType.ofCode contract.type = .transfer ∧
      content.amount.first = (int64Value 3 (recordsOf parameter)).toUInt64 ∧
      content.destination = fixedValue 21 2 (recordsOf parameter) ∧ content.tokenNamesLength.first = 4 ∧
      ∃ name : Buf 67, content.tokenNames.first = name.strcpy 0 (ascii "TRX") := by
  have known : contractReader content.contractType = some transferContract := by
    rw [type]
    rfl
  obtain ⟨contract, parameter, stored, named, carried, read, code, -, fixed, same⟩ := of.reads known
  obtain rfl : named = stored := fixed (by rw [type]; rfl)
  have value := transferContract_wire read
  obtain ⟨destination, size, name⟩ := transferContract_destination read
  refine ⟨contract, parameter, carried, code.trans type, ?_⟩
  rw [same]
  exact ⟨value, destination, size, name⟩

/-- A transfer of TRX that a swap compares. -/
theorem ContractOf.trx_payment (of : ContractOf log content msg) (type : content.contractType = .transfer)
    (sound : SwapSound ctx content ui) (shows : TransferShows ctx content before .transfer ui) :
    ∃ contract parameter amount, SessionCarries log contract parameter ∧
      Payment contract.type (recordsOf parameter) .trx content.destination amount ∧
      ctx.swapValidated.Agrees .trx amount (ui.toAddress.str 0) := by
  obtain ⟨contract, parameter, carried, code, value, destination, size, name, stored⟩ := of.trx type
  refine ⟨contract, parameter, (int64Value 3 (recordsOf parameter)).toUInt64.toNat, carried, ?_, ?_⟩
  · rw [destination]
    exact .trx code
  · have nonzero : ∀ c ∈ ascii "TRX", c ≠ 0 := by decide +kernel
    have four : content.tokenNamesLength.first.toNat = 4 := by
      rw [size]
      decide
    have ticker : ui.fullContract.str 0 = ascii "TRX" := by
      have copied : ui.fullContract = (Ui.copyTokenName content before).fullContract := by
        rw [shows.shown_eq]
        rfl
      rw [copied]
      exact copyTokenName_str name stored nonzero (by rw [four]; decide) (by omega) before
    have sum : ui.apduBuffer.str 0 = amountShown content.amount.first 100 sunDig := by
      have put : ui.apduBuffer = before.apduBuffer.strcpy 0 (amountShown content.amount.first 100 sunDig) := by
        rw [shows.shown_eq, if_pos type]
        rfl
      have few : sunDig ≤ 18 := by decide
      have length := (amountShown_reads shows.short few (show 35 ≤ 100 by decide)).1
      rw [put]
      exact Buf.str_strcpy _ 0 _ (amountShown_nonzero shows.short few (by decide)) (by omega)
    have valid := sound.valid
    rw [ticker, sum, amountShown_sun shows.short] at valid
    rw [← value]
    split at valid
    · rw [swapCheckValidity, checkSwapAmount_zero] at valid
      simp at valid
    · exact swapCheckValidity_agrees (show ∀ c ∈ SwapAsset.ticker .trx, c ≠ 0 from nonzero) (by decide) valid

/-- A transfer of a token that a swap compares. -/
theorem ContractOf.token_payment (of : ContractOf log content msg) (type : content.contractType = .triggerSmart)
    (method : content.trc20Method = 1) (encodes : ctx.sdk.EncodesBase58) (sound : SwapSound ctx content ui)
    (shows : TokenShows ctx content before .transfer ui) :
    ∃ contract parameter known amount, SessionCarries log contract parameter ∧
      Payment contract.type (recordsOf parameter) (.token known) content.destination amount ∧
      ctx.swapValidated.Agrees (.token known) amount (base58Check ctx.sdk content.destination) := by
  obtain ⟨contract, parameter, carried, code, value, token, stores⟩ := of.call type
  obtain ⟨known, word, word', call, stored⟩ := stores .transfer method
  have called : content.trc20Method = TokenMethod.transfer.code := method
  have screens := shows.screens encodes called stored call.listed call.first call.second
  obtain ⟨short, nonzero⟩ := ticker_short call.listed
  have destination : content.destination = Buf.ofBytes 21 (0x41 :: word.drop 12) := by
    refine Buf.ext_bytes ?_
    rw [stored.destination, Buf.bytes_ofBytes (by simp [call.first])]
  refine ⟨contract, parameter, known, beNat word', carried, ?_, ?_⟩
  · rw [destination]
    refine .token code call ?_ ?_
    · rw [← toUInt64_eq_zero, ← value]
      exact shows.noAmount
    · rw [← token]
      exact shows.noToken
  · have valid := sound.valid
    rw [screens.ticker, screens.amount] at valid
    rw [destination, ← screens.destination]
    have few : (SwapAsset.token known).ticker.length < 15 := Nat.lt_of_le_of_lt short (by decide)
    exact swapCheckValidity_agrees nonzero few valid

/-- **What passes the comparison is a payment with the validated texts, where that of the destination of
a transfer of TRX is exact.** -/
theorem ContractOf.payment (of : ContractOf log content msg) (encodes : ctx.sdk.EncodesBase58)
    (sound : SwapSound ctx content ui) (shows : ContractShows ctx content before .transfer ui)
    (exact : content.contractType = .transfer → ui.toAddress.str 0 = base58Check ctx.sdk content.destination) :
    ∃ contract parameter asset amount, SessionCarries log contract parameter ∧
      Payment contract.type (recordsOf parameter) asset content.destination amount ∧
      ctx.swapValidated.Agrees asset amount (base58Check ctx.sdk content.destination) := by
  rcases sound.contract with type | ⟨type, method⟩
  · simp only [ContractShows, type] at shows
    obtain ⟨contract, parameter, amount, paid⟩ := of.trx_payment type sound shows
    rw [exact type] at paid
    exact ⟨contract, parameter, .trx, amount, paid⟩
  · simp only [ContractShows, type, method, true_or, if_true] at shows
    obtain ⟨contract, parameter, known, amount, paid⟩ := of.token_payment type method encodes sound shows
    exact ⟨contract, parameter, .token known, amount, paid⟩

end Screens

end TronLedger
