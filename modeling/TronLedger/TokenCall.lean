import TronLedger.CallData
import TronLedger.AddressReview
import TronLedger.SwapShown
import TronLedger.SessionFee
import TronLedger.TokenDecimals
import TronLedger.UInt256Value
import TronLedger.CanonicalAmount

/-!
# Calls of known tokens

From the bytes of a call to what its review shows: the token, the account, and the amount.

* `TokenCall` is what a call that is classified as a transfer or an approval says on the wire.
* `ShowsToken` is what the screens say of it; `token_calls_shown` holds of every review of a call.
-/

namespace TronLedger

open Nanopb

/-- The two methods that are shown as such. -/
inductive TokenMethod
  | transfer
  | approve
  deriving DecidableEq

namespace TokenMethod

/-- What `txContent` calls it. -/
def code : TokenMethod → UInt8
  | .transfer => 1
  | .approve => 2

def selector : TokenMethod → Bytes
  | .transfer => [0xA9, 0x05, 0x9C, 0xBB]
  | .approve => [0x09, 0x5E, 0xA7, 0xB3]

/-- The label of the account. -/
def action : TokenMethod → Bytes
  | .transfer => ascii "To"
  | .approve => ascii "Allow"

end TokenMethod

/-- A call of a token's method, as it is on the wire. -/
structure TokenCall (rs : List Record) (method : TokenMethod) (token : TokenDefinition) (word word' : Bytes) :
    Prop where
  listed : token ∈ tokensTRC20
  address : token.address = fixedValue 21 2 rs
  data : dataValue rs = some (method.selector ++ word ++ word')
  first : word.length = 32
  second : word'.length = 32

/-- What `txContent` holds of a call of a token. -/
structure StoresToken (content : TxContent) (token : TokenDefinition) (word word' : Bytes) : Prop where
  destination : content.destination.bytes = 0x41 :: word.drop 12
  amount : content.trc20Amount.bytes = word'
  decimals : content.decimals.first = token.decimals
  length : content.tokenNamesLength.first = UInt8.ofNat (token.ticker.length + 1)
  name : ∃ before : Buf 67, content.tokenNames.first = before.strcpy 0 token.ticker

section Reader

variable {contract : TransactionContract} {parameter : Bytes} {content stored : TxContent}

theorem triggerSmartContract_contractAddress : callFields.KeepsElsewhere 2 fun dest => dest.1.contractAddress :=
  .table (by simp)

theorem triggerSmartContract_address
    (read : triggerSmartContract content (pbIstreamFromBuffer parameter) = (true, stored)) :
    stored.contractAddress = fixedValue 21 2 (recordsOf parameter) := by
  unfold triggerSmartContract at read
  split at read
  · simp at read
  rename_i rest msg decoding decoded
  have address := pbDecode_fixed triggerSmartContract_local rfl (fun _ _ => rfl)
    triggerSmartContract_contractAddress rfl decoded
  dsimp only at read address
  split at read <;> rw [← address, ← (Prod.mk.inj read).2]

/-- The table's entry is stored with a call of its contract. -/
theorem triggerSmartContract_token {token : TokenDefinition}
    (read : triggerSmartContract content (pbIstreamFromBuffer parameter) = (true, stored))
    (known : getKnownToken stored.contractAddress = some token) :
    stored.decimals.first = token.decimals ∧
      stored.tokenNamesLength.first = UInt8.ofNat (token.ticker.length + 1) ∧
      ∃ before : Buf 67, stored.tokenNames.first = before.strcpy 0 token.ticker := by
  unfold triggerSmartContract at read
  split at read
  · simp at read
  dsimp only at read
  split at read
  · rename_i unknown
    obtain rfl := (Prod.mk.inj read).2
    rw [unknown] at known
    simp at known
  · rename_i entry found
    obtain rfl := (Prod.mk.inj read).2
    obtain rfl : entry = token := Option.some.inj (found.symm.trans known)
    exact ⟨rfl, rfl, _, rfl⟩

/-- The data of a call of a method is its selector and two words. -/
theorem selectorMethod_selector {data : Bytes} (enough : 4 ≤ data.length) (method : TokenMethod)
    (same : selectorMethod (dataSelector data) = method.code) : data.take 4 = method.selector := by
  unfold selectorMethod at same
  cases method with
  | transfer =>
    split at same
    · rename_i transfer
      rw [show transferSelector = UInt32.ofNat (beNat [0xA9, 0x05, 0x9C, 0xBB]) by decide] at transfer
      exact (dataSelector_eq enough _ _ _ _).mp transfer
    · split at same <;> exact absurd same (by decide)
  | approve =>
    split at same
    · exact absurd same (by decide)
    · split at same
      · rename_i approve
        rw [show approveSelector = UInt32.ofNat (beNat [0x09, 0x5E, 0xA7, 0xB3]) by decide] at approve
        exact (dataSelector_eq enough _ _ _ _).mp approve
      · exact absurd same (by decide)

/-- **A call that is stored with a method is a call of that method of a known token.** -/
theorem triggerSmartContract_call (method : TokenMethod)
    (read : triggerSmartContract (TxContent.empty.typed contract) (pbIstreamFromBuffer parameter) =
      (true, stored)) (called : stored.trc20Method = method.code) :
    ∃ token word word', TokenCall (recordsOf parameter) method token word word' ∧
      StoresToken stored token word word' := by
  obtain ⟨absent, last⟩ := triggerSmartContract_read read
  have address := triggerSmartContract_address read
  have some : stored.trc20Method ≠ 0 := by
    rw [called]
    cases method <;> decide
  generalize recordsOf parameter = rs at absent last address ⊢
  cases found : lastRecord dataTag rs with
  | none =>
    have method := (absent found).method
    exact absurd (method.trans (ite_self _)) some
  | some r =>
    obtain ⟨raw, content, handed, short, call, classified⟩ := last r found
    have method_eq := classified.method
    cases known : getKnownToken stored.contractAddress with
    | none =>
      rw [known] at method_eq
      exact absurd method_eq some
    | some token =>
      rw [known, Option.isSome_some, if_pos rfl, call.method, called] at method_eq
      have token_call : selectorMethod (dataSelector raw) ≠ 0 := by
        rw [← method_eq, ← called]
        exact some
      have length := call.length token_call
      -- 68 bytes are no scalar
      have type : r.wireType = .string := by
        by_contra other
        have few := short.resolve_left other
        omega
      have content_eq : r.content = raw := by
        rw [callbackBytes, if_pos type] at handed
        rw [Record.content, handed, Option.getD_some]
      have parts : raw = method.selector ++ (raw.drop 4).take 32 ++ raw.drop 36 := by
        rw [← selectorMethod_selector call.enough method method_eq.symm, List.append_assoc]
        conv_lhs => rw [← List.take_append_drop 4 raw, ← List.take_append_drop 32 (raw.drop 4), List.drop_drop]
      obtain ⟨decimals, size, name⟩ := triggerSmartContract_token read known
      refine ⟨token, (raw.drop 4).take 32, raw.drop 36, ⟨List.mem_of_find?_eq_some known, ?_, ?_, ?_, ?_⟩,
        ⟨?_, ?_, decimals, size, name⟩⟩
      · have listed := List.find?_some known
        rw [← address]
        exact of_decide_eq_true listed
      · rw [dataValue_last found type, content_eq, ← parts]
      · simp [length]
      · simp [length]
      · rw [classified.destination, call.destination token_call]
        rfl
      · rw [classified.amount, call.amount token_call]
        rfl

end Reader

/-- What the screens say of a call of a token's method. -/
structure ShowsToken {σ κ : Type} (sdk : Sdk σ κ) (ui : Ui) (method : TokenMethod) (token : TokenDefinition)
    (word word' : Bytes) : Prop where
  action : ui.trc20ActionSendAllow.str 0 = method.action
  destination : ui.toAddress.str 0 = base58Check sdk (Buf.ofBytes 21 (0x41 :: word.drop 12))
  amount : ui.apduBuffer.str 0 = canonicalDecimal (beNat word') token.decimals.toNat
  ticker : ui.fullContract.str 0 = token.ticker

section Screens

variable {σ κ : Type} {ctx : RenderContext σ κ} {content : TxContent} {ui shown : Ui} {kind : ApprovalState}
  {method : TokenMethod} {token : TokenDefinition} {word word' : Bytes}

/-- The tickers of the table fit their buffers. -/
theorem ticker_short (listed : token ∈ tokensTRC20) :
    token.ticker.length ≤ 9 ∧ ∀ c ∈ token.ticker, c ≠ 0 := by
  have short : ∀ token ∈ tokensTRC20, token.ticker.length ≤ 9 := by decide +kernel
  have nonzero : ∀ token ∈ tokensTRC20, 0 ∉ token.ticker := by decide +kernel
  exact ⟨short token listed, fun c inside zero => nonzero token listed (zero ▸ inside)⟩

/-- A name is copied with its terminator. -/
theorem copyTokenName_str {name : Bytes} (before : Buf 67) (stored : content.tokenNames.first = before.strcpy 0 name)
    (nonzero : ∀ c ∈ name, c ≠ 0) (size : name.length ≤ content.tokenNamesLength.first.toNat)
    (fits : content.tokenNamesLength.first.toNat + 1 ≤ 67) (ui : Ui) :
    (Ui.copyTokenName content ui).fullContract.str 0 = name := by
  have copied : (content.tokenNames.first.bytes.take (content.tokenNamesLength.first.toNat + 1)).length =
      content.tokenNamesLength.first.toNat + 1 := by
    rw [List.length_take, content.tokenNames.first.size]
    omega
  have source := Buf.str_strcpy before 0 name nonzero (by omega)
  have nul := Buf.strcpy_nul before 0 name (by omega)
  rw [← stored] at source nul
  rw [← source]
  refine Buf.str_congr content.tokenNames.first _ 0 0 (fun i inside => ?_) nul
  have written : (Ui.copyTokenName content ui).fullContract.bytes[0 + i]? =
      (content.tokenNames.first.bytes.take (content.tokenNamesLength.first.toNat + 1))[i]? :=
    Buf.getElem?_write_inside _ _ (by omega) (by omega)
  rw [written, List.getElem?_take_of_lt (by omega), Nat.zero_add]

/-- The ticker of a token is copied with its terminator. -/
theorem copyTokenName_ticker (stores : StoresToken content token word word') (listed : token ∈ tokensTRC20)
    (ui : Ui) : (Ui.copyTokenName content ui).fullContract.str 0 = token.ticker := by
  obtain ⟨short, nonzero⟩ := ticker_short listed
  obtain ⟨before, name⟩ := stores.name
  have size : content.tokenNamesLength.first.toNat = token.ticker.length + 1 := by
    rw [stores.length, UInt8.toNat_ofNat']
    omega
  exact copyTokenName_str before name nonzero (by omega) (by omega) ui

/-- The digits of an amount of a token. -/
theorem trc20Digits_eq (stores : StoresToken content token word word') (size : word'.length = 32) :
    content.trc20Digits = decimal (beNat word') := by
  have value : (convertUint256BE content.trc20Amount.bytes).toNat = beNat word' := by
    rw [stores.amount, convertUint256BE_toNat (by omega)]
  have few := (convertUint256BE content.trc20Amount.bytes).decimal_length
  rw [TxContent.trc20Digits, UInt256.tostring_fits _ (by omega), value]

theorem decimals_few (listed : token ∈ tokensTRC20) : token.decimals.toNat ≤ 18 :=
  UInt8.le_iff_toNat_le.mp (tokensTRC20_decimals token listed)

/-- A word always fits, whatever the decimals. -/
theorem token_room {n d : Nat} (word : (decimal n).length ≤ 78) (few : d ≤ 18) : AdjustRoom n 100 d := by
  unfold AdjustRoom
  split <;> omega

/-- **A call of a token is shown as it is on the wire.** -/
theorem TokenShows.screens (encodes : ctx.sdk.EncodesBase58) (shows : TokenShows ctx content ui kind shown)
    (called : content.trc20Method = method.code) (stores : StoresToken content token word word') (listed : token ∈ tokensTRC20)
    (first : word.length = 32) (second : word'.length = 32) :
    ShowsToken ctx.sdk shown method token word word' := by
  obtain ⟨text, before, adjusted, before_eq, shown_eq⟩ := shows.shown_eq
  constructor
  · have same : shown.trc20ActionSendAllow = before.trc20ActionSendAllow := by
      rw [shown_eq]
      rfl
    rw [same, before_eq, called]
    cases method with
    | transfer =>
      rw [if_pos (show TokenMethod.transfer.code = 1 from rfl)]
      exact Buf.str_strcpy _ 0 (ascii "To") (by decide +kernel) (by decide)
    | approve =>
      rw [if_neg (by decide)]
      exact Buf.str_strcpy _ 0 (ascii "Allow") (by decide +kernel) (by decide)
  · have same : shown.toAddress = getBase58FromAddress ctx.sdk content.destination before.toAddress 0 := by
      rw [shown_eq]
      rfl
    have own : content.destination = Buf.ofBytes 21 (0x41 :: word.drop 12) := by
      refine Buf.ext_bytes ?_
      rw [stores.destination, Buf.bytes_ofBytes (by simp [first])]
    rw [same, ← own, getBase58FromAddress_str encodes _ _ (by decide)]
    left
    refine base58Check_mainnet ?_
    rw [stores.destination]
    rfl
  · have same : shown.apduBuffer = (before.apduBuffer.strcpy 100 content.trc20Digits).strcpy 0 text := by
      rw [shown_eq]
      rfl
    have few := decimals_few listed
    have digits : (decimal (beNat word')).length ≤ 78 := by
      have value := convertUint256BE_toNat (show word'.length ≤ 32 by omega)
      rw [← value]
      exact UInt256.decimal_length _
    have room := token_room digits few
    have short := canonicalDecimal_length room
    rw [trc20Digits_eq stores second, stores.decimals, adjustDecimals_decimal, if_pos room] at adjusted
    obtain rfl := Option.some.inj adjusted
    rw [same]
    exact Buf.str_strcpy _ 0 _ (canonicalDecimal_nonzero _ _) (by omega)
  · have same : shown.fullContract = (Ui.copyTokenName content before).fullContract := by
      rw [shown_eq]
      rfl
    rw [same]
    exact copyTokenName_ticker stores listed before

end Screens

/-- The lines of a transfer or an approval: amount and token, and the account under its action. -/
def tokenLines : List TagValue :=
  [field "Amount" (.apduBuffer 0), field "Token" .fullContract, ⟨.trc20ActionSendAllow, .toAddress, none⟩]

/-- The screens say what a call of a token's method is on the wire, and it moves nothing else. -/
structure TokenOnWire {σ κ : Type} (sdk : Sdk σ κ) (ui : Ui) (rs : List Record) : Prop where
  noValue : int64Value 3 rs = 0
  noToken : int64Value 5 rs = 0
  call : ∃ method token word word', TokenCall rs method token word word' ∧
    ShowsToken sdk ui method token word word'

/-- A review of a token's method. -/
structure TokenReview {σ κ : Type} (sdk : Sdk σ κ) (r : Review) (rs : List Record) : Prop
    extends TokenOnWire sdk r.ui rs where
  state : r.infos.state = .transfer
  lines : ∀ f ∈ tokenLines, ∃ g ∈ r.infos.fields, g.item = f.item ∧ g.value = f.value

/-- A call is reviewed as one of a token's methods, or as a custom contract; what a swap compares in
place of a review is one of a token's methods. -/
def CallShown {σ κ : Type} (sdk : Sdk σ κ) : Effect → List Effect → Prop
  | .review r, older => (lastCommand older).any Command.isSign = true →
    r.content.contractType = .triggerSmart → ∃ contract parameter, SessionCarries older contract parameter ∧
      (r.infos.state = .customContract ∨ TokenReview sdk r (recordsOf parameter))
  | .swapAccepted content ui, older => (lastCommand older).any Command.isSign = true →
    content.contractType = .triggerSmart → ∃ contract parameter, SessionCarries older contract parameter ∧
      TokenOnWire sdk ui (recordsOf parameter)
  | _, _ => True

section Runs

variable {σ κ : Type} {sdk : Sdk σ κ}

/-- What a call that is stored with a method is on the wire, and what it stores. -/
theorem ContractOf.call {log : List Effect} {content : TxContent} {msg : Msg} (of : ContractOf log content msg)
    (type : content.contractType = .triggerSmart) :
    ∃ contract parameter, SessionCarries log contract parameter ∧
      ContractType.ofCode contract.type = .triggerSmart ∧
      content.amount.first = (int64Value 3 (recordsOf parameter)).toUInt64 ∧
      content.callTokenValue = int64Value 5 (recordsOf parameter) ∧
      ∀ method : TokenMethod, content.trc20Method = method.code →
        ∃ token word word', TokenCall (recordsOf parameter) method token word word' ∧
          StoresToken content token word word' := by
  have known : contractReader content.contractType = some triggerSmartContract := by
    rw [type]
    rfl
  obtain ⟨contract, parameter, stored, named, carried, read, code, -, fixed, same⟩ := of.reads known
  obtain rfl : named = stored := fixed (by rw [type]; rfl)
  obtain ⟨value, token⟩ := triggerSmartContract_wire read
  refine ⟨contract, parameter, carried, code.trans type, ?_, ?_, fun method called => ?_⟩
  · rw [same]
    exact value
  · rw [same]
    exact token
  · rw [same] at called
    obtain ⟨token, word, word', call, stores⟩ := triggerSmartContract_call method read called
    refine ⟨token, word, word', call, ?_⟩
    rw [same]
    exact ⟨stores.destination, stores.amount, stores.decimals, stores.length, stores.name⟩

/-- The screens of a session whose call is of a token's method. -/
theorem ContractOf.tokenOnWire {log : List Effect} {content : TxContent} {msg : Msg} {ctx : RenderContext σ κ}
    {ui shown : Ui} {kind : ApprovalState} (of : ContractOf log content msg)
    (type : content.contractType = .triggerSmart) (known : content.trc20Method = 1 ∨ content.trc20Method = 2)
    (encodes : ctx.sdk.EncodesBase58) (shows : TokenShows ctx content ui kind shown) :
    ∃ contract parameter, SessionCarries log contract parameter ∧
      TokenOnWire ctx.sdk shown (recordsOf parameter) := by
  obtain ⟨contract, parameter, carried, -, value, token, stores⟩ := of.call type
  obtain ⟨method, called⟩ : ∃ method : TokenMethod, content.trc20Method = method.code :=
    known.elim (fun transfer => ⟨.transfer, transfer⟩) fun approve => ⟨.approve, approve⟩
  obtain ⟨entry, word, word', call, stored⟩ := stores method called
  refine ⟨contract, parameter, carried, ?_, ?_, method, entry, word, word', call, ?_⟩
  · rw [← toUInt64_eq_zero, ← value]
    exact shows.noAmount
  · rw [← token]
    exact shows.noToken
  · exact shows.screens encodes called stored call.listed call.first call.second

/-- **In every run, a call that is shown as a transfer or an approval is that method of a known token,
with the account and the amount shown; another one is reviewed as a custom contract.** -/
theorem token_calls_shown {version : AppVersion} {b : Boot} {es : List Event} {w : World σ κ}
    (encodes : sdk.EncodesBase58) (run : AppRun sdk version anyStep b es w) :
    Always (CallShown sdk) w.trace := by
  refine run.showsSession.mono fun entry older shown => ?_
  obtain ⟨settings, shown⟩ := shown
  cases entry with
  | review r =>
    intro own type
    obtain ⟨s, -, -, of, renders, review⟩ := shown own
    obtain ⟨contacts, residue, before, shows⟩ := Renders.shows renders
    have plain : s.txContent.contractType = .triggerSmart := by
      rw [review.content_eq] at type
      exact (renderedContent_type _).symm.trans type
    have contract_shows := shows.contract
    simp only [ContractShows, plain] at contract_shows
    split at contract_shows
    · rename_i known
      obtain ⟨contract, parameter, carried, wire⟩ := of.tokenOnWire plain known encodes contract_shows
      refine ⟨contract, parameter, carried, .inr ⟨wire, contract_shows.kind_eq, fun f among => ?_⟩⟩
      refine prepareTxInfos_displays review.ready ?_
      rw [contract_shows.kind_eq]
      simp only [reviewFields, List.mem_append, List.mem_cons]
      simp only [tokenLines, List.mem_cons, List.not_mem_nil, or_false] at among
      tauto
    · obtain ⟨contract, parameter, carried, -⟩ := of.call plain
      exact ⟨contract, parameter, carried, .inl contract_shows.kind_eq⟩
  | swapAccepted content ui =>
    intro own type
    obtain ⟨s, -, of, renders, same⟩ := shown own
    obtain ⟨contacts, residue, before, sound, compared⟩ := Renders.compared renders
    have plain : s.txContent.contractType = .triggerSmart := by
      rw [same] at type
      exact (renderedContent_type _).symm.trans type
    have method : s.txContent.trc20Method = 1 := by
      rcases sound.contract with transfer | ⟨-, method⟩
      · rw [transfer] at plain
        simp at plain
      · exact method
    simp only [ContractShows, plain, method, true_or, if_true] at compared
    exact of.tokenOnWire plain (.inl method) encodes compared
  | _ => trivial

end Runs

/-- The transfer of a token, with its path. -/
def sampleTokenTransfer : Bytes := pathBytes 0 ++ contractField 31 sampleCall

theorem sampleTokenTransfer_short : sampleTokenTransfer.length < 256 := by decide +kernel

/-- A transfer of five units of a token is reviewed as one. -/
theorem token_calls_shown_transfer : ∃ w r older, AppRun device deviceVersion anyStep deviceBoot
    [command Ins.sign P1.sign 0 sampleTokenTransfer sampleTokenTransfer_short] w ∧ w.trace = .review r :: older ∧
      r.infos.state = .transfer ∧ (Slot.apduBuffer 0).shown r.ui = ascii "0.000005" ∧
        Always (CallShown device) w.trace := by
  obtain ⟨w, r, older, run, trace, found⟩ := exists_review anyStep
    [command Ins.sign P1.sign 0 sampleTokenTransfer sampleTokenTransfer_short]
    (fun r _ => r.infos.state = .transfer && (Slot.apduBuffer 0).shown r.ui = ascii "0.000005") (by decide +kernel)
  rw [Bool.and_eq_true] at found
  exact ⟨w, r, older, run, trace, of_decide_eq_true found.1, of_decide_eq_true found.2,
    token_calls_shown (fun _ _ => rfl) run⟩

end TronLedger
