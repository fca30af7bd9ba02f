import TronLedger.AmountReview
import TronLedger.ContentRule
import TronLedger.TokenNames

/-!
# Amounts in native TRX

TRX has six decimals. Most reviews know that an amount is in TRX from the contract or from the
mark `tokenIsTrx` that its reader sets; a TRC10 transfer and an exchange transaction take the
decimals that metadata has left instead.

* `nativeLines` lists the amounts of a contract that are in TRX on the wire.
* `native_amounts_iff` says when each of them is shown with six decimals.
-/

namespace TronLedger

open Nanopb

/-- A line whose token has the id that field `number` carries, when that is TRX. -/
def nativeLine (number : Nat) (rs : List Record) (line : AmountLine) : List AmountLine :=
  if bytesValue number rs = nativeId then [line] else []

/-- The amounts in TRX of a contract whose parameter has the records `rs`. -/
def nativeLines (type : ContractType) (rs : List Record) : List AmountLine :=
  let amount (number off : Nat) : AmountLine := ⟨int64Value number rs, sunDig, .apduBuffer off⟩
  match type with
  | .transfer | .delegateResource | .undelegateResource => [amount 3 0]
  | .freezeBalance | .freezeBalanceV2 | .unfreezeBalanceV2 => [amount 2 0]
  | .transferAsset => nativeLine 1 rs (amount 4 0)
  | .exchangeCreate => nativeLine 2 rs (amount 3 0) ++ nativeLine 4 rs (amount 5 100)
  | .exchangeInject | .exchangeWithdraw | .exchangeTransaction => nativeLine 3 rs (amount 4 0)
  | _ => []

/-- The precision that token metadata carries. -/
def metadataPrecision (data : Bytes) : UInt8 :=
  (pbDecode TokenDetails.fields (pbIstreamFromBuffer data) default).2.precision.toUInt8

/-- The decimals of the first token of a TRC10 transfer that an APDU brings to its review: those
the APDU carries, or else those that earlier metadata of the session has left. -/
def Session.tokenDecimals {σ κ : Type} (s : Session σ κ) (c : Command) : UInt8 :=
  if c.isOpener then 0
  else if c.p1 &&& 0xF0 = P1.trc10Name ∧ c.p1 &&& 0x07 = 0 then metadataPrecision c.data
  else s.txContent.decimals.first

/-- The review gives TRX its six decimals. -/
def NativeScaled {σ κ : Type} (s : Session σ κ) (c : Command) : ContractType → Prop
  | .transferAsset => s.tokenDecimals c = 6
  | .exchangeTransaction => False
  | _ => True

/-- What a review that `c` starts in `s` shows of the amounts in TRX of its transaction. -/
def ReviewsNative {σ κ : Type} (s : Session σ κ) (c : Command) (r : Review) (older : List Effect) : Prop :=
  ∃ contract parameter, SessionCarries older contract parameter ∧
    ∀ l ∈ nativeLines r.content.contractType (recordsOf parameter), r.infos.Displays l.slot ∧
      (printAmount l.value.toUInt64 100 sunDig = some (l.slot.shown r.ui) ↔
        NativeScaled s c r.content.contractType)

section Tokens

variable {content named stored : TxContent} {parameter : Bytes}

/-- A token whose id is that of TRX is marked. -/
theorem printTokenFromID_native {i : Fin 2} {n : Nat} {id : PbBytes n} {data : Bytes} (room : 1 < n)
    (printed : printTokenFromID content i data id.size = (true, named))
    (native : id.content = nativeId) : named.tokenIsTrx = content.tokenIsTrx.set i true := by
  have length : id.content.length = 1 := by rw [native]; rfl
  rw [PbBytes.content, List.length_take, id.bytes.size] at length
  have single : id.size = 1 := by omega
  rw [single] at printed
  unfold printTokenFromID at printed
  split_ifs at printed with bad <;> simp only [Prod.mk.injEq, Bool.false_eq_true, false_and] at printed
  · rw [← printed.2]
  · contradiction

/-- A token that is marked has the name of TRX. -/
theorem printTokenFromID_marked {i : Fin 2} {data : Bytes} {size : Nat}
    (printed : printTokenFromID content i data size = (true, named))
    (marked : named.tokenIsTrx.get i = true) : named.tokenName i = ascii "TRX" := by
  have name := Buf.str_strlcpy (content.tokenNames.get i) 0 67 (ascii "TRX") (by decide +kernel)
    (by decide) (by decide)
  unfold printTokenFromID at printed
  split_ifs at printed <;> simp only [Prod.mk.injEq, Bool.false_eq_true, false_and] at printed <;>
    obtain ⟨-, rfl⟩ := printed
  · exact (congrArg (fun b : Buf 67 => b.str 0) (Pair.get_set _ i _)).trans name
  · rw [Pair.get_set] at marked
    exact absurd marked (by decide)

/-- What an accepted contract holds of the tokens on the wire. -/
def StoresTokens (type : ContractType) (stored : TxContent) (rs : List Record) : Prop :=
  match type with
  | .exchangeCreate => (bytesValue 2 rs = nativeId → stored.tokenIsTrx.first = true) ∧
    (bytesValue 4 rs = nativeId → stored.tokenIsTrx.second = true)
  | .exchangeInject | .exchangeWithdraw | .exchangeTransaction =>
    bytesValue 3 rs = nativeId → stored.tokenIsTrx.first = true
  | _ => True

theorem printTokenFromID_marks {i : Fin 2} {data : Bytes} {size : Nat}
    (printed : printTokenFromID content i data size = (true, named)) :
    ∃ mark, named.tokenIsTrx = content.tokenIsTrx.set i mark := by
  unfold printTokenFromID at printed
  split_ifs at printed <;> simp only [Prod.mk.injEq, Bool.false_eq_true, false_and] at printed <;>
    obtain ⟨-, rfl⟩ := printed <;> exact ⟨_, rfl⟩

theorem exchangeCreateContract_tokens
    (read : exchangeCreateContract content (pbIstreamFromBuffer parameter) = (true, stored)) :
    StoresTokens .exchangeCreate stored (recordsOf parameter) := by
  obtain ⟨rest, msg, named, named', decoded, printed, printed', rfl⟩ := exchangeCreateContract_prints read
  have first := pbDecode_bytes exchangeCreateContract_local rfl (fun _ _ => rfl)
    exchangeCreateContract_firstTokenId rfl decoded
  have second := pbDecode_bytes exchangeCreateContract_local rfl (fun _ _ => rfl)
    exchangeCreateContract_secondTokenId rfl decoded
  constructor
  · intro native
    have marked := printTokenFromID_native (by decide) printed (first.trans native)
    obtain ⟨mark, kept⟩ := printTokenFromID_marks printed'
    change named'.tokenIsTrx.first = true
    rw [kept]
    exact congrArg Pair.first marked
  · intro native
    exact congrArg Pair.second (printTokenFromID_native (by decide) printed' (second.trans native))

theorem storeExchange_tokens (read : readContract ExchangeInjectContract.fields storeExchange content
      (pbIstreamFromBuffer parameter) = (true, stored))
    (native : bytesValue 3 (recordsOf parameter) = nativeId) : stored.tokenIsTrx.first = true := by
  obtain ⟨rest, msg, named, decoded, printed, rfl⟩ := storeExchange_prints read
  have id := pbDecode_bytes exchangeInjectContract_local rfl (fun _ _ => rfl)
    exchangeInjectContract_tokenId rfl decoded
  exact congrArg Pair.first (printTokenFromID_native (by decide) printed (id.trans native))

theorem exchangeTransactionContract_tokens
    (read : exchangeTransactionContract content (pbIstreamFromBuffer parameter) = (true, stored))
    (native : bytesValue 3 (recordsOf parameter) = nativeId) : stored.tokenIsTrx.first = true := by
  obtain ⟨rest, msg, named, decoded, printed, rfl⟩ := exchangeTransactionContract_prints read
  have id := pbDecode_bytes exchangeTransactionContract_local rfl (fun _ _ => rfl)
    exchangeTransactionContract_tokenId rfl decoded
  exact congrArg Pair.first (printTokenFromID_native (by decide) printed (id.trans native))

theorem exchangeTransactionContract_marked {stream : Istream}
    (read : exchangeTransactionContract content stream = (true, stored))
    (marked : stored.tokenIsTrx.first = true) : stored.tokenName 0 = ascii "TRX" := by
  obtain ⟨rest, msg, named, -, printed, rfl⟩ := exchangeTransactionContract_prints read
  have name : named.tokenName 0 = ascii "TRX" := printTokenFromID_marked printed marked
  exact name

/-- **Every accepted contract marks the tokens that are TRX.** -/
theorem readByType_tokens {code : UInt32} {msg kept : Msg}
    (read : readByType code content (pbIstreamFromBuffer parameter) msg = (true, stored, kept)) :
    StoresTokens (ContractType.ofCode code) stored (recordsOf parameter) := by
  have reads {reader : ContractReader} (known : contractReader (ContractType.ofCode code) = some reader) :=
    readByType_reader known read
  unfold StoresTokens
  split
  case h_5 => trivial
  all_goals rename_i type; rw [type] at reads
  · exact exchangeCreateContract_tokens (reads rfl)
  · exact storeExchange_tokens (reads rfl)
  · exact storeExchange_tokens (reads rfl)
  · exact exchangeTransactionContract_tokens (reads rfl)

end Tokens

section Texts

/-- An amount without digits is shown by its decimals. -/
theorem amountShown_zero : ∀ sun ≤ 18, amountShown 0 100 sun = amountShown 0 100 sunDig → sun = sunDig := by
  decide +kernel

/-- Two scales of an amount differ on the screen. -/
theorem amountShown_inj {amount : UInt64} {sun : Nat} (short : tooLong amount = false) (few : sun ≤ 18)
    (same : amountShown amount 100 sun = amountShown amount 100 sunDig) : sun = sunDig := by
  by_cases none : amount = 0
  · rw [none] at same
    exact amountShown_zero sun few same
  obtain ⟨-, m, p, reads, scaled⟩ := amountShown_reads short few (show 35 ≤ 100 by decide)
  obtain ⟨-, m', p', reads', scaled'⟩ := amountShown_reads short (show sunDig ≤ 18 by decide)
    (show 35 ≤ 100 by decide)
  rw [same, reads'] at reads
  obtain ⟨rfl, rfl⟩ := Prod.mk.inj (Option.some.inj reads)
  have positive : 0 < amount.toNat := by
    by_contra zero
    exact none (UInt64.toNat_inj.mp (by simpa using zero))
  have scale : 0 < m' := by
    by_contra zero
    have : amount.toNat * 10 ^ p' = 0 := by
      rw [← scaled, Nat.eq_zero_of_not_pos zero, Nat.zero_mul]
    exact absurd this (Nat.mul_pos positive (by positivity)).ne'
  have powers : 10 ^ sun = 10 ^ sunDig := Nat.eq_of_mul_eq_mul_left scale (scaled.trans scaled'.symm)
  exact Nat.pow_right_injective (le_refl 2 |>.trans (by decide)) powers

/-- A printed amount is that of TRX when it is scaled like one. -/
theorem AmountLine.Printed.scaled_iff {value : Int64} {sun : Nat} {slot : Slot} {ui : Ui}
    (printed : AmountLine.Printed ⟨value, sun, slot⟩ ui) :
    printAmount value.toUInt64 100 sunDig = some (slot.shown ui) ↔ sun = sunDig := by
  have small : ¬10 ^ 19 ≤ value.toUInt64.toNat := by
    have short := printed.short
    simp only [tooLong, decide_eq_false_iff_not] at short
    exact short
  rw [printAmount_eq, if_neg small, Option.some.injEq, printed.shown_eq]
  constructor
  · intro same
    exact amountShown_inj printed.short printed.few same.symm
  · rintro rfl
    rfl

end Texts

section Rules

variable {σ κ : Type}

/-- An exchange transaction whose token is TRX calls it so, and has no decimals for it. -/
def NativeNamed (content : TxContent) : Prop :=
  content.contractType = .exchangeTransaction → content.tokenIsTrx.first = true →
    content.tokenName 0 = ascii "TRX" ∧ content.decimals.first = 0

/-- **No metadata gives an exchange transaction decimals for TRX.** -/
theorem nativeRule : ContentRule NativeNamed where
  reads {contract parameter stored msg} read type marked := by
    have typed := readByType_contractType contract.type (TxContent.empty.typed contract)
      (pbIstreamFromBuffer parameter) default
    rw [read] at typed
    have code : ContractType.ofCode contract.type = .exchangeTransaction := typed.symm.trans type
    have coded : (TxContent.empty.typed contract).contractType = ContractType.ofCode contract.type := rfl
    have decimals := readByType_decimals coded (pbIstreamFromBuffer parameter) (default : Msg)
    rw [read] at decimals
    constructor
    · exact exchangeTransactionContract_marked (readByType_reader (by rw [code]; rfl) read) marked
    · rw [decimals.kept (by simp [type])]
      rfl
  metadata {a b} _ step native type marked := by
    have change := step.change
    unfold MetadataChange at change
    have before : a.contractType = .exchangeTransaction ∧ a.tokenIsTrx.first = true := by
      rw [change] at type marked
      exact ⟨type, marked⟩
    have named := native before.1 before.2
    have unpaired : a.unpaired := ⟨before.1, by rw [named.1]; decide, by rw [named.1]; decide⟩
    rw [step.foreign unpaired]
    exact named
  reframe _ _ _ native := native
  rendered native := by
    unfold renderedContent
    split <;> exact native

end Rules

section Decimals

variable {σ κ : Type} {sdk : Sdk σ κ} {c : Command} {s v s' : Session σ κ} {news : List Effect}
  {r : Review} {payload : Bytes}

theorem signParse_review (parse : SignParse sdk c payload s news s') (among : .review r ∈ news) :
    r.content = renderedContent (s.parsed payload).txContent := by
  cases parse with
  | acknowledged => simp at among
  | faulted => simp at among
  | finalises status ends =>
    cases ends with
    | reviewing kind r' noSwap own normal printable typed rendered shown =>
      obtain rfl : r = r' := by simpa using among
      exact shown.content_eq
    | refused => simp at among
    | thrown => simp at among
    | swapSigned => simp at among
    | swapFailed => simp at among

theorem signChunk_review (chunk : SignChunk sdk c payload s news s') (among : .review r ∈ news) :
    r.content = renderedContent (s.parsed payload).txContent := by
  cases chunk with
  | closed => simp at among
  | exits => simp at among
  | parses _ _ parse =>
    have shown := signParse_review parse (by simpa using among)
    exact shown
  | swapParses _ _ _ parse =>
    have shown := signParse_review parse (by simpa using among)
    exact shown

/-- What parsing a payload leaves of the decimals. -/
theorem parsed_decimals (s : Session σ κ) (payload : Bytes) :
    DecimalsFrom s.txContent (s.parsed payload).txContent :=
  processTx_decimals (show processTx s.settings.dataAllowed payload s.txContent s.msg = (_, _, _) from rfl)

/-- A verified name sets the precision of its token only. -/
theorem parseTokenName_first {tokenId : Fin 2} {data : Bytes} {content : TxContent}
    (verified : (parseTokenName sdk tokenId data content).1 = true) :
    (parseTokenName sdk tokenId data content).2.decimals.first =
      if tokenId = 0 then metadataPrecision data else content.decimals.first := by
  unfold parseTokenName at verified ⊢
  rw [metadataPrecision]
  split
  · simp_all
  · rename_i decoded
    rw [decoded] at verified ⊢
    dsimp only at verified ⊢
    split_ifs at verified ⊢ with _ _ first
    · rw [first]
      rfl
    · match tokenId with
      | 0 => exact absurd rfl first
      | 1 => rfl

/-- The decimals of a reviewed TRC10 transfer. -/
theorem signMove_decimals (moved : SignMove sdk c s news s') (among : .review r ∈ news)
    (asset : r.content.contractType = .transferAsset) : r.content.decimals.first = s.tokenDecimals c := by
  cases moved with
  | early => simp at among
  | enters entered entry chunk =>
    rename_i first news v payload
    have shown : r.content = renderedContent (v.parsed payload).txContent := by
      rcases List.mem_append.mp among with among | among
      · exact signChunk_review chunk among
      · cases entry <;> simp at among
    have type : (v.parsed payload).txContent.contractType = .transferAsset := by
      rw [← asset, shown, renderedContent_type]
    have decimals : r.content.decimals.first = v.txContent.decimals.first := by
      rw [shown, (renderedContent_fee _).2, (parsed_decimals v payload).kept (by simp [type])]
    rw [decimals, Session.tokenDecimals]
    cases entry with
    | opens n opener read => rw [if_pos opener]; rfl
    | metadata name opener takes =>
      have change : MetadataChange s.txContent (metadataContent sdk s.txContent c) :=
        (metadataContent_step sdk s.txContent c).change
      have single : s.txContent.contractType = .transferAsset := change.contractType.symm.trans type
      have accepted : metadataAccepted sdk s.txContent c = true := by
        simp only [Session.entersSign, opener, name, if_true, Bool.false_eq_true, if_false,
          decide_eq_true_eq] at entered
        exact entered.2
      simp only [metadataAccepted, single, decide_eq_true_eq] at accepted
      have first := parseTokenName_first accepted.2.2
      rw [if_neg (show ¬c.isOpener = true by simp [opener])]
      simp only [metadataContent, single]
      rw [first]
      by_cases zero : c.p1 &&& 0x07 = 0
      · simp [zero, name]
      · simp [zero]
    | continues p1 =>
      have plain : c.isOpener = false ∧ c.p1 &&& 0xF0 ≠ P1.trc10Name := by
        unfold Command.isOpener
        rcases p1 with p1 | p1 <;> rw [p1] <;> decide
      rw [if_neg (by simp [plain.1]), if_neg fun both => plain.2 both.1]

theorem step_decimals {version : AppVersion} {w w' : World σ κ}
    (stepped : step sdk version w (.apdu c) = some w') (own : c.isSign = true)
    (trace : w'.trace = news ++ w.trace) (among : .review r ∈ news)
    (asset : r.content.contractType = .transferAsset) :
    r.content.decimals.first = w.session.tokenDecimals c := by
  obtain ⟨-, news', trace', moved⟩ := step_moves sdk version w stepped
  obtain rfl : news' = news := List.append_cancel_right (trace'.symm.trans trace)
  cases moved with
  | apdu _ idle moved =>
    have among' := (List.mem_append.mp among).resolve_right (by simp)
    cases moved with
    | sign _ moved => exact signMove_decimals moved among' asset
    | message message => rw [isSign_not_isMessage own] at message; simp at message
    | other notSign => rw [own] at notSign; simp at notSign

end Decimals

section Whole

variable {σ κ : Type} {sdk : Sdk σ κ}

/-- The decimals a review gives to an amount in TRX. -/
def nativeDecimals (content : TxContent) : Nat :=
  match content.contractType with
  | .transferAsset | .exchangeTransaction => content.decimals.first.toNat
  | _ => sunDig

/-- An amount in TRX is a number of the review, with these decimals. -/
theorem nativeLines_among {content : TxContent} {rs : List Record} {l : AmountLine}
    (tokens : StoresTokens content.contractType content rs)
    (among : l ∈ nativeLines content.contractType rs) :
    (⟨l.value, nativeDecimals content, l.slot⟩ : AmountLine) ∈ amountLines content rs := by
  have marked {number : Nat} {line : AmountLine} (own : l ∈ nativeLine number rs line) :
      bytesValue number rs = nativeId ∧ l = line := by
    unfold nativeLine at own
    split at own
    · rename_i native
      exact ⟨native, List.mem_singleton.mp own⟩
    · simp at own
  cases type : content.contractType <;>
    simp only [nativeLines, type, StoresTokens, List.mem_append, List.mem_singleton, List.not_mem_nil] at among tokens <;>
    simp only [amountLines, nativeDecimals, type]
  case transfer | delegateResource | undelegateResource | freezeBalance | freezeBalanceV2 | unfreezeBalanceV2 =>
    rw [among]
    exact List.mem_singleton_self _
  case transferAsset =>
    rw [(marked among).2]
    exact List.mem_singleton_self _
  case exchangeCreate =>
    rcases among with first | second
    · obtain ⟨native, rfl⟩ := marked first
      have scale : exchangeDecimals content 0 = sunDig := if_pos (tokens.1 native)
      simp [scale]
    · obtain ⟨native, rfl⟩ := marked second
      have scale : exchangeDecimals content 1 = sunDig := if_pos (tokens.2 native)
      simp [scale]
  case exchangeInject | exchangeWithdraw =>
    obtain ⟨native, rfl⟩ := marked among
    have scale : exchangeDecimals content 0 = sunDig := if_pos (tokens native)
    simp [scale]
  case exchangeTransaction =>
    obtain ⟨native, rfl⟩ := marked among
    simp

/-- The numbers and the tokens behind a review of the session's contract. -/
theorem ContractOf.tokens {log : List Effect} {content : TxContent} {msg : Msg}
    (of : ContractOf log content msg) : ∃ contract parameter, SessionCarries log contract parameter ∧
      StoresNumbers (renderedContent content).contractType (renderedContent content) (recordsOf parameter) ∧
      StoresTokens (renderedContent content).contractType (renderedContent content) (recordsOf parameter) := by
  obtain ⟨contract, parameter, stored, named, read, carried, type, found, change, -, same, -⟩ := of.stored
  have numbers := (readByType_wire found).kept change same
  have tokens : StoresTokens content.contractType content (recordsOf parameter) := by
    have before := readByType_tokens found
    have marks : content.tokenIsTrx = stored.tokenIsTrx := by
      unfold MetadataChange at change
      rw [same, change]
      rfl
    rw [type] at before
    unfold StoresTokens at before ⊢
    rw [marks]
    exact before
  rw [type] at numbers
  refine ⟨contract, parameter, carried, ?_⟩
  unfold renderedContent
  split
  · rename_i vote
    simp only [vote, StoresNumbers, StoresTokens, true_and]
  · exact ⟨numbers, tokens⟩

/-- **An amount in TRX is shown with six decimals, unless it is that of an exchange transaction, or
that of a TRC10 transfer to which no metadata has given six.** -/
theorem native_amounts_iff {version : AppVersion} {b : Boot} {es : List Event} {w w' : World σ κ}
    {c : Command} {g : World σ κ → Event → Bool} (run : AppRun sdk version g b es w)
    (stepped : step sdk version w (.apdu c) = some w') (own : c.isSign = true) :
    ∃ news, w'.trace = news ++ w.trace ∧
      AlwaysOver (fun entry older => ∀ r, entry = .review r → ReviewsNative w.session c r older)
        news w.trace := by
  obtain ⟨news, trace, reviewed⟩ := AppRun.reviews sdk run stepped own
  obtain ⟨news', trace', fees⟩ := run.feeShown stepped
  obtain rfl : news' = news := List.append_cancel_right (trace'.symm.trans trace)
  obtain ⟨news, trace'', natives⟩ := nativeRule.shown run stepped
  obtain rfl : news = news' := List.append_cancel_right (trace''.symm.trans trace)
  have last := step_reviewed sdk w stepped own trace
  refine ⟨news, trace, (((reviewed.and fees).and (natives.and last)).and
    (AlwaysOver.of_forall fun entry among _ => among)).mono ?_⟩
  rintro entry older ⟨⟨⟨reviewed, fee⟩, native, last⟩, among⟩ r rfl
  obtain ⟨⟨content, content_eq, of⟩, ⟨before, called, validated, time, received, shows⟩, ready⟩ := reviewed r rfl
  obtain ⟨-, -, bounded⟩ := fee (last r rfl)
  obtain ⟨contract, parameter, carried, numbers, tokens⟩ := of.tokens
  rw [← content_eq] at numbers tokens
  refine ⟨contract, parameter, carried, fun l line => ?_⟩
  have number := nativeLines_among tokens line
  have plain : r.content.contractType ≠ .triggerSmart := by
    intro call
    simp [call, nativeLines] at line
  obtain ⟨f, shown, same⟩ := shows.contract.amounts_displayed _ number
  obtain ⟨g, kept, -, value⟩ := prepareTxInfos_displays ready shown
  refine ⟨⟨g, kept, .inr (value.trans same)⟩, ?_⟩
  rw [(shows.contract.printed numbers bounded plain _ number).scaled_iff]
  unfold nativeDecimals NativeScaled
  cases type : r.content.contractType <;> simp only
  case transferAsset =>
    rw [step_decimals stepped own trace among type]
    exact ⟨fun six => UInt8.toNat_inj.mp six, fun six => by rw [six]; rfl⟩
  case exchangeTransaction =>
    -- the line is there because its token is TRX
    have marked : r.content.tokenIsTrx.first = true := by
      simp only [type, nativeLines, nativeLine, StoresTokens] at line tokens
      split at line
      · rename_i native
        exact tokens native
      · simp at line
    rw [(native (last r rfl) type marked).2]
    decide

end Whole

/-- A transfer of TRX has six decimals. -/
theorem native_amounts_iff_transfer : ∃ w',
    step device deviceVersion (boot device deviceBoot)
      (command Ins.sign P1.sign 0 (pathBytes 0 ++ sampleTransfer)) = some w' ∧
    ∃ news, w'.trace = news ++ (boot device deviceBoot).trace ∧
      AlwaysOver (fun entry older => ∀ r, entry = .review r →
        ReviewsNative (boot device deviceBoot).session
          ⟨Ins.cla, Ins.sign, P1.sign, 0, pathBytes 0 ++ sampleTransfer, sampleTransfer_short⟩ r older)
        news (boot device deviceBoot).trace := by
  have runs : (step device deviceVersion (boot device deviceBoot)
      (command Ins.sign P1.sign 0 (pathBytes 0 ++ sampleTransfer))).isSome = true := by decide +kernel
  obtain ⟨w', stepped⟩ := Option.isSome_iff_exists.mp runs
  exact ⟨w', stepped, native_amounts_iff (g := anyStep) (b := deviceBoot) .start stepped (by decide)⟩

/-- The sale of 1.5 TRX on an exchange. -/
def trxSale : Bytes :=
  delimitedField 1 (sampleAccount 1) ++ [0x10, 1] ++ delimitedField 3 nativeId ++
    [0x20, 0xe0, 0xc6, 0x5b, 0x28, 1]

/-- The sale is shown as one of 1500000 TRX. -/
theorem exchange_unscaled : ∃ w w' r older, AppRun device deviceVersion anyStep deviceBoot [] w ∧
    step device deviceVersion w (command Ins.sign P1.sign 0
      (pathBytes 0 ++ contractField 44 trxSale)) = some w' ∧
    w'.trace = .review r :: older ∧
    nativeLines r.content.contractType (recordsOf trxSale) = [⟨1500000, sunDig, .apduBuffer 0⟩] ∧
    (Slot.apduBuffer 0).shown r.ui = ascii "1500000" ∧
    printAmount 1500000 100 sunDig = some (ascii "1.5") := by
  obtain ⟨w, w', r, older, run, stepped, trace, found⟩ := exists_review_step anyStep []
    (command Ins.sign P1.sign 0 (pathBytes 0 ++ contractField 44 trxSale))
    (fun r _ => r.content.contractType = .exchangeTransaction ∧
      (Slot.apduBuffer 0).shown r.ui = ascii "1500000") (by decide +kernel)
  obtain ⟨type, shown⟩ := of_decide_eq_true found
  have line : nativeLines .exchangeTransaction (recordsOf trxSale) =
      [⟨1500000, sunDig, .apduBuffer 0⟩] := by
    have native : bytesValue 3 (recordsOf trxSale) = nativeId := by decide +kernel
    have sold : int64Value 4 (recordsOf trxSale) = 1500000 := by decide +kernel
    simp [nativeLines, nativeLine, native, sold]
  refine ⟨w, w', r, older, run, stepped, trace, ?_, shown, by decide +kernel⟩
  rw [type]
  exact line

end TronLedger
