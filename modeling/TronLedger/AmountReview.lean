import TronLedger.VoteReview
import TronLedger.SessionFee
import TronLedger.WireValues

/-!
# The numbers of a review

Every amount, call value, exchange id and fee limit that a review of INS_SIGN shows, against the
signed number the network reads. A number is parsed unsigned and shown unsigned, so that a
negative one is shown as a positive one, where it is shown at all.

* `amountLines` lists the numbers of a contract, `feeLine` the fee limit of its transaction.
* `amounts_shown_iff` says when each of them is exact.
-/

namespace TronLedger

open Nanopb

/-- A number of a review: as the network reads it, the decimals it is shown with, and where. -/
structure AmountLine where
  value : Int64
  sun : Nat
  slot : Slot

/-- The text shown, scaled by the decimals, is the number. -/
def AmountLine.Exact (l : AmountLine) (ui : Ui) : Prop :=
  ShowsAmount (l.slot.shown ui) l.sun l.value.toInt

/-- The numbers of a contract whose parameter has the records `rs`. -/
def amountLines (content : TxContent) (rs : List Record) : List AmountLine :=
  let amount (number sun off : Nat) : AmountLine := ⟨int64Value number rs, sun, .apduBuffer off⟩
  let exchangeId : AmountLine := ⟨int64Value 2 rs, 0, .toAddress⟩
  match content.contractType with
  | .transfer | .delegateResource | .undelegateResource => [amount 3 sunDig 0]
  | .transferAsset => [amount 4 content.decimals.first.toNat 0]
  | .triggerSmart =>
    if content.trc20Method = 1 ∨ content.trc20Method = 2 then []
    else if int64Value 3 rs ≠ 0 then [amount 3 sunDig 0]
    else [amount 5 0 0]
  | .exchangeCreate => [amount 3 (exchangeDecimals content 0) 0, amount 5 (exchangeDecimals content 1) 100]
  | .exchangeInject | .exchangeWithdraw => [exchangeId, amount 4 (exchangeDecimals content 0) 0]
  | .exchangeTransaction =>
    [exchangeId, amount 4 content.decimals.first.toNat 0, amount 5 content.decimals.second.toNat 100]
  | .freezeBalance | .freezeBalanceV2 | .unfreezeBalanceV2 => [amount 2 sunDig 0]
  | _ => []

/-- The numbers of a call that its review does not show. -/
def hiddenAmounts (content : TxContent) (rs : List Record) : List Int64 :=
  if content.contractType = .triggerSmart then
    if content.trc20Method = 1 ∨ content.trc20Method = 2 then [int64Value 3 rs, int64Value 5 rs]
    else if int64Value 3 rs ≠ 0 then [int64Value 5 rs]
    else [int64Value 3 rs]
  else []

/-- The fee limit of a call. -/
def feeLine (log : List Effect) : AmountLine := ⟨networkFee log, sunDig, .maxFee⟩

/-- What a review shows of the numbers of its transaction. -/
structure ReviewsAmounts (r : Review) (older : List Effect) : Prop where
  amounts : ∃ contract parameter, SessionCarries older contract parameter ∧
    (∀ l ∈ amountLines r.content (recordsOf parameter),
      r.infos.Displays l.slot ∧ (l.Exact r.ui ↔ 0 ≤ l.value)) ∧
    ∀ value ∈ hiddenAmounts r.content (recordsOf parameter), value = 0
  fee : r.content.contractType = .triggerSmart → r.infos.Displays .maxFee ∧
    ((feeLine older).Exact r.ui ↔ 0 ≤ networkFee older ∧
      (networkFee older = 0 → ∀ payload ∈ sessionPayloads older, chunkFee payload = 0))

section Texts

variable {amount : UInt64} {outlen sun : Nat}

theorem amountText_length (short : tooLong amount = false) : (amountText amount).length ≤ 19 := by
  by_cases positive : 0 < amount.toNat
  · rw [amountText_eq positive, decimal_length_le (by decide)]
    simpa [tooLong] using short
  · have none : ¬0 < amount := by
      rw [UInt64.lt_iff_toNat_lt]
      exact positive
    rw [amountText, if_neg none]
    decide

/-- Where there is room, the text of an amount is the adjusted one, and its size does not matter. -/
theorem amountShown_adjusted (short : tooLong amount = false) (few : sun ≤ 18) :
    ∃ text, adjustDecimals (amountText amount) 25 sun = some text ∧ text.length ≤ 20 ∧
      ∀ outlen, 35 ≤ outlen → amountShown amount outlen sun = text := by
  have length := amountText_length short
  obtain ⟨text, adjusted⟩ := adjustDecimals_some (show (amountText amount).length + 2 ≤ 25 by omega)
    (show sun + 3 ≤ 25 by omega)
  have bound := (adjustDecimals_length adjusted).2
  refine ⟨text, adjusted, by omega, fun outlen room => ?_⟩
  rw [amountShown, adjusted, fitted, if_pos (by omega)]

/-- A printed amount reads as the amount. -/
theorem amountShown_reads (short : tooLong amount = false) (few : sun ≤ 18) (room : 35 ≤ outlen) :
    (amountShown amount outlen sun).length ≤ 20 ∧
      ∃ m p, readDecimal (amountShown amount outlen sun) = some (m, p) ∧
        m * 10 ^ sun = amount.toNat * 10 ^ p := by
  obtain ⟨digits, value⟩ := amountText_value amount
  obtain ⟨text, adjusted, bound, shown⟩ := amountShown_adjusted short few
  obtain ⟨m, p, reads, scaled⟩ := adjustDecimals_reads digits adjusted
  rw [shown outlen room]
  rw [value] at scaled
  exact ⟨bound, m, p, reads, scaled⟩

theorem amountShown_nonzero (short : tooLong amount = false) (few : sun ≤ 18) (room : 35 ≤ outlen) :
    ∀ c ∈ amountShown amount outlen sun, c ≠ 0 := by
  obtain ⟨-, m, p, reads, -⟩ := amountShown_reads short few room
  rintro c among rfl
  rcases readDecimal_chars reads 0 among with digit | point
  · simp [isDigit] at digit
  · simp at point

/-- A printed amount shows the number it is, and no other. -/
theorem amountShown_iff (short : tooLong amount = false) (few : sun ≤ 18) (room : 35 ≤ outlen)
    (value : Int) : ShowsAmount (amountShown amount outlen sun) sun value ↔ (amount.toNat : Int) = value := by
  obtain ⟨-, m, p, reads, scaled⟩ := amountShown_reads short few room
  have scaled' : (m : Int) * 10 ^ sun = amount.toNat * 10 ^ p := by exact_mod_cast scaled
  constructor
  · rintro ⟨m', p', reads', scale⟩
    rw [reads] at reads'
    obtain ⟨rfl, rfl⟩ := Prod.mk.inj (Option.some.inj reads')
    rw [scaled'] at scale
    exact mul_right_cancel₀ (by positivity) scale
  · rintro rfl
    exact ⟨m, p, reads, scaled'⟩

/-- An unsigned number is the signed one exactly when that is not negative. -/
theorem toUInt64_exact (value : Int64) : (value.toUInt64.toNat : Int) = value.toInt ↔ 0 ≤ value := by
  rw [toUInt64_toNat, Int64.le_iff_toInt_le]
  have zero : (0 : Int64).toInt = 0 := rfl
  rw [zero]
  split <;> omega

/-- An unsigned number is another signed one exactly when both are the same and not negative. -/
theorem toUInt64_eq_iff {x y : Int64} : (x.toUInt64.toNat : Int) = y.toInt ↔ 0 ≤ y ∧ y = x := by
  constructor
  · intro same
    have positive : 0 ≤ y := by
      rw [Int64.le_iff_toInt_le, ← same]
      exact Int.natCast_nonneg _
    have own := (toUInt64_exact y).mpr positive
    have equal : x.toUInt64 = y.toUInt64 := UInt64.toNat_inj.mp (by omega)
    have back := congrArg UInt64.toInt64 equal
    rw [Int64.toInt64_toUInt64, Int64.toInt64_toUInt64] at back
    exact ⟨positive, back.symm⟩
  · rintro ⟨positive, rfl⟩
    exact (toUInt64_exact y).mpr positive

theorem amountShown_room (short : tooLong amount = false) (few : sun ≤ 18) (room : 35 ≤ outlen) :
    amountShown amount outlen sun = amountShown amount 100 sun := by
  obtain ⟨text, -, -, shown⟩ := amountShown_adjusted short few
  rw [shown outlen room, shown 100 (by decide)]

variable {l : AmountLine} {ui : Ui}

/-- The slot of a line holds what `print_amount` leaves of its number. -/
structure AmountLine.Printed (l : AmountLine) (ui : Ui) : Prop where
  short : tooLong l.value.toUInt64 = false
  few : l.sun ≤ 18
  shown_eq : l.slot.shown ui = amountShown l.value.toUInt64 100 l.sun

/-- A printed number is exact when it is not negative. -/
theorem AmountLine.Printed.exact_iff (printed : l.Printed ui) : l.Exact ui ↔ 0 ≤ l.value := by
  rw [AmountLine.Exact, printed.shown_eq, amountShown_iff printed.short printed.few (by decide),
    toUInt64_exact]

end Texts

section Contracts

variable {σ κ : Type} {ctx : RenderContext σ κ} {content : TxContent} {ui shown : Ui}
  {kind : ApprovalState} {rs : List Record}

theorem exchangeDecimals_few (bounded : content.DecimalsBounded) (i : Fin 2) :
    exchangeDecimals content i ≤ 18 := by
  have first := UInt8.le_iff_toNat_le.mp bounded.1
  have second := UInt8.le_iff_toNat_le.mp bounded.2
  unfold exchangeDecimals
  split
  · decide
  · match i with
    | 0 => exact first
    | 1 => exact second

/-- An amount that is printed to the APDU buffer last. -/
theorem putApdu_printed {value : Int64} {amount : UInt64} {off sun : Nat} (stored : amount = value.toUInt64)
    (short : tooLong amount = false) (few : sun ≤ 18) (inside : off ≤ 100) {before : Buf 260}
    (same : shown.apduBuffer = before.strcpy off (amountShown amount 100 sun)) :
    AmountLine.Printed ⟨value, sun, .apduBuffer off⟩ shown := by
  subst stored
  have length := (amountShown_reads short few (show 35 ≤ 100 by decide)).1
  refine ⟨short, few, ?_⟩
  rw [Slot.shown, same]
  exact Buf.str_strcpy before off _ (amountShown_nonzero short few (by decide)) (by omega)

/-- An amount that a text at offset 100 follows. -/
theorem putApdu_printed_behind {value : Int64} {amount : UInt64} {sun : Nat} {second : Bytes}
    (stored : amount = value.toUInt64) (short : tooLong amount = false) (few : sun ≤ 18)
    (fits : second.length ≤ 20) {before : Buf 260}
    (same : shown.apduBuffer = (before.strcpy 0 (amountShown amount 100 sun)).strcpy 100 second) :
    AmountLine.Printed ⟨value, sun, .apduBuffer 0⟩ shown := by
  subst stored
  have length := (amountShown_reads short few (show 35 ≤ 100 by decide)).1
  have room : 100 + (second ++ [0]).length ≤ 260 := by
    rw [List.length_append, List.length_singleton]
    omega
  have nul := Buf.strcpy_nul before 0 (amountShown value.toUInt64 100 sun) (by omega)
  refine ⟨short, few, ?_⟩
  rw [Slot.shown, same, Buf.strcpy, Buf.str_write_behind _ _ room nul (by omega)]
  exact Buf.str_strcpy before 0 _ (amountShown_nonzero short few (by decide)) (by omega)

theorem exchangeId_printed {value : Int64} {id : UInt64} (stored : id = value.toUInt64)
    (short : tooLong id = false)
    (same : Slot.toAddress.shown shown = Slot.toAddress.shown (Ui.putToAddress (amountShown id 35 0) ui)) :
    AmountLine.Printed ⟨value, 0, .toAddress⟩ shown := by
  subst stored
  have length := (amountShown_reads short (Nat.zero_le 18) (show 35 ≤ 35 by decide)).1
  refine ⟨short, Nat.zero_le 18, ?_⟩
  rw [same, ← amountShown_room short (Nat.zero_le 18) (show 35 ≤ 35 by decide)]
  exact Buf.str_strcpy _ _ _ (amountShown_nonzero short (Nat.zero_le 18) (by decide)) (by omega)

/-- The fee limit of a call. -/
theorem ContractShows.fee (shows : ContractShows ctx content ui kind shown)
    (type : content.contractType = .triggerSmart) (fee value : Int64)
    (stored : content.feeLimit = fee.toUInt64) :
    AmountLine.Exact ⟨value, sunDig, .maxFee⟩ shown ↔ (fee.toUInt64.toNat : Int) = value.toInt := by
  obtain ⟨short, before, same⟩ : tooLong content.feeLimit = false ∧ ∃ before : Ui,
      shown = Ui.putMaxFee (amountShown content.feeLimit 50 sunDig) before := by
    simp only [ContractShows, type] at shows
    split at shows
    · obtain ⟨text, before, -, -, same⟩ := shows.shown_eq
      exact ⟨shows.short, _, same⟩
    · exact ⟨shows.short, _, shows.shown_eq⟩
  have length := (amountShown_reads short (show sunDig ≤ 18 by decide) (show 35 ≤ 50 by decide)).1
  have text : Slot.maxFee.shown shown = amountShown content.feeLimit 50 sunDig := by
    rw [same]
    exact Buf.str_strcpy _ _ _ (amountShown_nonzero short (by decide) (by decide)) (by omega)
  rw [AmountLine.Exact, text, amountShown_iff short (by decide) (by decide), stored]

/-- What a call of another contract shows of the values it moves. -/
theorem CallShows.amounts (shows : CallShows ctx content ui kind shown)
    (value : content.amount.first = (int64Value 3 rs).toUInt64)
    (token : content.callTokenValue = int64Value 5 rs) :
    (if int64Value 3 rs ≠ 0 then
      AmountLine.Exact ⟨int64Value 3 rs, sunDig, .apduBuffer 0⟩ shown ↔ 0 ≤ int64Value 3 rs
    else AmountLine.Exact ⟨int64Value 5 rs, 0, .apduBuffer 0⟩ shown ↔ 0 ≤ int64Value 5 rs) ∧
      (int64Value 3 rs ≠ 0 → int64Value 5 rs = 0) := by
  have still : content.amount.first = 0 ↔ int64Value 3 rs = 0 := by rw [value, toUInt64_eq_zero]
  have same : shown.apduBuffer = (Ui.putCallValue content (Ui.putCall ctx content ui)).apduBuffer := by
    rw [shows.shown_eq]
    rfl
  rw [Ui.putCallValue] at same
  constructor
  · split
    · rename_i moves
      rw [if_pos fun none => moves (still.mp none)] at same
      exact (putApdu_printed value shows.shortAmount (by decide) (by decide) same).exact_iff
    · rename_i none
      rw [if_neg (by simpa [still] using none)] at same
      by_cases idle : int64Value 5 rs = 0
      · -- nothing is moved, and the review says so
        rw [if_neg (by simp [token, idle])] at same
        have text : (Slot.apduBuffer 0).shown shown = ascii "0" := by
          rw [Slot.shown, same]
          exact Buf.str_strcpy _ 0 _ (by decide +kernel) (by decide)
        rw [AmountLine.Exact, text, idle]
        exact ⟨fun _ => by decide, fun _ => ⟨0, 0, by decide, by decide⟩⟩
      · rw [if_pos (by rwa [token])] at same
        exact (putApdu_printed (congrArg Int64.toUInt64 token) shows.shortToken (by decide) (by decide)
          same).exact_iff
  · intro moves
    rw [← token]
    exact shows.oneValue.resolve_left fun none => moves (still.mp none)

/-- **The numbers of a contract other than a call are printed.** -/
theorem ContractShows.printed (shows : ContractShows ctx content ui kind shown)
    (numbers : StoresNumbers content.contractType content rs) (bounded : content.DecimalsBounded)
    (plain : content.contractType ≠ .triggerSmart) : ∀ l ∈ amountLines content rs, l.Printed shown := by
  have first : content.decimals.first.toNat ≤ 18 := UInt8.le_iff_toNat_le.mp bounded.1
  have second : content.decimals.second.toNat ≤ 18 := UInt8.le_iff_toNat_le.mp bounded.2
  have fits {amount : UInt64} {sun : Nat} (short : tooLong amount = false) (few : sun ≤ 18) :
      (amountShown amount 100 sun).length ≤ 20 := (amountShown_reads short few (by decide)).1
  cases type : content.contractType <;> simp only [ContractShows, StoresNumbers, type] at shows numbers <;>
    simp only [amountLines, type, List.forall_mem_cons, List.not_mem_nil, false_implies, implies_true,
      and_true]
  case transfer =>
    have same := shows.shown_eq
    rw [if_pos type] at same
    exact putApdu_printed numbers shows.short (by decide) (by decide) (congrArg Ui.apduBuffer same)
  case transferAsset =>
    have same := shows.shown_eq
    rw [if_neg (by simp [type])] at same
    exact putApdu_printed numbers shows.short first (by decide) (congrArg Ui.apduBuffer same)
  case freezeBalance | freezeBalanceV2 | unfreezeBalanceV2 | undelegateResource | delegateResource =>
    exact putApdu_printed numbers shows.short (by decide) (by decide) (congrArg Ui.apduBuffer shows.shown_eq)
  case exchangeCreate =>
    have same := congrArg Ui.apduBuffer shows.shown_eq
    exact ⟨putApdu_printed_behind numbers.1 shows.short (exchangeDecimals_few bounded 0)
        (fits shows.shortSecond (exchangeDecimals_few bounded 1)) same,
      putApdu_printed numbers.2 shows.shortSecond (exchangeDecimals_few bounded 1) le_rfl same⟩
  case exchangeInject | exchangeWithdraw =>
    obtain ⟨detail, known, shown_eq⟩ := shows.shown_eq
    obtain rfl := Option.some.inj (known.symm.trans (by rw [type]; rfl))
    exact ⟨exchangeId_printed numbers.1 shows.shortId (by rw [shown_eq]; rfl),
      putApdu_printed_behind numbers.2 shows.short (exchangeDecimals_few bounded 0) (by decide)
        (congrArg Ui.apduBuffer shown_eq)⟩
  case exchangeTransaction =>
    have same := congrArg Ui.apduBuffer shows.shown_eq
    exact ⟨exchangeId_printed numbers.1 shows.shortId (by rw [shows.shown_eq]; rfl),
      putApdu_printed_behind numbers.2.1 shows.short first (fits shows.shortSecond second) same,
      putApdu_printed numbers.2.2 shows.shortSecond second le_rfl same⟩
  case triggerSmart => exact absurd type plain

/-- **The numbers of a contract that is shown.** -/
theorem ContractShows.amounts (shows : ContractShows ctx content ui kind shown)
    (numbers : StoresNumbers content.contractType content rs) (bounded : content.DecimalsBounded) :
    (∀ l ∈ amountLines content rs, l.Exact shown ↔ 0 ≤ l.value) ∧
      ∀ value ∈ hiddenAmounts content rs, value = 0 := by
  by_cases type : content.contractType = .triggerSmart
  · simp only [ContractShows, StoresNumbers, type] at shows numbers
    simp only [amountLines, hiddenAmounts, type, if_true]
    split at shows
    · rename_i known
      have still := shows.noAmount
      rw [numbers.1, toUInt64_eq_zero] at still
      have none := shows.noToken
      rw [numbers.2] at none
      simp [known, still, none]
    · rename_i custom
      obtain ⟨exact, hidden⟩ := shows.amounts numbers.1 numbers.2
      simp only [if_neg custom]
      split at exact
      · rename_i moves
        simp [if_pos moves, exact, hidden moves]
      · rename_i none
        simp [exact, not_not.mp none]
  · refine ⟨fun l among => (shows.printed numbers bounded type l among).exact_iff, ?_⟩
    simp [hiddenAmounts, type]

/-- Every line is a value of the review. -/
theorem ContractShows.amounts_displayed (shows : ContractShows ctx content ui kind shown) :
    ∀ l ∈ amountLines content rs, ∃ f ∈ reviewFields kind content.contractType shown, f.value = l.slot := by
  intro l among
  cases type : content.contractType <;> simp only [ContractShows, type] at shows <;>
    simp only [amountLines, type, List.mem_cons, List.not_mem_nil, or_false] at among
  case triggerSmart =>
    split at shows
    · rename_i known
      simp [known] at among
    · rename_i custom
      rw [if_neg custom] at among
      refine ⟨field "Call Amount" (.apduBuffer 0), by simp [reviewFields, shows.kind_eq], ?_⟩
      split at among <;> rw [List.mem_singleton.mp among] <;> rfl
  all_goals rw [shows.kind_eq]
  case exchangeCreate =>
    rcases among with rfl | rfl
    · exact ⟨field "Amount 1" (.apduBuffer 0), by simp [reviewFields], rfl⟩
    · exact ⟨field "Amount 2" (.apduBuffer 100), by simp [reviewFields], rfl⟩
  case exchangeInject | exchangeWithdraw =>
    rcases among with rfl | rfl
    · exact ⟨field "Exchange ID" .toAddress, by simp [reviewFields], rfl⟩
    · exact ⟨field "Amount" (.apduBuffer 0), by simp [reviewFields], rfl⟩
  case exchangeTransaction =>
    rcases among with rfl | rfl | rfl
    · exact ⟨field "Exchange ID" .toAddress, by simp [reviewFields], rfl⟩
    · exact ⟨field "Amount" (.apduBuffer 0), by simp [reviewFields], rfl⟩
    · exact ⟨field "Expected" (.apduBuffer 100), by simp [reviewFields], rfl⟩
  all_goals
    subst among
    exact ⟨field "Amount" (.apduBuffer 0), by simp [reviewFields], rfl⟩

theorem ContractShows.fee_displayed (shows : ContractShows ctx content ui kind shown)
    (type : content.contractType = .triggerSmart) :
    ∃ f ∈ reviewFields kind content.contractType shown, f.value = .maxFee := by
  simp only [ContractShows, type] at shows
  refine ⟨field "Max Fee" .maxFee, ?_, rfl⟩
  split at shows <;> rw [shows.kind_eq, type] <;> simp [reviewFields]

end Contracts

section Whole

variable {σ κ : Type} {sdk : Sdk σ κ}

/-- Metadata, and the chunks around the contract, change no number but the decimals. -/
theorem StoresNumbers.kept {type : ContractType} {stored named content : TxContent} {rs : List Record}
    (numbers : StoresNumbers type stored rs) (change : MetadataChange stored named)
    (same : content = named.reframe content.dataBytes content.feeLimit content.feeLimitSeen) :
    StoresNumbers type content rs := by
  unfold MetadataChange at change
  rw [same, change]
  cases type <;> exact numbers

/-- The numbers behind a review of the session's contract. -/
theorem ContractOf.numbers {log : List Effect} {content : TxContent} {msg : Msg}
    (of : ContractOf log content msg) : ∃ contract parameter, SessionCarries log contract parameter ∧
      StoresNumbers (renderedContent content).contractType (renderedContent content) (recordsOf parameter) := by
  obtain ⟨contract, parameter, stored, named, read, carried, type, found, change, -, same, -⟩ := of.stored
  have numbers := (readByType_wire found).kept change same
  rw [type] at numbers
  refine ⟨contract, parameter, carried, ?_⟩
  unfold renderedContent
  split
  · rename_i vote
    simp only [vote, StoresNumbers]
  · exact numbers

/-- **Every number a review of INS_SIGN shows is the signed one exactly when that is not negative,
and the fee limit exactly when, besides, no chunk sets another one before a zero.** -/
theorem amounts_shown_iff {version : AppVersion} {b : Boot} {es : List Event} {w w' : World σ κ}
    {c : Command} {g : World σ κ → Event → Bool} (run : AppRun sdk version g b es w)
    (stepped : step sdk version w (.apdu c) = some w') (own : c.isSign = true) :
    ∃ news, w'.trace = news ++ w.trace ∧
      AlwaysOver (fun entry older => ∀ r, entry = .review r → ReviewsAmounts r older) news w.trace := by
  obtain ⟨news, trace, reviewed⟩ := AppRun.reviews sdk run stepped own
  obtain ⟨news', trace', fees⟩ := run.feeShown stepped
  obtain rfl : news' = news := List.append_cancel_right (trace'.symm.trans trace)
  have last := step_reviewed sdk w stepped own trace
  refine ⟨news', trace, ((reviewed.and fees).and last).mono ?_⟩
  rintro entry older ⟨⟨reviewed, fee⟩, last⟩ r rfl
  obtain ⟨⟨content, content_eq, of⟩, ⟨before, called, validated, time, received, shows⟩, ready⟩ := reviewed r rfl
  obtain ⟨⟨rss, framed⟩, limit, bounded⟩ := fee (last r rfl)
  obtain ⟨contract, parameter, carried, numbers⟩ := of.numbers
  rw [← content_eq] at numbers
  have displayed {slot : Slot} (shown : ∃ f ∈ reviewFields r.infos.state r.content.contractType r.ui,
      f.value = slot) : r.infos.Displays slot := by
    obtain ⟨f, among, same⟩ := shown
    obtain ⟨g, kept, -, value⟩ := prepareTxInfos_displays ready among
    exact ⟨g, kept, .inr (value.trans same)⟩
  obtain ⟨exact, hidden⟩ := shows.contract.amounts numbers bounded
  refine ⟨⟨contract, parameter, carried, fun l among => ⟨?_, exact l among⟩, hidden⟩, fun type => ⟨?_, ?_⟩⟩
  · exact displayed (shows.contract.amounts_displayed l among)
  · exact displayed (shows.contract.fee_displayed type)
  · have shown := shows.contract.fee type (sessionFee (sessionPayloads older)) (networkFee older) limit
    rw [feeLine, shown, toUInt64_eq_iff, networkFee_eq_iff framed]

end Whole

/-- A transfer between the sample accounts, with the bytes of its amount. -/
def transferOf (amount : Bytes) : Bytes :=
  delimitedField 1 (sampleAccount 1) ++ delimitedField 2 (sampleAccount 2) ++ 0x18 :: amount

/-- A transfer of 1.5 TRX is shown exactly. -/
theorem amounts_shown_iff_transfer : ∃ w',
    step device deviceVersion (boot device deviceBoot)
      (command Ins.sign P1.sign 0 (pathBytes 0 ++ sampleTransfer)) = some w' ∧
    ∃ news, w'.trace = news ++ (boot device deviceBoot).trace ∧
      AlwaysOver (fun entry older => ∀ r, entry = .review r → ReviewsAmounts r older) news
        (boot device deviceBoot).trace := by
  have runs : (step device deviceVersion (boot device deviceBoot)
      (command Ins.sign P1.sign 0 (pathBytes 0 ++ sampleTransfer))).isSome = true := by decide +kernel
  obtain ⟨w', stepped⟩ := Option.isSome_iff_exists.mp runs
  exact ⟨w', stepped, amounts_shown_iff (g := anyStep) (b := deviceBoot) .start stepped (by decide)⟩

/-- No text shows a negative number. -/
theorem not_showsAmount {text : Bytes} {sun : Nat} {value : Int} (negative : value < 0) :
    ¬ShowsAmount text sun value := by
  rintro ⟨m, p, -, scaled⟩
  have below : value * 10 ^ p < 0 := Int.mul_neg_of_neg_of_pos negative (by positivity)
  have above : 0 ≤ (m : Int) * 10 ^ sun := by positivity
  omega

/-- -2^63, as it is on the wire. -/
def leastAmount : Bytes := [0x80, 0x80, 0x80, 0x80, 0x80, 0x80, 0x80, 0x80, 0x80, 0x01]

/-- The transfer of the least amount is shown as one of 9223372036854.775808 TRX. -/
theorem negative_amount_shown : ∃ w w' r older, AppRun device deviceVersion anyStep deviceBoot [] w ∧
    step device deviceVersion w (command Ins.sign P1.sign 0
      (pathBytes 0 ++ contractField 1 (transferOf leastAmount))) = some w' ∧
    w'.trace = .review r :: older ∧
    int64Value 3 (recordsOf (transferOf leastAmount)) = Int64.minValue ∧
    (Slot.apduBuffer 0).shown r.ui = ascii "9223372036854.775808" ∧
    ¬AmountLine.Exact ⟨int64Value 3 (recordsOf (transferOf leastAmount)), sunDig, .apduBuffer 0⟩ r.ui := by
  obtain ⟨w, w', r, older, run, stepped, trace, found⟩ := exists_review_step anyStep []
    (command Ins.sign P1.sign 0 (pathBytes 0 ++ contractField 1 (transferOf leastAmount)))
    (fun r _ => (Slot.apduBuffer 0).shown r.ui = ascii "9223372036854.775808") (by decide +kernel)
  have least : int64Value 3 (recordsOf (transferOf leastAmount)) = Int64.minValue := by decide +kernel
  refine ⟨w, w', r, older, run, stepped, trace, least, of_decide_eq_true found, ?_⟩
  rw [least]
  exact not_showsAmount (by decide)

end TronLedger
