import TronLedger.SwapAmounts
import Mathlib.Data.List.TakeDrop

/-!
# Amounts that the Exchange app passes

The two entry points that take an amount from the Exchange app, with the lengths that they hand to
`convertUint256BE` and the text that the second one leaves.

* `swap_lengths_iff`: no length is checked, so the scratch buffer is left wherever a longer amount
  gets past the checks before.
* `printable_amount_iff`: the text is exact or empty where the ticker still fits.
-/

namespace TronLedger

section Lengths

variable (swapParseConfig : Bytes → Option (Buf 15 × UInt8))

/-- The copy stays inside `tmp[32]`. -/
def InScratch (length : Nat) : Prop := ∀ offset ∈ scratchOffsets length, 0 ≤ offset ∧ offset < 32

theorem inScratch_iff (length : Nat) : InScratch length ↔ length ≤ 32 := by
  unfold InScratch scratchOffsets
  constructor
  · intro inside
    by_contra long
    have first := inside (32 - (length : Int) + (0 : Nat))
      (List.mem_map.mpr ⟨0, List.mem_range.mpr (by omega), rfl⟩)
    omega
  · intro short offset among
    obtain ⟨i, small, rfl⟩ := List.mem_map.mp among
    have bound := List.mem_range.mp small
    omega

/-- The checks of `swap_copy_transaction_parameters` are passed, and this is the amount. -/
structure CreateTransactionParameters.Reaches (params : CreateTransactionParameters) (amount : Bytes) : Prop where
  extraId : ∃ extraId, params.destinationAddressExtraId = some extraId ∧ cstr extraId = []
  destination : ∃ destination, params.destinationAddress = some destination ∧ (cstr destination).length = 34
  given : params.amount = some amount
  parsed : (coinConfig swapParseConfig params.coinConfiguration).isSome

/-- What is copied of parameters that pass the checks. -/
structure CreateTransactionParameters.Copied (params : CreateTransactionParameters) (amount : Bytes)
    (validated : SwapValidated) : Prop where
  reaches : params.Reaches swapParseConfig amount
  amount : validated.amount = convertUint256BE amount
  recipient : ∀ destination, params.destinationAddress = some destination →
    validated.recipient = (Buf.zero 35).strlcpy 0 (cstr destination) 35

/-- What is converted and copied, and that nothing else is accepted. -/
theorem swapCopyCalls_cases (params : CreateTransactionParameters) :
    (∃ amount validated, params.Copied swapParseConfig amount validated ∧
        (swapCopyCalls swapParseConfig params).run [] = (some validated, [amount.length])) ∨
      (∀ amount, ¬params.Reaches swapParseConfig amount) ∧
        (swapCopyCalls swapParseConfig params).run [] = (none, []) := by
  obtain ⟨config, amount, destination, extraId⟩ := params
  rcases extraId with _ | extraId
  · exact .inr ⟨fun _ reaches => by simpa using reaches.extraId, rfl⟩
  rcases destination with _ | destination
  · exact .inr ⟨fun _ reaches => by simpa using reaches.destination, rfl⟩
  rcases amount with _ | amount
  · exact .inr ⟨fun _ reaches => by simpa using reaches.given, rfl⟩
  by_cases empty : cstr extraId = []
  · cases parsed : coinConfig swapParseConfig config with
    | none =>
      refine .inr ⟨fun _ reaches => by simpa [parsed] using reaches.parsed, ?_⟩
      simp [swapCopyCalls, empty, parsed]
      rfl
    | some result =>
      by_cases length : (cstr destination).length = 34
      · have copied : CreateTransactionParameters.Copied swapParseConfig
            ⟨config, some amount, some destination, some extraId⟩ amount ⟨true, result.2, result.1,
              convertUint256BE amount, (Buf.zero 35).strlcpy 0 (cstr destination) 35⟩ := by
          refine ⟨⟨⟨_, rfl, empty⟩, ⟨_, rfl, length⟩, rfl, by simp [parsed]⟩, rfl, fun other same => ?_⟩
          rw [Option.some.inj same]
        refine .inl ⟨amount, _, copied, ?_⟩
        simp [swapCopyCalls, convertCalled, empty, length, parsed]
        rfl
      · refine .inr ⟨fun _ reaches => by simpa [length] using reaches.destination, ?_⟩
        simp [swapCopyCalls, empty, length, parsed]
        rfl
  · refine .inr ⟨fun _ reaches => by simpa [empty] using reaches.extraId, ?_⟩
    simp [swapCopyCalls, empty]
    rfl

/-- What is kept of the parameters. -/
theorem swapCopy_keeps {params : CreateTransactionParameters} {validated : SwapValidated} {amount destination : Bytes}
    (given : params.amount = some amount) (receiver : params.destinationAddress = some destination)
    (accepted : swapCopyTransactionParameters swapParseConfig params = some validated) :
    validated.amount = convertUint256BE amount ∧ validated.recipient.str 0 = cstr destination := by
  unfold swapCopyTransactionParameters at accepted
  rcases swapCopyCalls_cases swapParseConfig params with ⟨amount', validated', copied, ran⟩ | ⟨-, ran⟩
  · rw [ran] at accepted
    obtain rfl := Option.some.inj accepted
    obtain rfl := Option.some.inj (given.symm.trans copied.reaches.given)
    obtain ⟨destination', receiver', length⟩ := copied.reaches.destination
    obtain rfl := Option.some.inj (receiver.symm.trans receiver')
    refine ⟨copied.amount, ?_⟩
    rw [copied.recipient _ receiver]
    exact Buf.str_strlcpy _ 0 35 _ (cstr_nonzero _) (by omega) (by omega)
  · rw [ran] at accepted
    exact absurd accepted (by simp)

/-- What `swap_handle_get_printable_amount` converts and leaves. -/
theorem getPrintableAmount_eq (params : GetPrintableAmountParameters) (printable : Buf 50) :
    (swapHandleGetPrintableAmount swapParseConfig params printable).run [] =
      match params.config swapParseConfig with
      | none => (Buf.zero 50, [])
      | some (ticker, decimals) =>
        (match adjustDecimals ((convertUint256BE params.amount).tostring 10 50).2 50 decimals.toNat with
          | none => Buf.zero 50
          | some text => ((printable.strcpy 0 text).strlcat (ascii " ") 50).strlcat (ticker.str 0) 50,
        [params.amount.length]) := by
  unfold swapHandleGetPrintableAmount
  cases params.config swapParseConfig with
  | none => rfl
  | some config =>
    dsimp only
    cases adjusted : adjustDecimals ((convertUint256BE params.amount).tostring 10 50).2 50 config.2.toNat with
    | none =>
      simp [convertCalled, adjusted]
      rfl
    | some text =>
      simp [convertCalled, adjusted]
      rfl

/-- **A length is in bounds, or the amount refused, exactly where no longer amount gets past the
other checks.** -/
theorem swap_lengths_iff :
    (∀ (params : CreateTransactionParameters) (saved : SwapValidated),
      ((∀ length ∈ ((swapCopyCalls swapParseConfig params).run []).2, length ≤ 32 ∧ InScratch length) ∧
        ∀ amount, params.amount = some amount → 32 < amount.length →
          swapCopyTransactionParameters swapParseConfig params = none ∧
            savedSwap saved (swapCopyTransactionParameters swapParseConfig params) = saved) ↔
        ∀ amount, params.Reaches swapParseConfig amount → amount.length ≤ 32) ∧
      ∀ (params : GetPrintableAmountParameters) (printable : Buf 50),
        ((∀ length ∈ ((swapHandleGetPrintableAmount swapParseConfig params printable).run []).2,
            length ≤ 32 ∧ InScratch length) ∧
          (32 < params.amount.length →
            (((swapHandleGetPrintableAmount swapParseConfig params printable).run []).1).str 0 = [])) ↔
          ((params.config swapParseConfig).isSome → params.amount.length ≤ 32) := by
  constructor
  · intro params saved
    unfold swapCopyTransactionParameters
    rcases swapCopyCalls_cases swapParseConfig params with ⟨amount, validated, copied, ran⟩ | ⟨refused, ran⟩
    · have reaches := copied.reaches
      rw [ran]
      constructor
      · rintro ⟨inside, -⟩ other reaches'
        have same := reaches.given.symm.trans reaches'.given
        rw [← Option.some.inj same]
        exact (inside _ (List.mem_singleton.mpr rfl)).1
      · intro short
        have fits := short amount reaches
        refine ⟨?_, ?_⟩
        · intro length among
          rw [List.mem_singleton.mp among]
          exact ⟨fits, (inScratch_iff _).mpr fits⟩
        · intro other given long
          rw [← Option.some.inj (reaches.given.symm.trans given)] at long
          omega
    · rw [ran]
      constructor
      · intro _ amount reaches
        exact absurd reaches (refused amount)
      · intro _
        exact ⟨by simp, fun _ _ _ => ⟨rfl, rfl⟩⟩
  · intro params printable
    rw [getPrintableAmount_eq]
    cases params.config swapParseConfig with
    | none =>
      have empty : (Buf.zero 50).str 0 = [] := by decide
      simp [empty]
    | some config =>
      dsimp only
      constructor
      · rintro ⟨inside, -⟩ -
        exact (inside _ (List.mem_singleton.mpr rfl)).1
      · intro short
        have fits := short rfl
        refine ⟨?_, ?_⟩
        · intro length among
          rw [List.mem_singleton.mp among]
          exact ⟨fits, (inScratch_iff _).mpr fits⟩
        · intro long
          omega

/-- Thirty-three bytes for a transfer of TRX. -/
def longAmount : CreateTransactionParameters where
  coinConfiguration := none
  amount := some (List.replicate 33 1)
  destinationAddress := some (ascii "TUEZSdKsoDHQMeZwihtdoBiN46zxhGWYdH")
  destinationAddressExtraId := some []

end Lengths

theorem long_amount_converted :
    ((swapCopyCalls (fun _ => none) longAmount).run []).2 = [33] ∧ ¬InScratch 33 ∧
      (swapCopyTransactionParameters (fun _ => none) longAmount).isSome ∧
      ((swapHandleGetPrintableAmount (fun _ => none) ⟨none, List.replicate 33 1, false⟩ (Buf.zero 50)).run []).2 =
        [33] := by
  refine ⟨by decide, ?_, by decide, ?_⟩
  · rw [inScratch_iff]
    decide
  · rw [getPrintableAmount_eq]
    rfl

section Texts

variable {swapParseConfig : Bytes → Option (Buf 15 × UInt8)}

/-- The text that is left: the amount, and as much of the ticker as the buffer holds. -/
theorem printable_text {params : GetPrintableAmountParameters} {ticker : Buf 15} {decimals : UInt8}
    (short : params.amount.length ≤ 32) (config : params.config swapParseConfig = some (ticker, decimals))
    (printable : Buf 50) :
    (((swapHandleGetPrintableAmount swapParseConfig params printable).run []).1).str 0 =
      if AdjustRoom (beNat params.amount) 50 decimals.toNat then
        canonicalDecimal (beNat params.amount) decimals.toNat ++
          (32 :: ticker.str 0).take (49 - (canonicalDecimal (beNat params.amount) decimals.toNat).length)
      else [] := by
  rw [getPrintableAmount_eq, config]
  dsimp only
  rw [adjustDecimals_tostring, convertUint256BE_toNat short]
  generalize beNat params.amount = n
  by_cases room : AdjustRoom n 50 decimals.toNat
  · rw [if_pos room, if_pos room]
    dsimp only
    have fits := canonicalDecimal_length room
    have shown : (printable.strcpy 0 (canonicalDecimal n decimals.toNat)).str 0 = canonicalDecimal n decimals.toNat :=
      Buf.str_strcpy printable 0 _ (canonicalDecimal_nonzero n decimals.toNat) (by omega)
    have blank : ∀ c ∈ ascii " ", c ≠ 0 := by decide +kernel
    have own : ∀ c ∈ ticker.str 0, c ≠ 0 := cstr_nonzero _
    rw [Buf.str_strlcat_strlcat _ blank own (by rw [shown]; omega), shown]
    rfl
  · rw [if_neg room, if_neg room]
    exact (Buf.str_eq_nil _ (by decide)).mpr rfl

/-- **The text is exact or empty where the amount is refused or leaves room for the ticker.** -/
theorem printable_amount_iff (params : GetPrintableAmountParameters) (printable : Buf 50)
    (short : params.amount.length ≤ 32) :
    ((((swapHandleGetPrintableAmount swapParseConfig params printable).run []).1).str 0 = [] ∨
        ∃ ticker decimals, params.config swapParseConfig = some (ticker, decimals) ∧
          (((swapHandleGetPrintableAmount swapParseConfig params printable).run []).1).str 0 =
            canonicalDecimal (beNat params.amount) decimals.toNat ++ ascii " " ++ ticker.str 0) ↔
      ∀ ticker decimals, params.config swapParseConfig = some (ticker, decimals) →
        AdjustRoom (beNat params.amount) 50 decimals.toNat →
          (canonicalDecimal (beNat params.amount) decimals.toNat).length + 1 + (ticker.str 0).length < 50 := by
  cases config : params.config swapParseConfig with
  | none =>
    have empty : (((swapHandleGetPrintableAmount swapParseConfig params printable).run []).1).str 0 = [] := by
      rw [getPrintableAmount_eq, config]
      exact (Buf.str_eq_nil _ (by decide)).mpr rfl
    simp [empty]
  | some result =>
    obtain ⟨ticker, decimals⟩ := result
    rw [printable_text short config]
    by_cases room : AdjustRoom (beNat params.amount) 50 decimals.toNat
    · rw [if_pos room]
      have fits := canonicalDecimal_length room
      have some : canonicalDecimal (beNat params.amount) decimals.toNat ≠ [] := by
        simp [canonicalDecimal, decimal_nonempty]
      have whole : (32 :: ticker.str 0).take (49 - (canonicalDecimal (beNat params.amount) decimals.toNat).length) =
          32 :: ticker.str 0 ↔
            (canonicalDecimal (beNat params.amount) decimals.toNat).length + 1 + (ticker.str 0).length < 50 := by
        rw [List.take_eq_self_iff, List.length_cons]
        omega
      constructor
      · rintro (empty | ⟨_, _, same, shown⟩)
        · exact absurd (List.append_eq_nil_iff.mp empty).1 some
        · rintro _ _ same' -
          obtain ⟨rfl, rfl⟩ := Prod.mk.inj (Option.some.inj same)
          obtain ⟨rfl, rfl⟩ := Prod.mk.inj (Option.some.inj same')
          rw [List.append_assoc] at shown
          exact whole.mp (List.append_cancel_left shown)
      · intro ends
        refine .inr ⟨ticker, decimals, rfl, ?_⟩
        rw [whole.mpr (ends ticker decimals rfl room), List.append_assoc]
        rfl
    · rw [if_neg room]
      constructor
      · rintro - _ _ same room'
        obtain ⟨rfl, rfl⟩ := Prod.mk.inj (Option.some.inj same)
        exact absurd room' room
      · intro _
        exact .inl rfl

/-- Nineteen bytes of TRX leave room for one letter of its name. -/
theorem printable_amount_cut :
    (((swapHandleGetPrintableAmount (fun _ => none) ⟨none, List.replicate 19 255, false⟩ (Buf.zero 50)).run []).1).str 0 =
        ascii "5708990770823839524233143877797980545530.986495 T" ∧
      canonicalDecimal (beNat (List.replicate 19 255)) 6 = ascii "5708990770823839524233143877797980545530.986495" := by
  have config : (⟨none, List.replicate 19 255, false⟩ : GetPrintableAmountParameters).config (fun _ => none) =
      some ((Buf.zero 15).strcpy 0 (ascii "TRX"), 6) := rfl
  have text : canonicalDecimal (beNat (List.replicate 19 255)) 6 =
      ascii "5708990770823839524233143877797980545530.986495" := by decide +kernel
  refine ⟨?_, text⟩
  have room : AdjustRoom (beNat (List.replicate 19 255)) 50 (6 : UInt8).toNat := by decide +kernel
  rw [printable_text (by decide) config, if_pos room]
  change canonicalDecimal (beNat (List.replicate 19 255)) 6 ++
    (32 :: ((Buf.zero 15).strcpy 0 (ascii "TRX")).str 0).take
      (49 - (canonicalDecimal (beNat (List.replicate 19 255)) 6).length) = _
  rw [text]
  decide

/-- Fifty SUN. -/
theorem printable_amount_iff_sample :
    ([50] : Bytes).length ≤ 32 ∧
      ((((swapHandleGetPrintableAmount (fun _ => none) ⟨none, [50], false⟩ (Buf.zero 50)).run []).1).str 0 = [] ∨
        ∃ ticker decimals, (⟨none, [50], false⟩ : GetPrintableAmountParameters).config (fun _ => none) =
            some (ticker, decimals) ∧
          (((swapHandleGetPrintableAmount (fun _ => none) ⟨none, [50], false⟩ (Buf.zero 50)).run []).1).str 0 =
            canonicalDecimal (beNat [50]) decimals.toNat ++ ascii " " ++ ticker.str 0) := by
  refine ⟨by decide, (printable_amount_iff ⟨none, [50], false⟩ (Buf.zero 50) (by decide)).mpr ?_⟩
  intro ticker decimals config _
  obtain ⟨rfl, rfl⟩ := Prod.mk.inj (Option.some.inj config)
  decide

end Texts

end TronLedger
