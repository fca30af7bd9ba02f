import TronLedger.SwapRuns
import TronLedger.PrintableAmount

/-!
# What a swap binds

The comparison is made on texts: of an amount with the decimals of its asset, and of a ticker. Two
transactions that it accepts for the same parameters have the same texts.

* `move_accepts` finds the session that was compared, `swapRun_accepts` does so in a run.
* `canonicalDecimal_scaled`: equal texts are equal amounts, each scaled by its decimals.
* `swap_binds` says what that makes of two accepted transactions.
-/

namespace TronLedger

open Nanopb

section Moves

variable {σ κ : Type} {sdk : Sdk σ κ} {s s' : Session σ κ} {c : Command} {news : List Effect} {content : TxContent}
  {ui : Ui}

/-- A session with what was validated for `s`, whose transaction passed the comparison. -/
def Session.Compared (sdk : Sdk σ κ) (s : Session σ κ) (content : TxContent) (ui : Ui) : Prop :=
  ∃ v : Session σ κ, v.swapValidated = s.swapValidated ∧ v.Renders sdk .swapSign ui ∧
    content = renderedContent v.txContent

theorem Session.Compared.of_validated {v : Session σ κ} (compared : v.Compared sdk content ui)
    (same : v.swapValidated = s.swapValidated) : s.Compared sdk content ui := by
  obtain ⟨u, validated, renders, content_eq⟩ := compared
  exact ⟨u, validated.trans same, renders, content_eq⟩

theorem signEnd_accepts (ends : SignEnd sdk s news s') (among : .swapAccepted content ui ∈ news) :
    s.Compared sdk content ui := by
  have own {ui' : Ui} (renders : s.Renders sdk .swapSign ui')
      (same : Effect.swapAccepted content ui = .swapAccepted (renderedContent s.txContent) ui') :
      s.Compared sdk content ui := by
    obtain ⟨rfl, rfl⟩ := Effect.swapAccepted.inj same
    exact ⟨s, rfl, renders, rfl⟩
  cases ends with
  | refused | thrown | reviewing => simp at among
  | swapSigned ui' data renders => exact own renders (by simpa using among)
  | swapFailed ui' renders => exact own renders (by simpa using among)

theorem signParse_accepts_end {payload : Bytes} (parse : SignParse sdk c payload s news s')
    (among : .swapAccepted content ui ∈ news) : s.Compared sdk content ui := by
  cases parse with
  | acknowledged | faulted => simp at among
  | finalises status ends =>
    have ended := (List.mem_append.mp among).resolve_right (by simp)
    exact (signEnd_accepts ends ended).of_validated rfl

theorem signMove_accepts (moved : SignMove sdk c s news s') (among : .swapAccepted content ui ∈ news) :
    s.Compared sdk content ui := by
  cases moved with
  | early => simp at among
  | enters entered entry chunk =>
    rename_i first news v payload
    have kept : v.swapValidated = s.swapValidated := by cases entry <;> rfl
    have later : .swapAccepted content ui ∈ news := by
      refine (List.mem_append.mp among).resolve_right ?_
      cases entry <;> simp
    refine Session.Compared.of_validated ?_ kept
    cases chunk with
    | closed | exits => simp at later
    | parses _ _ parse =>
      have parsed := (List.mem_append.mp later).resolve_right (by simp)
      exact (signParse_accepts_end parse parsed).of_validated rfl
    | swapParses _ _ _ parse =>
      have parsed := (List.mem_append.mp later).resolve_right (by simp)
      exact (signParse_accepts_end parse parsed).of_validated rfl

/-- What passes the comparison comes from INS_SIGN, and from a session with the same parameters. -/
theorem move_accepts {e : Event} (swap : s.calledFromSwap = true) (moved : Move sdk s e news s') (among : .swapAccepted content ui ∈ news) :
    ∃ c, e = .apdu c ∧ c.isSign = true ∧ s.Compared sdk content ui := by
  cases moved with
  | apdu c idle moved =>
    have own := (List.mem_append.mp among).resolve_right (by simp)
    cases moved with
    | sign sign moved => exact ⟨c, rfl, sign, signMove_accepts moved own⟩
    | message _ noSwap => simp [swap] at noSwap
    | other _ _ moved =>
      have other := otherMove_news moved _ own
      simp [Effect.fromOther] at other
  | answer confirm asked moved =>
    have other := answerMove_news moved _ among
    simp [Effect.fromAnswer] at other
  | badFrame | toggleSetting | setContacts | ioReset => simp at among

end Moves

section Runs

variable {σ κ : Type} {sdk : Sdk σ κ} {version : AppVersion}

/-- What passed the comparison stands on INS_SIGN, and on a session with what was validated. -/
def ComparedFor (sdk : Sdk σ κ) (validated : SwapValidated) (entry : Effect) (older : List Effect) : Prop :=
  ∀ content ui, entry = .swapAccepted content ui → (lastCommand older).any Command.isSign = true ∧
    ∃ v : Session σ κ, v.swapValidated = validated ∧ v.Renders sdk .swapSign ui ∧ content = renderedContent v.txContent

theorem step_comparedFor {b : Boot} {w w' : World σ κ} {e : Event} (session : SwapSession b w.session)
    (stepped : step sdk version w e = some w') : SwapSession b w'.session ∧
      ∃ news, w'.trace = news ++ w.trace ∧ AlwaysOver (ComparedFor sdk b.swapValidated) news w.trace := by
  obtain ⟨-, news, trace, moved⟩ := step_moves sdk version w stepped
  refine ⟨(session.moves stepped).1, news, trace, ?_⟩
  cases e with
  | apdu c =>
    have last := step_lastCommand sdk w stepped trace
    have listed : AlwaysOver (fun entry _ => entry ∈ news) news w.trace := .of_forall fun _ among _ => among
    refine (last.and listed).mono ?_
    rintro entry older ⟨received, among⟩ content ui rfl
    obtain ⟨c', same, own, v, validated, renders, content_eq⟩ := move_accepts session.swap moved among
    obtain rfl := Event.apdu.inj same
    refine ⟨?_, v, validated.trans session.validated, renders, content_eq⟩
    rw [received.resolve_left (by simp)]
    exact own
  | _ =>
    refine .of_forall fun entry among older content ui same => ?_
    subst same
    obtain ⟨c, received, -⟩ := move_accepts session.swap moved among
    simp at received

/-- **In a swap, what passes the comparison is compared with what was validated.** -/
theorem swapRun_accepts {b : Boot} {es : List Event} {w : World σ κ} {guard : World σ κ → Event → Bool}
    (swap : b.calledFromSwap = true) (run : AppRun sdk version guard b es w) :
    Always (ComparedFor sdk b.swapValidated) w.trace := by
  have invariant : SwapSession b w.session ∧ Always (ComparedFor sdk b.swapValidated) w.trace := by
    refine Run.preserves (P := fun w : World σ κ => SwapSession b w.session ∧
      Always (ComparedFor sdk b.swapValidated) w.trace) ⟨.start swap, trivial⟩ ?_ run
    rintro w e w' ⟨session, all⟩ - stepped
    obtain ⟨session', news, trace, atop⟩ := step_comparedFor session stepped
    rw [trace]
    exact ⟨session', atop.always all⟩
  exact invariant.2

end Runs

section Amounts

/-- Equal texts are equal amounts, each scaled by its own decimals. -/
theorem canonicalDecimal_scaled {n m d e : Nat} (same : canonicalDecimal n d = canonicalDecimal m e) :
    n * 10 ^ e = m * 10 ^ d := by
  obtain ⟨v, p, reads, scaled⟩ := canonicalDecimal_reads n d
  obtain ⟨v', p', reads', scaled'⟩ := canonicalDecimal_reads m e
  rw [same, reads'] at reads
  obtain ⟨rfl, rfl⟩ := Prod.mk.inj (Option.some.inj reads)
  have positive : 0 < 10 ^ p' := Nat.pow_pos (by decide)
  refine Nat.eq_of_mul_eq_mul_right positive ?_
  calc n * 10 ^ e * 10 ^ p' = n * 10 ^ p' * 10 ^ e := Nat.mul_right_comm ..
    _ = v' * 10 ^ d * 10 ^ e := by rw [scaled]
    _ = v' * 10 ^ e * 10 ^ d := Nat.mul_right_comm ..
    _ = m * 10 ^ p' * 10 ^ d := by rw [scaled']
    _ = m * 10 ^ d * 10 ^ p' := Nat.mul_right_comm ..

/-- The amount of a payment that agrees is the validated one, scaled. -/
theorem SwapValidated.Agrees.scaled {validated : SwapValidated} {asset : SwapAsset} {amount : Nat} {destination : Bytes}
    (agrees : validated.Agrees asset amount destination) :
    amount * 10 ^ validated.decimals.toNat = validated.amount.toNat * 10 ^ asset.decimals := by
  have text := agrees.amount
  rw [validatedAmount_eq] at text
  split at text
  · exact (canonicalDecimal_scaled (Option.some.inj text)).symm
  · simp at text

/-- The ticker of no token is that of TRX. -/
theorem ticker_not_trx {token : TokenDefinition} (listed : token ∈ tokensTRC20) : token.ticker ≠ ascii "TRX" := by
  have all : ascii "TRX" ∉ tokensTRC20.map (·.ticker) := by decide +kernel
  intro same
  exact all (same ▸ List.mem_map_of_mem listed)

end Amounts

section Binding

variable {σ κ : Type} {sdk : Sdk σ κ} {version : AppVersion}

/-- The payment of a session, with the texts of what was validated: the amount `n` of its asset and the
amount of the parameters are the same number, and the address, where its text is rendered whole, is the one of
the parameters. -/
structure PaysFor (sdk : Sdk σ κ) (validated : SwapValidated) (amount destination : Bytes) (log : List Effect)
    (asset : SwapAsset) (receiver : Address) (n : Nat) : Prop where
  payment : ∃ contract parameter, SessionCarries log contract parameter ∧
    Payment contract.type (recordsOf parameter) asset receiver n
  ticker : validated.ticker.str 0 = asset.ticker
  scaled : n * 10 ^ validated.decimals.toNat = beNat amount * 10 ^ asset.decimals
  receiver : (base58Check sdk receiver).length = 34 → base58Check sdk receiver = cstr destination

/-- One token at most has the ticker. -/
def SoleTicker (ticker : Bytes) : Prop :=
  ∀ known ∈ tokensTRC20, ∀ known' ∈ tokensTRC20, known.ticker = ticker → known'.ticker = ticker → known = known'

/-- A compared transaction, whose destination may have any text. -/
theorem ContractOf.compared_payment {ctx : RenderContext σ κ} {log : List Effect} {content : TxContent} {msg : Msg}
    {before ui : Ui} (of : ContractOf log content msg) (encodes : ctx.sdk.EncodesBase58)
    (sound : SwapSound ctx content ui) (shows : ContractShows ctx content before .transfer ui) :
    ∃ contract parameter asset amount text, SessionCarries log contract parameter ∧
      Payment contract.type (recordsOf parameter) asset content.destination amount ∧
      ctx.swapValidated.Agrees asset amount text ∧
      ((base58Check ctx.sdk content.destination).length = 34 → text = base58Check ctx.sdk content.destination) := by
  have written : ui.toAddress = getBase58FromAddress ctx.sdk content.destination before.toAddress 0 :=
    shows.toAddress rfl
  rcases sound.contract with type | ⟨type, method⟩
  · simp only [ContractShows, type] at shows
    obtain ⟨contract, parameter, amount, carried, paid, agrees⟩ := of.trx_payment type sound shows
    refine ⟨contract, parameter, .trx, amount, _, carried, paid, agrees, fun whole => ?_⟩
    rw [written]
    exact (getBase58FromAddress_str encodes _ _ (by decide)).mpr (.inl whole)
  · simp only [ContractShows, type, method, true_or, if_true] at shows
    obtain ⟨contract, parameter, known, amount, carried, paid, agrees⟩ :=
      of.token_payment type method encodes sound shows
    exact ⟨contract, parameter, .token known, amount, _, carried, paid, agrees, fun _ => rfl⟩

/-- What passes the comparison pays for the parameters. -/
theorem accepted_pays (encodes : sdk.EncodesBase58) {swapParseConfig : Bytes → Option (Buf 15 × UInt8)}
    {params : CreateTransactionParameters} {validated : SwapValidated} {amount destination : Bytes}
    (given : params.amount = some amount) (short : amount.length ≤ 32)
    (receiver : params.destinationAddress = some destination)
    (copied : swapCopyTransactionParameters swapParseConfig params = some validated) {b : Boot} {es : List Event}
    {w : World σ κ} (swap : b.calledFromSwap = true) (same : b.swapValidated = validated)
    (run : AppRun sdk version anyStep b es w) {newer older : List Effect} {content : TxContent} {ui : Ui}
    (accepts : w.trace = newer ++ .swapAccepted content ui :: older) :
    ∃ asset address n, PaysFor sdk validated amount destination older asset address n := by
  have all := swapRun_accepts swap run
  have shown := AppRun.showsSession run
  rw [accepts] at all shown
  obtain ⟨own, v, validated_eq, renders, content_eq⟩ := all.at_split content ui rfl
  obtain ⟨settings, shows⟩ := shown.at_split
  obtain ⟨s, -, of, renders', content_eq'⟩ := shows own
  obtain ⟨contacts, residue, before, sound, compared⟩ := Renders.compared renders
  obtain ⟨contacts', residue', before', sound', -⟩ := Renders.compared renders'
  have stored : s.txContent = v.txContent := by
    rw [← renderedContent_compared sound, ← renderedContent_compared sound', ← content_eq, ← content_eq']
  rw [stored] at of
  obtain ⟨contract, parameter, asset, n, text, carried, paid, agrees, whole⟩ :=
    of.compared_payment encodes sound compared
  have copy : (v.renderContext sdk contacts residue).swapValidated = validated := validated_eq.trans same
  obtain ⟨number, address⟩ := swapCopy_keeps _ given receiver copied
  rw [copy] at agrees
  refine ⟨asset, v.txContent.destination, n, ⟨contract, parameter, carried, paid⟩, agrees.ticker, ?_, fun fits => ?_⟩
  · have scaled := agrees.scaled
    rw [number, convertUint256BE_toNat short] at scaled
    exact scaled
  · rw [← address, agrees.destination]
    exact (whole fits).symm

/-- Assets with one ticker are both TRX, or both tokens. -/
theorem SwapAsset.same_kind {asset asset' : SwapAsset} (listed : ∀ known, asset = .token known → known ∈ tokensTRC20)
    (listed' : ∀ known, asset' = .token known → known ∈ tokensTRC20) (ticker : asset.ticker = asset'.ticker) :
    (asset = .trx ∧ asset' = .trx) ∨
      ∃ known ∈ tokensTRC20, ∃ known' ∈ tokensTRC20, asset = .token known ∧ asset' = .token known' := by
  cases asset with
  | trx =>
    cases asset' with
    | trx => exact .inl ⟨rfl, rfl⟩
    | token known' => exact absurd ticker.symm (ticker_not_trx (listed' known' rfl))
  | token known =>
    cases asset' with
    | trx => exact absurd ticker (ticker_not_trx (listed known rfl))
    | token known' => exact .inr ⟨known, listed known rfl, known', listed' known' rfl, rfl, rfl⟩

theorem PaysFor.listed {validated : SwapValidated} {amount destination : Bytes} {log : List Effect} {asset : SwapAsset}
    {address : Address} {n : Nat} (pays : PaysFor sdk validated amount destination log asset address n) :
    ∀ known, asset = .token known → known ∈ tokensTRC20 := by
  rintro known rfl
  obtain ⟨contract, parameter, -, paid⟩ := pays.payment
  cases paid with
  | token _ call => exact call.listed

/-- **Two transactions that are accepted for the same parameters** have the same ticker and, each scaled by its own
decimals, the amount of the parameters. They move the same asset where one token at most has the ticker. -/
theorem swap_binds (encodes : sdk.EncodesBase58) {swapParseConfig : Bytes → Option (Buf 15 × UInt8)}
    {params : CreateTransactionParameters} {validated : SwapValidated} {amount destination : Bytes}
    (given : params.amount = some amount) (short : amount.length ≤ 32)
    (receiver : params.destinationAddress = some destination)
    (copied : swapCopyTransactionParameters swapParseConfig params = some validated) {b b' : Boot}
    {es es' : List Event} {w w' : World σ κ} (swap : b.calledFromSwap = true) (swap' : b'.calledFromSwap = true)
    (same : b.swapValidated = validated) (same' : b'.swapValidated = validated)
    (run : AppRun sdk version anyStep b es w) (run' : AppRun sdk version anyStep b' es' w')
    {newer older newer' older' : List Effect} {content content' : TxContent} {ui ui' : Ui}
    (accepts : w.trace = newer ++ .swapAccepted content ui :: older)
    (accepts' : w'.trace = newer' ++ .swapAccepted content' ui' :: older') :
    ∃ asset address n asset' address' n', PaysFor sdk validated amount destination older asset address n ∧
      PaysFor sdk validated amount destination older' asset' address' n' ∧
      asset.ticker = asset'.ticker ∧ (asset = .trx ↔ asset' = .trx) ∧
      n * 10 ^ asset'.decimals = n' * 10 ^ asset.decimals ∧
      (SoleTicker asset.ticker → asset = asset' ∧ n = n') := by
  obtain ⟨asset, address, n, pays⟩ := accepted_pays encodes given short receiver copied swap same run accepts
  obtain ⟨asset', address', n', pays'⟩ := accepted_pays encodes given short receiver copied swap' same' run' accepts'
  have ticker : asset.ticker = asset'.ticker := pays.ticker.symm.trans pays'.ticker
  have amounts : n * 10 ^ asset'.decimals = n' * 10 ^ asset.decimals := by
    have positive : 0 < 10 ^ validated.decimals.toNat := Nat.pow_pos (by decide)
    refine Nat.eq_of_mul_eq_mul_right positive ?_
    rw [Nat.mul_right_comm, pays.scaled, Nat.mul_right_comm n', pays'.scaled, Nat.mul_right_comm]
  have kinds := SwapAsset.same_kind pays.listed pays'.listed ticker
  refine ⟨asset, address, n, asset', address', n', pays, pays', ticker, ?_, amounts, fun sole => ?_⟩
  · rcases kinds with ⟨rfl, rfl⟩ | ⟨known, -, known', -, rfl, rfl⟩
    · exact Iff.rfl
    · simp
  · have one : asset = asset' := by
      rcases kinds with ⟨rfl, rfl⟩ | ⟨known, listed, known', listed', rfl, rfl⟩
      · rfl
      · rw [sole known listed known' listed' rfl ticker.symm]
    refine ⟨one, ?_⟩
    rw [one] at amounts
    exact Nat.eq_of_mul_eq_mul_right (Nat.pow_pos (by decide)) amounts

end Binding

/-- What is kept of parameters that are accepted. -/
theorem savedSwap_some {saved : SwapValidated} {result : Option SwapValidated} (accepted : result.isSome = true) :
    result = some (savedSwap saved result) := by
  obtain ⟨validated, rfl⟩ := Option.isSome_iff_exists.mp accepted
  rfl

theorem swapBoot_validated (params : CreateTransactionParameters) : (swapBoot params).swapValidated =
    savedSwap default (swapCopyTransactionParameters (fun _ => none) params) := rfl

theorem sampleSwap_copied : swapCopyTransactionParameters (fun _ => none) sampleSwap =
    some (swapBoot sampleSwap).swapValidated := by
  rw [swapBoot_validated]
  exact savedSwap_some (by decide +kernel)

/-- A signed transaction was accepted before. -/
theorem lastSigned_accepted {trace older : List Effect} {content : TxContent}
    (found : lastSigned trace = some (content, older)) :
    ∃ newer ui, trace = newer ++ .swapAccepted content ui :: older := by
  obtain ⟨data, sw, path, hash, ui, trace_eq⟩ := lastSigned_eq found
  exact ⟨[.reply data sw, .signature path hash], ui, trace_eq⟩

/-- The validated transfer, signed for two accounts. -/
theorem swap_binds_sample : ∃ w w' content content' older older',
    AppRun device deviceVersion anyStep (swapBoot sampleSwap)
      [command Ins.sign P1.sign 0 (pathBytes 0 ++ sampleTransfer) sampleTransfer_short] w ∧
    AppRun device deviceVersion anyStep (swapBoot sampleSwap)
      [command Ins.sign P1.sign 0 (pathBytes 1 ++ sampleTransfer) sampleTransfer_short] w' ∧
    lastSigned w.trace = some (content, older) ∧ lastSigned w'.trace = some (content', older') ∧
    ∃ asset address n asset' address' n',
      PaysFor device (swapBoot sampleSwap).swapValidated [0x16, 0xe3, 0x60]
        (getBase58FromAddress device (Buf.ofBytes 21 (sampleAccount 2)) (Buf.zero 35) 0).bytes older asset address n ∧
      PaysFor device (swapBoot sampleSwap).swapValidated [0x16, 0xe3, 0x60]
        (getBase58FromAddress device (Buf.ofBytes 21 (sampleAccount 2)) (Buf.zero 35) 0).bytes older' asset' address' n' ∧
      asset.ticker = asset'.ticker ∧ (asset = .trx ↔ asset' = .trx) ∧
      n * 10 ^ asset'.decimals = n' * 10 ^ asset.decimals ∧
      (SoleTicker asset.ticker → asset = asset' ∧ n = n') := by
  obtain ⟨w, run, found⟩ := Run.exists_of_exec (step device deviceVersion) anyStep (boot device (swapBoot sampleSwap))
    [command Ins.sign P1.sign 0 (pathBytes 0 ++ sampleTransfer) sampleTransfer_short]
    (fun w => (lastSigned w.trace).isSome) (by decide +kernel)
  obtain ⟨w', run', found'⟩ := Run.exists_of_exec (step device deviceVersion) anyStep
    (boot device (swapBoot sampleSwap))
    [command Ins.sign P1.sign 0 (pathBytes 1 ++ sampleTransfer) sampleTransfer_short]
    (fun w => (lastSigned w.trace).isSome) (by decide +kernel)
  obtain ⟨⟨content, older⟩, signed⟩ := Option.isSome_iff_exists.mp found
  obtain ⟨⟨content', older'⟩, signed'⟩ := Option.isSome_iff_exists.mp found'
  obtain ⟨newer, ui, accepts⟩ := lastSigned_accepted signed
  obtain ⟨newer', ui', accepts'⟩ := lastSigned_accepted signed'
  exact ⟨w, w', content, content', older, older', run, run', signed, signed',
    swap_binds (fun _ _ => rfl) rfl (by decide) rfl sampleSwap_copied rfl rfl rfl rfl run run' accepts accepts'⟩

section Shared

/-- A configuration of the coin: the length of the ticker, the ticker, and the decimals. -/
def tickerConfig : Bytes → Option (Buf 15 × UInt8)
  | [] => none
  | length :: rest =>
    if length = 0 ∨ 13 < length ∨ rest.length ≤ length.toNat then none
    else some ((Buf.zero 15).strcpy 0 (rest.take length.toNat), rest.getD length.toNat 0)

/-- A swap of one unit of CTT, which has no decimals. -/
def sharedTicker : CreateTransactionParameters where
  coinConfiguration := some (3 :: ascii "CTT" ++ [0])
  amount := some [1]
  destinationAddress := some (getBase58FromAddress device (Buf.ofBytes 21 (sampleAccount 7)) (Buf.zero 35) 0).bytes
  destinationAddressExtraId := some [0]

def sharedBoot : Boot :=
  { deviceBoot with
    calledFromSwap := true
    swapValidated := savedSwap default (swapCopyTransactionParameters tickerConfig sharedTicker) }

def firstShared : TokenDefinition := token 0x411df7a27fb560df6f998f9591a13158b5438e714b "CTT" 0
def secondShared : TokenDefinition := token 0x41f0df0be469f56d04f218292050f486e2b97a1327 "CTT" 6

/-- The transfer of an amount of a token, with its path. -/
def tickerTransfer (known : TokenDefinition) (amount : Bytes) : Bytes :=
  pathBytes 0 ++ contractField 31 (callOf known.address.bytes (delimitedField 4
    (TokenMethod.transfer.selector ++ List.replicate 11 0 ++ sampleAccount 7 ++ List.replicate (32 - amount.length) 0 ++
      amount)))

theorem firstTransfer_short : (tickerTransfer firstShared [1]).length < 256 := by decide +kernel

theorem secondTransfer_short : (tickerTransfer secondShared [0x0f, 0x42, 0x40]).length < 256 := by decide +kernel

/-- One unit of the one token is accepted for these parameters, and so are 10^6 units of the other. -/
theorem shared_ticker_accepted : ∃ w w' content content' older older',
    AppRun device deviceVersion anyStep sharedBoot
      [command Ins.sign P1.sign 0 (tickerTransfer firstShared [1]) firstTransfer_short] w ∧
    AppRun device deviceVersion anyStep sharedBoot
      [command Ins.sign P1.sign 0 (tickerTransfer secondShared [0x0f, 0x42, 0x40]) secondTransfer_short] w' ∧
    lastSigned w.trace = some (content, older) ∧ lastSigned w'.trace = some (content', older') ∧
    content.contractAddress ≠ content'.contractAddress ∧
    beNat content.trc20Amount.bytes = 1 ∧ beNat content'.trc20Amount.bytes = 10 ^ 6 := by
  obtain ⟨w, run, found⟩ := Run.exists_of_exec (step device deviceVersion) anyStep (boot device sharedBoot)
    [command Ins.sign P1.sign 0 (tickerTransfer firstShared [1]) firstTransfer_short]
    (fun w => (lastSigned w.trace).any fun found => found.1.contractAddress = firstShared.address &&
      beNat found.1.trc20Amount.bytes = 1) (by decide +kernel)
  obtain ⟨w', run', found'⟩ := Run.exists_of_exec (step device deviceVersion) anyStep (boot device sharedBoot)
    [command Ins.sign P1.sign 0 (tickerTransfer secondShared [0x0f, 0x42, 0x40]) secondTransfer_short]
    (fun w => (lastSigned w.trace).any fun found => found.1.contractAddress = secondShared.address &&
      beNat found.1.trc20Amount.bytes = 10 ^ 6) (by decide +kernel)
  rw [Option.any_eq_true] at found found'
  obtain ⟨⟨content, older⟩, signed, found⟩ := found
  obtain ⟨⟨content', older'⟩, signed', found'⟩ := found'
  simp only [Bool.and_eq_true, decide_eq_true_eq] at found found'
  refine ⟨w, w', content, content', older, older', run, run', signed, signed', ?_, found.2, found'.2⟩
  rw [found.1, found'.1]
  decide +kernel

end Shared

end TronLedger
