import TronLedger.AmountReview
import TronLedger.ContentRule
import TronLedger.ExchangeMetadata

/-!
# The labels of an exchange

A token has room for a name and an id. The review of an exchange copies labels of one token into
buffers that are large enough or checked; a pair of labels is printed into a buffer for one.

* `labelLines` lists the labels of an exchange and where its review shows them.
* `exchange_labels_iff` says when they are shown whole.
-/

namespace TronLedger

open Nanopb

/-- The labels of an exchange, and the slots of the review they are shown in. -/
def labelLines (content : TxContent) : List (Slot × Bytes) :=
  match content.contractType with
  | .exchangeCreate => [(.fullContract, content.tokenName 0), (.toAddress, content.tokenName 1)]
  | .exchangeInject | .exchangeWithdraw => [(.fullContract, content.tokenName 0)]
  | .exchangeTransaction =>
    [(.fullContract, content.tokenName 0 ++ ascii " -> " ++ content.tokenName 1)]
  | _ => []

/-- The pair of labels of an exchange transaction has at most 66 characters. -/
def PairFits (content : TxContent) : Prop :=
  content.contractType = .exchangeTransaction →
    (content.tokenName 0).length + 4 + (content.tokenName 1).length ≤ 66

/-- What a review shows of the labels of an exchange. -/
structure ReviewsLabels (r : Review) : Prop where
  lines : ∀ l ∈ labelLines r.content, r.infos.Displays l.1 ∧ (l.1.shown r.ui = l.2 ↔ PairFits r.content)
  second : r.content.contractType = .exchangeCreate → r.content.tokenNamesLength.second.toNat + 1 ≤ 35

section Measured

variable {content named stored : TxContent} {parameter : Bytes}

theorem printTokenFromID_lengths {i : Fin 2} {data : Bytes} {size : Nat}
    (printed : printTokenFromID content i data size = (true, named)) :
    named.tokenNamesLength = content.tokenNamesLength := by
  unfold printTokenFromID at printed
  split_ifs at printed <;> simp only [Prod.mk.injEq, Bool.false_eq_true, false_and] at printed <;>
    obtain ⟨-, rfl⟩ := printed <;> rfl

/-- The length of slot `i` is stored beside its name. -/
def LengthStored (content : TxContent) (i : Fin 2) : Prop :=
  content.tokenNamesLength.get i = UInt8.ofNat (content.tokenName i).length

theorem transferAssetContract_length
    (read : transferAssetContract content (pbIstreamFromBuffer parameter) = (true, stored)) :
    LengthStored stored 0 := by
  obtain ⟨rest, msg, named, -, -, rfl⟩ := transferAssetContract_prints read
  rfl

theorem exchangeCreateContract_lengths
    (read : exchangeCreateContract content (pbIstreamFromBuffer parameter) = (true, stored)) :
    LengthStored stored 0 ∧ LengthStored stored 1 := by
  obtain ⟨rest, msg, first, second, -, printed, printed', rfl⟩ := exchangeCreateContract_prints read
  constructor
  · have kept := congrArg Pair.first (printTokenFromID_lengths printed')
    have name : second.tokenName 0 = (first.measureToken 0).tokenName 0 := printTokenFromID_first printed'
    change second.tokenNamesLength.first = UInt8.ofNat (second.tokenName 0).length
    rw [kept, name]
    rfl
  · rfl

theorem storeExchange_length (read : readContract ExchangeInjectContract.fields storeExchange content
      (pbIstreamFromBuffer parameter) = (true, stored)) : LengthStored stored 0 := by
  obtain ⟨rest, msg, named, -, -, rfl⟩ := storeExchange_prints read
  rfl

theorem exchangeTransactionContract_length
    (read : exchangeTransactionContract content (pbIstreamFromBuffer parameter) = (true, stored)) :
    LengthStored stored 0 := by
  obtain ⟨rest, msg, named, -, -, rfl⟩ := exchangeTransactionContract_prints read
  rfl

/-- What a token is called fits its slot. -/
theorem Called.fits {name : Bytes} {number : Nat} {rs : List Record} (called : Called name number rs) :
    name.length ≤ 66 := by
  rcases called with ⟨-, rfl⟩ | ⟨-, more, rfl⟩
  · decide
  · rw [List.length_take]
    omega

/-- **Every reader leaves the lengths of the names it stores.** -/
theorem tokens_measured {type : ContractType} {reader : ContractReader}
    (known : contractReader type = some reader)
    (read : reader content (pbIstreamFromBuffer parameter) = (true, stored)) :
    ∀ token ∈ tokenFields type, stored.Measured token.1 := by
  intro token among
  have short := (tokens_called known read token among).fits
  cases type <;> simp only [tokenFields, List.mem_cons, List.not_mem_nil, or_false] at among <;>
    obtain rfl := Option.some.inj known
  case transferAsset =>
    subst among
    exact ⟨transferAssetContract_length read, short⟩
  case exchangeCreate =>
    obtain ⟨first, second⟩ := exchangeCreateContract_lengths read
    rcases among with rfl | rfl
    · exact ⟨first, short⟩
    · exact ⟨second, short⟩
  case exchangeInject | exchangeWithdraw =>
    subst among
    exact ⟨storeExchange_length read, short⟩
  case exchangeTransaction =>
    subst among
    exact ⟨exchangeTransactionContract_length read, short⟩

/-- A measured name is copied whole, with its terminator. -/
theorem TxContent.Measured.copied {i : Fin 2} (measured : content.Measured i) :
    (content.tokenNames.get i).bytes.take ((content.tokenNamesLength.get i).toNat + 1) =
      content.tokenName i ++ [0] := by
  have short := measured.short
  have length : (content.tokenNamesLength.get i).toNat = (content.tokenName i).length := by
    rw [measured.length, UInt8.toNat_ofNat']
    omega
  rw [length]
  exact Buf.take_str _ (by unfold tokenName at short; omega)

theorem TxContent.Measured.inside {i : Fin 2} (measured : content.Measured i) :
    (content.tokenNamesLength.get i).toNat + 1 ≤ 67 := by
  have short := measured.short
  rw [measured.length, UInt8.toNat_ofNat']
  omega

/-- The slots that name the tokens of a transaction are measured. -/
def TokensMeasured (content : TxContent) : Prop :=
  ∀ token ∈ tokenFields content.contractType, content.Measured token.1

/-- **Readers measure the names of tokens, and metadata keeps them measured.** -/
theorem measuredRule : ContentRule TokensMeasured where
  reads {contract parameter stored msg} read := by
    have typed := readByType_contractType contract.type (TxContent.empty.typed contract)
      (pbIstreamFromBuffer parameter) default
    rw [read] at typed
    intro token among
    rw [show stored.contractType = ContractType.ofCode contract.type from typed] at among
    cases known : contractReader (ContractType.ofCode contract.type) with
    | none =>
      exfalso
      revert known among
      cases ContractType.ofCode contract.type <;> simp [contractReader, tokenFields]
    | some reader => exact tokens_measured known (readByType_reader known read) token among
  metadata _ step measured token among := by
    rw [step.change.contractType] at among
    exact step.measured _ (measured token among)
  reframe _ _ _ measured token among := ⟨(measured token among).length, (measured token among).short⟩
  rendered measured := by
    unfold renderedContent
    split
    · intro token among
      exact ⟨(measured token among).length, (measured token among).short⟩
    · exact measured

end Measured

section Shown

variable {σ κ : Type} {ctx : RenderContext σ κ} {content : TxContent} {ui shown : Ui}
  {kind : ApprovalState}

theorem tokenName_nonzero (content : TxContent) (i : Fin 2) : ∀ c ∈ content.tokenName i, c ≠ 0 :=
  cstr_nonzero _

/-- A token's name is shown whole where addresses of contracts stand. -/
theorem copyTokenName_shown (measured : content.Measured 0) (ui : Ui) :
    (Ui.copyTokenName content ui).fullContract.str 0 = content.tokenName 0 := by
  have copied : (Ui.copyTokenName content ui).fullContract =
      ui.fullContract.strcpy 0 (content.tokenName 0) :=
    congrArg (Buf.write ui.fullContract 0) measured.copied
  have short := measured.short
  rw [copied]
  exact Buf.str_strcpy _ 0 _ (tokenName_nonzero content 0) (by omega)

theorem putSecondToken_shown (measured : content.Measured 1)
    (fits : content.tokenNamesLength.second.toNat + 1 ≤ 35) (ui : Ui) :
    (Ui.putSecondToken content ui).toAddress.str 0 = content.tokenName 1 := by
  have copied : (Ui.putSecondToken content ui).toAddress = ui.toAddress.strcpy 0 (content.tokenName 1) :=
    congrArg (Buf.write ui.toAddress 0) measured.copied
  have short := measured.short
  have length : content.tokenNamesLength.second = UInt8.ofNat (content.tokenName 1).length := measured.length
  rw [length, UInt8.toNat_ofNat'] at fits
  rw [copied]
  exact Buf.str_strcpy _ 0 _ (tokenName_nonzero content 1) (by omega)

/-- A text is shown whole when it fits. -/
theorem putFullContract_shown {text : Bytes} (nonzero : ∀ c ∈ text, c ≠ 0) (ui : Ui) :
    (Ui.putFullContract text ui).fullContract.str 0 = text ↔ text.length ≤ 66 := by
  have cut : (Ui.putFullContract text ui).fullContract.str 0 = text.take 66 :=
    Buf.str_strlcpy_cut ui.fullContract text 66 nonzero (by decide)
  rw [cut, List.take_eq_self_iff]

/-- **What a rendering shows of the labels of an exchange.** -/
theorem ContractShows.labels (shows : ContractShows ctx content ui kind shown)
    (measured : TokensMeasured content) :
    (∀ l ∈ labelLines content, l.1.shown shown = l.2 ↔ PairFits content) ∧
      (content.contractType = .exchangeCreate → content.tokenNamesLength.second.toNat + 1 ≤ 35) := by
  cases type : content.contractType <;> simp only [ContractShows, type] at shows <;>
    simp only [TokensMeasured, type, tokenFields, List.mem_cons, List.not_mem_nil, or_false, forall_eq,
      forall_eq_or_imp] at measured <;>
    simp only [labelLines, PairFits, type, List.mem_cons, List.not_mem_nil, or_false, forall_eq,
      forall_eq_or_imp, reduceCtorEq, false_imp_iff, implies_true, iff_true, and_true, true_imp_iff]
  case exchangeCreate =>
    refine ⟨⟨?_, ?_⟩, shows.fits⟩
    · rw [shows.shown_eq]
      exact copyTokenName_shown measured.1 ui
    · rw [shows.shown_eq]
      exact putSecondToken_shown measured.2 shows.fits _
  case exchangeInject | exchangeWithdraw =>
    obtain ⟨detail, -, shown_eq⟩ := shows.shown_eq
    rw [shown_eq]
    exact copyTokenName_shown measured ui
  case exchangeTransaction =>
    have nonzero : ∀ c ∈ content.tokenName 0 ++ ascii " -> " ++ content.tokenName 1, c ≠ 0 := by
      have arrow : ∀ c ∈ ascii " -> ", c ≠ 0 := by decide +kernel
      intro c among
      simp only [List.mem_append] at among
      rcases among with (first | between) | second
      · exact tokenName_nonzero content 0 c first
      · exact arrow c between
      · exact tokenName_nonzero content 1 c second
    have length : (ascii " -> ").length = 4 := by decide
    have whole := putFullContract_shown nonzero ui
    rw [List.length_append, List.length_append, length] at whole
    rw [shows.shown_eq]
    exact whole

theorem ContractShows.labels_displayed (shows : ContractShows ctx content ui kind shown) :
    ∀ l ∈ labelLines content, ∃ f ∈ reviewFields kind content.contractType shown, f.value = l.1 := by
  intro l among
  cases type : content.contractType <;> simp only [ContractShows, type] at shows <;>
    simp only [labelLines, type, List.mem_cons, List.not_mem_nil, or_false] at among
  all_goals rw [shows.kind_eq]
  case exchangeCreate =>
    rcases among with rfl | rfl
    · exact ⟨field "Token 1" .fullContract, by simp [reviewFields], rfl⟩
    · exact ⟨field "Token 2" .toAddress, by simp [reviewFields], rfl⟩
  case exchangeInject | exchangeWithdraw =>
    subst among
    exact ⟨field "Token Name" .fullContract, by simp [reviewFields], rfl⟩
  case exchangeTransaction =>
    subst among
    exact ⟨field "Token pair" .fullContract, by simp [reviewFields], rfl⟩

variable {sdk : Sdk σ κ}

/-- **A review shows the labels of an exchange whole, unless they are a pair too long for one slot;
and no name is copied behind the end of its buffer.** -/
theorem exchange_labels_iff {version : AppVersion} {b : Boot} {es : List Event} {w w' : World σ κ}
    {c : Command} {g : World σ κ → Event → Bool} (run : AppRun sdk version g b es w)
    (stepped : step sdk version w (.apdu c) = some w') (own : c.isSign = true) :
    (∃ news, w'.trace = news ++ w.trace ∧
      AlwaysOver (fun entry _ => ∀ r, entry = .review r → ReviewsLabels r) news w.trace) ∧
    ∀ content, Parses sdk c w.session content → content.contractType.takesMetadata = true →
      content.tokenNamesLength.first.toNat + 1 ≤ 67 := by
  constructor
  · obtain ⟨news, trace, reviewed⟩ := AppRun.reviews sdk run stepped own
    obtain ⟨news', trace', names⟩ := measuredRule.shown run stepped
    obtain rfl : news' = news := List.append_cancel_right (trace'.symm.trans trace)
    have last := step_reviewed sdk w stepped own trace
    refine ⟨news', trace, ((reviewed.and names).and last).mono ?_⟩
    rintro entry older ⟨⟨reviewed, names⟩, last⟩ r rfl
    obtain ⟨-, ⟨before, called, validated, time, received, shows⟩, ready⟩ := reviewed r rfl
    obtain ⟨whole, second⟩ := shows.contract.labels (names (last r rfl))
    refine ⟨fun l line => ⟨?_, whole l line⟩, second⟩
    obtain ⟨f, shown, same⟩ := shows.contract.labels_displayed l line
    obtain ⟨g, kept, -, value⟩ := prepareTxInfos_displays ready shown
    exact ⟨g, kept, .inr (value.trans same)⟩
  · intro content parses takes
    have measured := measuredRule.parses run stepped parses
    have named : content.Measured 0 := by
      unfold TokensMeasured at measured
      cases type : content.contractType <;> rw [type] at takes measured
      case transferAsset | exchangeCreate | exchangeInject | exchangeWithdraw | exchangeTransaction =>
        exact measured (0, _) List.mem_cons_self
      all_goals simp [ContractType.takesMetadata] at takes
    exact named.inside

end Shown

/-- The sale of the token "1000001" on exchange 1. -/
def tokenSale : Bytes :=
  delimitedField 1 (sampleAccount 1) ++ [0x10, 1] ++ delimitedField 3 (ascii "1000001") ++
    [0x20, 1, 0x28, 1]

def saleOpening : Event := command Ins.sign P1.first 0 (pathBytes 0 ++ contractField 44 tokenSale)

/-- Metadata of exchange 1, naming the tokens "1000001" and "1000002". -/
def pairNamed (first second : Bytes) : Bytes :=
  [0x08, 1] ++ delimitedField 2 (ascii "1000001") ++ delimitedField 3 first ++ [0x20, 6] ++
    delimitedField 5 (ascii "1000002") ++ delimitedField 6 second ++ [0x38, 6] ++ delimitedField 8 [1]

/-- Two short names. -/
def shortPair : Command :=
  ⟨Ins.cla, Ins.sign, P1.trc10Name ||| 0x08, 0, pairNamed (ascii "BTT") (ascii "WIN"), by decide⟩

/-- The labels of a sale, when both tokens are named. -/
theorem exchange_labels_iff_named : ∃ w w' r older, AppRun device deviceVersion anyStep deviceBoot [saleOpening] w ∧
    step device deviceVersion w (.apdu shortPair) = some w' ∧ w'.trace = .review r :: older ∧
    labelLines r.content = [(.fullContract, ascii "BTT[1000001] -> WIN[1000002]")] ∧
    (∃ news, w'.trace = news ++ w.trace ∧
      AlwaysOver (fun entry _ => ∀ r, entry = .review r → ReviewsLabels r) news w.trace) ∧
    ∀ content, Parses device shortPair w.session content → content.contractType.takesMetadata = true →
      content.tokenNamesLength.first.toNat + 1 ≤ 67 := by
  obtain ⟨w, w', r, older, run, stepped, trace, found⟩ := exists_review_step anyStep [saleOpening] (.apdu shortPair)
    (fun r _ => labelLines r.content = [(.fullContract, ascii "BTT[1000001] -> WIN[1000002]")]) (by decide +kernel)
  exact ⟨w, w', r, older, run, stepped, trace, of_decide_eq_true found,
    exchange_labels_iff run stepped (by decide)⟩

def longName : Bytes := List.replicate 31 (65 : UInt8)

def saleNaming : Event := command Ins.sign (P1.trc10Name ||| 0x08) 0 (pairNamed longName longName)

/-- The label of a token with the longest name. -/
def longLabel (id : Bytes) : Bytes := tokenLabel longName id

/-- Two of the longest labels: the second is cut after 22 of its 40 characters. -/
theorem exchange_label_cut : ∃ w w' r older,
    AppRun device deviceVersion anyStep deviceBoot [saleOpening] w ∧
    step device deviceVersion w saleNaming = some w' ∧ w'.trace = .review r :: older ∧
    labelLines r.content =
      [(.fullContract, longLabel (ascii "1000001") ++ ascii " -> " ++ longLabel (ascii "1000002"))] ∧
    Slot.fullContract.shown r.ui =
      longLabel (ascii "1000001") ++ ascii " -> " ++ (longLabel (ascii "1000002")).take 22 ∧
    (longLabel (ascii "1000002")).length = 40 := by
  obtain ⟨w, w', r, older, run, stepped, trace, found⟩ := exists_review_step anyStep [saleOpening] saleNaming
    (fun r _ => r.content.contractType = .exchangeTransaction ∧
      r.content.tokenName 0 = longLabel (ascii "1000001") ∧
      r.content.tokenName 1 = longLabel (ascii "1000002") ∧
      Slot.fullContract.shown r.ui =
        longLabel (ascii "1000001") ++ ascii " -> " ++ (longLabel (ascii "1000002")).take 22)
    (by decide +kernel)
  obtain ⟨type, first, second, shown⟩ := of_decide_eq_true found
  refine ⟨w, w', r, older, run, stepped, trace, ?_, shown, by decide +kernel⟩
  unfold labelLines
  rw [type, first, second]

end TronLedger
