import TronLedger.WireValues
import TronLedger.Device

/-!
# The names of tokens without metadata

A TRC10 token is shown by its id until metadata names it. The id is a sized byte field that is
copied as a C string: a zero inside it ends the name, and what an earlier, longer occurrence of
the field has left behind it is shown too.

* `shownId` is the name of an id, `IdFits` says which ids are shown by it.
* `token_names_iff` is about every token of every contract that has one.
-/

namespace TronLedger

open Nanopb

/-- The token id of TRX. -/
def nativeId : Bytes := ascii "_"

/-- The name of a token without metadata. -/
def shownId (id : Bytes) : Bytes := if id = nativeId then ascii "TRX" else id

/-- The places of a contract's token ids: the slot that names a token, and its field. -/
def tokenFields : ContractType → List (Fin 2 × Nat)
  | .transferAsset => [(0, 1)]
  | .exchangeCreate => [(0, 2), (1, 4)]
  | .exchangeInject | .exchangeWithdraw | .exchangeTransaction => [(0, 3)]
  | _ => []

/-- The last id of field `number` is that of TRX, or it has no zero and no earlier occurrence has
left a byte behind its seven. -/
def IdFits (number : Nat) (rs : List Record) : Prop :=
  bytesValue number rs = nativeId ∨
    ((∀ c ∈ bytesValue number rs, c ≠ 0) ∧ byteReached number 7 rs = 0)

/-- What a token is called: TRX, or its seven bytes and those behind them up to a zero. -/
def Called (name : Bytes) (number : Nat) (rs : List Record) : Prop :=
  (bytesValue number rs = nativeId ∧ name = ascii "TRX") ∨
    ((bytesValue number rs).length = 7 ∧
      ∃ more, name = (cstr (bytesValue number rs ++ byteReached number 7 rs :: more)).take 66)

/-- Ids of the sizes that are accepted are told apart by their names. -/
theorem shownId_inj {id id' : Bytes} (size : id.length = 1 ∨ id.length = 7)
    (size' : id'.length = 1 ∨ id'.length = 7) (same : shownId id = shownId id') : id = id' := by
  have three : (ascii "TRX").length = 3 := by decide
  unfold shownId at same
  split_ifs at same with native native' native'
  · rw [native, native']
  · rw [← same, three] at size'
    omega
  · rw [same, three] at size
    omega
  · exact same

section Strings

/-- A C string is a text without zeros when a zero follows it. -/
theorem cstr_eq_left {text : Bytes} (rest : Bytes) {b : UInt8} :
    cstr (text ++ b :: rest) = text ↔ (∀ c ∈ text, c ≠ 0) ∧ b = 0 := by
  constructor
  · intro same
    have nonzero : ∀ c ∈ text, c ≠ 0 := by
      rw [← same]
      exact cstr_nonzero _
    refine ⟨nonzero, ?_⟩
    by_contra other
    have longer := congrArg List.length same
    rw [cstr, List.takeWhile_append_of_pos (by simpa using nonzero),
      List.takeWhile_cons_of_pos (by simpa using other)] at longer
    simp only [List.length_append, List.length_cons] at longer
    omega
  · rintro ⟨nonzero, rfl⟩
    exact cstr_terminated text rest nonzero

end Strings

section Messages

theorem transferAssetContract_assetName :
    TransferAssetContract.fields.KeepsElsewhere 1 TransferAssetContract.assetName := .table (by simp)

theorem exchangeCreateContract_firstTokenId :
    ExchangeCreateContract.fields.KeepsElsewhere 2 ExchangeCreateContract.firstTokenId := .table (by simp)

theorem exchangeCreateContract_secondTokenId :
    ExchangeCreateContract.fields.KeepsElsewhere 4 ExchangeCreateContract.secondTokenId := .table (by simp)

theorem exchangeInjectContract_tokenId :
    ExchangeInjectContract.fields.KeepsElsewhere 3 ExchangeInjectContract.tokenId := .table (by simp)

theorem exchangeTransactionContract_tokenId :
    ExchangeTransactionContract.fields.KeepsElsewhere 3 ExchangeTransactionContract.tokenId := .table (by simp)

end Messages

section Tokens

variable {content named stored : TxContent} {parameter : Bytes}

theorem Called.iff {name : Bytes} {number : Nat} {rs : List Record} (called : Called name number rs) :
    name = shownId (bytesValue number rs) ↔ IdFits number rs := by
  unfold shownId IdFits
  rcases called with ⟨native, rfl⟩ | ⟨seven, more, rfl⟩
  · rw [if_pos native]
    exact ⟨fun _ => .inl native, fun _ => rfl⟩
  · have notNative : bytesValue number rs ≠ nativeId := by
      intro native
      rw [native] at seven
      exact absurd seven (by decide)
    rw [if_neg notNative, or_iff_right notNative, ← cstr_eq_left more]
    constructor
    · intro same
      have short := congrArg List.length same
      rw [List.length_take, seven] at short
      rwa [List.take_of_length_le (by omega)] at same
    · intro same
      rw [same, List.take_of_length_le (by omega)]

theorem Called.size {name : Bytes} {number : Nat} {rs : List Record} (called : Called name number rs) :
    (bytesValue number rs).length = 1 ∨ (bytesValue number rs).length = 7 := by
  rcases called with ⟨native, -⟩ | ⟨seven, -⟩
  · left
    rw [native]
    decide
  · exact .inr seven

/-- A name without bytes behind its id is the id. -/
theorem Called.short {name : Bytes} {number : Nat} {rs : List Record} (called : Called name number rs)
    (other : bytesValue number rs ≠ nativeId) (nonzero : ∀ c ∈ bytesValue number rs, c ≠ 0)
    (short : name.length ≤ 7) : byteReached number 7 rs = 0 := by
  obtain ⟨seven, more, rfl⟩ := called.resolve_left fun native => other native.1
  by_contra follows
  rw [cstr, List.takeWhile_append_of_pos (by simpa using nonzero),
    List.takeWhile_cons_of_pos (by simpa using follows)] at short
  simp only [List.length_take, List.length_append, List.length_cons] at short
  omega

/-- What the token of a decoded field is called. -/
theorem called_of_decoded {i : Fin 2} {n number : Nat} {id : PbBytes n} {data : Bytes} (room : 7 < n)
    {rs : List Record} (value : id.content = bytesValue number rs)
    (behind : id.bytes.bytes.getD 7 0 = byteReached number 7 rs) (memory : id.bytes.bytes <+: data)
    (printed : printTokenFromID content i data id.size = (true, named)) :
    Called (named.tokenName i) number rs := by
  obtain ⟨suffix, rfl⟩ := memory
  have length : id.content.length = min id.size n := by rw [PbBytes.content, List.length_take, id.bytes.size]
  have copied (text : Bytes) (mark : Bool) (nonzero : ∀ c ∈ text, c ≠ 0)
      (same : named = { content with
        tokenNames := content.tokenNames.set i ((content.tokenNames.get i).strlcpy 0 text 67)
        tokenIsTrx := content.tokenIsTrx.set i mark }) : named.tokenName i = text.take 66 := by
    have cut := Buf.str_strlcpy_cut (content.tokenNames.get i) text 66 nonzero (by decide)
    rw [same]
    exact (congrArg (fun b : Buf 67 => b.str 0) (Pair.get_set _ i _)).trans cut
  unfold printTokenFromID at printed
  split_ifs at printed with bad single other <;>
    simp only [Prod.mk.injEq, Bool.false_eq_true, false_and, true_and] at printed
  · left
    constructor
    · have first : (id.bytes.bytes ++ suffix).head? = some 95 := not_not.mp other
      rw [← value, PbBytes.content, single]
      cases memory : id.bytes.bytes with
      | nil =>
        have size := id.bytes.size
        rw [memory, List.length_nil] at size
        omega
      | cons b bs =>
        rw [memory, List.cons_append, List.head?_cons, Option.some.injEq] at first
        rw [first]
        rfl
    · exact copied (ascii "TRX") true (by decide +kernel) printed.symm
  · right
    have seven : id.size = 7 := by omega
    have inside : 7 < id.bytes.bytes.length := by
      rw [id.bytes.size]
      exact room
    refine ⟨by rw [← value, length]; omega, id.bytes.bytes.drop 8 ++ suffix, ?_⟩
    have parts : id.bytes.bytes = id.content ++ id.bytes.bytes.getD 7 0 :: id.bytes.bytes.drop 8 := by
      rw [PbBytes.content, seven, List.getD_eq_getElem?_getD, List.getElem?_eq_getElem inside,
        Option.getD_some, ← List.drop_eq_getElem_cons inside, List.take_append_drop]
    rw [copied (cstr (id.bytes.bytes ++ suffix)) false (cstr_nonzero _) printed.symm, ← value, ← behind]
    conv_lhs => rw [parts]
    rw [List.append_assoc, List.cons_append]

/-- Naming the second token leaves the first. -/
theorem printTokenFromID_first {data : Bytes} {size : Nat}
    (printed : printTokenFromID content 1 data size = (true, named)) :
    named.tokenName 0 = content.tokenName 0 := by
  unfold printTokenFromID at printed
  split_ifs at printed <;> simp only [Prod.mk.injEq, Bool.false_eq_true, false_and] at printed <;>
    obtain ⟨-, rfl⟩ := printed <;> rfl

theorem transferAssetContract_name
    (read : transferAssetContract content (pbIstreamFromBuffer parameter) = (true, stored)) :
    Called (stored.tokenName 0) 1 (recordsOf parameter) := by
  obtain ⟨rest, msg, named, decoded, printed, rfl⟩ := transferAssetContract_prints read
  have value := pbDecode_bytes transferAssetContract_local rfl (fun _ _ => rfl)
    transferAssetContract_assetName rfl decoded
  have behind := pbDecode_byteReached transferAssetContract_local rfl (fun _ _ => rfl)
    transferAssetContract_assetName rfl decoded 7
  have memory : msg.assetName.bytes.bytes <+: msg.assetNameMemory := by
    simp only [TransferAssetContract.assetNameMemory, List.append_assoc]
    exact List.prefix_append _ _
  have name := called_of_decoded (by decide) value behind memory printed
  exact name

theorem exchangeCreateContract_names
    (read : exchangeCreateContract content (pbIstreamFromBuffer parameter) = (true, stored)) :
    Called (stored.tokenName 0) 2 (recordsOf parameter) ∧
      Called (stored.tokenName 1) 4 (recordsOf parameter) := by
  obtain ⟨rest, msg, named, named', decoded, printed, printed', rfl⟩ := exchangeCreateContract_prints read
  have first := pbDecode_bytes exchangeCreateContract_local rfl (fun _ _ => rfl)
    exchangeCreateContract_firstTokenId rfl decoded
  have second := pbDecode_bytes exchangeCreateContract_local rfl (fun _ _ => rfl)
    exchangeCreateContract_secondTokenId rfl decoded
  have behind := pbDecode_byteReached exchangeCreateContract_local rfl (fun _ _ => rfl)
    exchangeCreateContract_firstTokenId rfl decoded 7
  have behind' := pbDecode_byteReached exchangeCreateContract_local rfl (fun _ _ => rfl)
    exchangeCreateContract_secondTokenId rfl decoded 7
  have memory : msg.firstTokenId.bytes.bytes <+: msg.firstTokenIdMemory := by
    simp only [ExchangeCreateContract.firstTokenIdMemory, List.append_assoc]
    exact List.prefix_append _ _
  constructor
  · have name := called_of_decoded (by decide) first behind memory printed
    have kept : named'.tokenName 0 = named.tokenName 0 := by
      have first := printTokenFromID_first printed'
      exact first
    rw [← kept] at name
    exact name
  · have name := called_of_decoded (by decide) second behind' (List.prefix_append _ _) printed'
    exact name

theorem storeExchange_name (read : readContract ExchangeInjectContract.fields storeExchange content
      (pbIstreamFromBuffer parameter) = (true, stored)) :
    Called (stored.tokenName 0) 3 (recordsOf parameter) := by
  obtain ⟨rest, msg, named, decoded, printed, rfl⟩ := storeExchange_prints read
  have value := pbDecode_bytes exchangeInjectContract_local rfl (fun _ _ => rfl)
    exchangeInjectContract_tokenId rfl decoded
  have behind := pbDecode_byteReached exchangeInjectContract_local rfl (fun _ _ => rfl)
    exchangeInjectContract_tokenId rfl decoded 7
  have name := called_of_decoded (by decide) value behind (List.prefix_append _ _) printed
  exact name

theorem exchangeTransactionContract_name
    (read : exchangeTransactionContract content (pbIstreamFromBuffer parameter) = (true, stored)) :
    Called (stored.tokenName 0) 3 (recordsOf parameter) := by
  obtain ⟨rest, msg, named, decoded, printed, rfl⟩ := exchangeTransactionContract_prints read
  have value := pbDecode_bytes exchangeTransactionContract_local rfl (fun _ _ => rfl)
    exchangeTransactionContract_tokenId rfl decoded
  have behind := pbDecode_byteReached exchangeTransactionContract_local rfl (fun _ _ => rfl)
    exchangeTransactionContract_tokenId rfl decoded 7
  have name := called_of_decoded (by decide) value behind (List.prefix_append _ _) printed
  exact name

/-- What the tokens of an accepted contract are called. -/
theorem tokens_called {type : ContractType} {reader : ContractReader} (known : contractReader type = some reader)
    (read : reader content (pbIstreamFromBuffer parameter) = (true, stored)) :
    ∀ token ∈ tokenFields type, Called (stored.tokenName token.1) token.2 (recordsOf parameter) := by
  intro token among
  cases type <;> simp only [tokenFields, List.mem_cons, List.not_mem_nil, or_false] at among <;>
    obtain rfl := Option.some.inj known
  case transferAsset =>
    subst among
    exact transferAssetContract_name read
  case exchangeCreate =>
    obtain ⟨first, second⟩ := exchangeCreateContract_names read
    rcases among with rfl | rfl
    · exact first
    · exact second
  case exchangeInject | exchangeWithdraw =>
    subst among
    exact storeExchange_name read
  case exchangeTransaction =>
    subst among
    exact exchangeTransactionContract_name read

/-- **The name of every token of an accepted contract is that of its id exactly when the id fits**, and ids that fit have
one name only when they are the same, in whatever contracts they stand. -/
theorem token_names_iff {type : ContractType} {reader : ContractReader} (known : contractReader type = some reader)
    (read : reader content (pbIstreamFromBuffer parameter) = (true, stored)) :
    (∀ token ∈ tokenFields type, stored.tokenName token.1 = shownId (bytesValue token.2 (recordsOf parameter)) ↔
      IdFits token.2 (recordsOf parameter)) ∧
    ∀ (type' : ContractType) (reader' : ContractReader) (content' stored' : TxContent) (parameter' : Bytes),
      contractReader type' = some reader' → reader' content' (pbIstreamFromBuffer parameter') = (true, stored') →
      ∀ token ∈ tokenFields type, ∀ token' ∈ tokenFields type', IdFits token.2 (recordsOf parameter) →
        IdFits token'.2 (recordsOf parameter') → stored.tokenName token.1 = stored'.tokenName token'.1 →
        bytesValue token.2 (recordsOf parameter) = bytesValue token'.2 (recordsOf parameter') := by
  refine ⟨fun token among => (tokens_called known read token among).iff, ?_⟩
  intro type' reader' content' stored' parameter' known' read' token among token' among' fits fits' same
  have called := tokens_called known read token among
  have called' := tokens_called known' read' token' among'
  exact shownId_inj called.size called'.size (by rw [← called.iff.mpr fits, ← called'.iff.mpr fits', same])

end Tokens

/-- The transfer of one unit of the token "1000001". -/
def tokenTransfer (ids : List Bytes) : Bytes :=
  (ids.map (delimitedField 1)).flatten ++ delimitedField 2 (sampleAccount 1) ++
    delimitedField 3 (sampleAccount 2) ++ [0x20, 1]

/-- Two ids without a zero are shown by two names. -/
theorem token_names_iff_plain : ∃ stored stored',
    transferAssetContract .empty (pbIstreamFromBuffer (tokenTransfer [ascii "1000001"])) = (true, stored) ∧
    transferAssetContract .empty (pbIstreamFromBuffer (tokenTransfer [ascii "1000002"])) = (true, stored') ∧
    (stored.tokenName 0 = shownId (bytesValue 1 (recordsOf (tokenTransfer [ascii "1000001"]))) ↔
      IdFits 1 (recordsOf (tokenTransfer [ascii "1000001"]))) ∧ stored.tokenName 0 ≠ stored'.tokenName 0 := by
  have accepted : (transferAssetContract .empty
      (pbIstreamFromBuffer (tokenTransfer [ascii "1000001"]))).1 = true := by decide +kernel
  have accepted' : (transferAssetContract .empty
      (pbIstreamFromBuffer (tokenTransfer [ascii "1000002"]))).1 = true := by decide +kernel
  have known : contractReader .transferAsset = some transferAssetContract := rfl
  have among : ((0, 1) : Fin 2 × Nat) ∈ tokenFields .transferAsset := List.mem_singleton.mpr rfl
  have value : bytesValue 1 (recordsOf (tokenTransfer [ascii "1000001"])) = ascii "1000001" := by decide +kernel
  have value' : bytesValue 1 (recordsOf (tokenTransfer [ascii "1000002"])) = ascii "1000002" := by decide +kernel
  have fits : IdFits 1 (recordsOf (tokenTransfer [ascii "1000001"])) :=
    .inr ⟨by rw [value]; decide +kernel, by decide +kernel⟩
  have fits' : IdFits 1 (recordsOf (tokenTransfer [ascii "1000002"])) :=
    .inr ⟨by rw [value']; decide +kernel, by decide +kernel⟩
  obtain ⟨named, distinct⟩ := token_names_iff known (Prod.ext accepted rfl)
  refine ⟨_, _, Prod.ext accepted rfl, Prod.ext accepted' rfl, named (0, 1) among, fun same => ?_⟩
  have one := distinct _ _ _ _ _ known (Prod.ext accepted' rfl) (0, 1) among (0, 1) among fits fits' same
  rw [value, value'] at one
  exact absurd one (by decide)

/-- A zero ends the name of an id, and what an earlier id has left follows it. -/
theorem token_misnamed : ∃ zero behind stored stored',
    zero = tokenTransfer [ascii "1000" ++ [0, 0, 0]] ∧
    behind = tokenTransfer [ascii "999999999", ascii "1000001"] ∧
    transferAssetContract .empty (pbIstreamFromBuffer zero) = (true, stored) ∧
    transferAssetContract .empty (pbIstreamFromBuffer behind) = (true, stored') ∧
    bytesValue 1 (recordsOf zero) = ascii "1000" ++ [0, 0, 0] ∧ stored.tokenName 0 = ascii "1000" ∧
    bytesValue 1 (recordsOf behind) = ascii "1000001" ∧ stored'.tokenName 0 = ascii "100000199" := by
  have accepted : (transferAssetContract .empty (pbIstreamFromBuffer
      (tokenTransfer [ascii "1000" ++ [0, 0, 0]]))).1 = true := by decide +kernel
  have accepted' : (transferAssetContract .empty (pbIstreamFromBuffer
      (tokenTransfer [ascii "999999999", ascii "1000001"]))).1 = true := by decide +kernel
  refine ⟨_, _, _, _, rfl, rfl, Prod.ext accepted rfl, Prod.ext accepted' rfl, ?_⟩
  decide +kernel

end TronLedger
