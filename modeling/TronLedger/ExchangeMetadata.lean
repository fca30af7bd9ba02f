import TronLedger.TokenNames
import TronLedger.SignSteps

/-!
# Signed metadata of tokens and exchanges

Metadata is signed over a text without separators and applied to the slots of the transaction's
tokens.

* `exchange_accepted_iff`: which exchanges their own metadata is accepted for.
* `metadata_bound_iff`: what a signed text says about the metadata.
* `metadata_atomic_iff`: when a refused payload leaves the transaction as it was.
-/

namespace TronLedger

open Nanopb

/-- What a payload of exchange metadata decodes to. -/
def DecodesExchange (data : Bytes) (details : ExchangeDetails) : Prop :=
  ∃ rest, pbDecode ExchangeDetails.fields (pbIstreamFromBuffer data) default = (some rest, details)

def DecodesToken (data : Bytes) (details : TokenDetails) : Prop :=
  ∃ rest, pbDecode TokenDetails.fields (pbIstreamFromBuffer data) default = (some rest, details)

/-- The bytes whose signature `parseExchange` checks. -/
def exchangeSigned (details : ExchangeDetails) : Bytes :=
  ((Buf.zero 90).strlcpy 0 (exchangeMessage details) 90).bytes.take (exchangeMessageSize details % 256)

/-- An id is a character or seven. -/
def idSized (id : Bytes) : Bool := id.length = 1 ∨ id.length = 7

/-- A precision that `set_token_info` accepts. -/
def inRange (precision : UInt32) : Bool := 0 ≤ precision.toInt32 ∧ precision.toInt32 ≤ 18

/-- The slots of the tokens of an exchange, in the order of its metadata. -/
def exchangeSlots (content : TxContent) (details : ExchangeDetails) : Option (Fin 2 × Fin 2) :=
  if content.tokenName 0 = details.token1Id.str 0 then some (0, 1)
  else if content.tokenName 0 = details.token2Id.str 0 then some (1, 0)
  else none

section Bounds

/-- The names of an exchange end in their buffers. -/
def ExchangeDetails.Named (details : ExchangeDetails) : Prop :=
  details.token1Name.bytes.getD 31 0 = 0 ∧ details.token2Name.bytes.getD 31 0 = 0

/-- The terminator of a string field leaves the last byte of its buffer zero. -/
theorem terminator_last {n : Nat} (b : Buf (n + 1)) {size : Nat} (fits : size + 1 ≤ n + 1)
    (last : b.bytes.getD n 0 = 0) : (b.write size [0]).bytes.getD n 0 = 0 := by
  by_cases here : size = n
  · subst here
    have inside : (b.write size [0]).bytes[size + 0]? = some 0 :=
      Buf.getElem?_write_inside b [0] (by simp) (by simp)
    have zero : (b.write size [0]).bytes[size]? = some 0 := inside
    rw [List.getD_eq_getElem?_getD, zero]
    rfl
  · rw [List.getD_eq_getElem?_getD, Buf.getElem?_write_of_ge b [0] (by simp; omega) (by simp; omega),
      ← List.getD_eq_getElem?_getD]
    exact last

/-- And so does its content. -/
theorem string_last {n : Nat} (b : Buf (n + 1)) {content : Bytes} (short : content.length + 1 ≤ n + 1)
    (last : b.bytes.getD n 0 = 0) : (b.write 0 content).bytes.getD n 0 = 0 := by
  rw [Buf.getD_write b content (by omega), if_neg (by omega)]
  exact last

/-- Decoding a string field leaves the last byte of its buffer zero. -/
theorem string_ends {τ : Type} {n : Nat} {get : τ → Buf (n + 1)}
    {modify : (Buf (n + 1) → Buf (n + 1)) → τ → τ} (own : ∀ f dest, get (modify f dest) = f (get dest)) :
    (string (n + 1) modify).Preserves fun dest => (get dest).bytes.getD n 0 = 0 := by
  apply delimited_preserves
  · intro size dest fits last
    rw [own]
    exact terminator_last _ (of_decide_eq_true fits) last
  · intro content dest fits last
    rw [own]
    exact string_last _ (of_decide_eq_true fits) last

theorem exchangeDetails_named {data : Bytes} {details : ExchangeDetails}
    (decoded : DecodesExchange data details) : details.Named := by
  obtain ⟨rest, decoded⟩ := decoded
  have first : ExchangeDetails.fields.KeepsElsewhere 3 ExchangeDetails.token1Name := .table (by simp)
  have second : ExchangeDetails.fields.KeepsElsewhere 6 ExchangeDetails.token2Name := .table (by simp)
  have empty : (default : ExchangeDetails).Named := by
    unfold ExchangeDetails.Named
    decide
  have one := pbDecode_preserves (first.preserves (P := fun name => name.bytes.getD 31 0 = 0) rfl
    (string_ends fun _ _ => rfl)) (pbIstreamFromBuffer data) empty.1
  have two := pbDecode_preserves (second.preserves (P := fun name => name.bytes.getD 31 0 = 0) rfl
    (string_ends fun _ _ => rfl)) (pbIstreamFromBuffer data) empty.2
  rw [decoded] at one two
  exact ⟨one, two⟩

theorem str_short {n : Nat} (b : Buf (n + 1)) (last : b.bytes.getD n 0 = 0) : (b.str 0).length ≤ n := by
  refine Buf.str_length_le b 0 n ?_
  rw [Nat.zero_add]
  have inside : n < b.bytes.length := by rw [b.size]; omega
  rw [List.getD_eq_getElem?_getD, List.getElem?_eq_getElem inside, Option.getD_some] at last
  rw [List.getElem?_eq_getElem inside, last]

/-- A signed number of 32 bits has at most eleven characters. -/
theorem signedDecimal_short (i : Int32) : (signedDecimal i.toInt).length ≤ 11 := by
  have lo := i.le_toInt
  have hi := i.toInt_lt
  have sign : (ascii "-").length = 1 := by decide
  have short : (decimal i.toInt.natAbs).length ≤ 10 := (decimal_length_le (by decide)).mpr (by omega)
  unfold signedDecimal
  split
  · rw [List.length_append, sign]
    omega
  · omega

theorem exchangeMessage_length (details : ExchangeDetails) :
    (exchangeMessage details).length = exchangeMessageSize details := by
  simp only [exchangeMessage, exchangeMessageSize, List.length_append, List.length_singleton]
  omega

/-- The whole message is signed. -/
theorem exchangeSigned_eq {details : ExchangeDetails} (named : details.Named)
    (first : idSized (details.token1Id.str 0) = true) (second : idSized (details.token2Id.str 0) = true) :
    exchangeSigned details = exchangeMessage details := by
  have name := str_short details.token1Name named.1
  have name' := str_short details.token2Name named.2
  have number := signedDecimal_short details.exchangeId.toInt64.toInt32
  have length := exchangeMessage_length details
  simp only [idSized, decide_eq_true_eq] at first second
  have short : (exchangeMessage details).length ≤ 89 := by
    rw [length, exchangeMessageSize]
    omega
  have whole : (exchangeMessage details).take 89 = exchangeMessage details := List.take_of_length_le short
  have written : ((Buf.zero 90).strlcpy 0 (exchangeMessage details) 90).bytes =
      exchangeMessage details ++ ([0] ++ (Buf.zero 90).bytes.drop ((exchangeMessage details).length + 1)) := by
    have same : (Buf.zero 90).strlcpy 0 (exchangeMessage details) 90 =
        (Buf.zero 90).write 0 ((exchangeMessage details).take 89 ++ [0]) := rfl
    rw [same, whole, Buf.write_bytes _ _ _ (by simp; omega), List.take_zero, List.nil_append, List.append_assoc,
      List.length_append, List.length_singleton, Nat.zero_add]
  rw [exchangeSigned, written, Nat.mod_eq_of_lt (by omega), ← length]
  exact List.take_left' rfl

end Bounds

section Parsing

variable {σ κ : Type} (sdk : Sdk σ κ) {content : TxContent} {data : Bytes} {details : ExchangeDetails}

/-- The checks of an exchange before its tokens are applied. -/
def exchangeVerified (content : TxContent) (details : ExchangeDetails) : Bool :=
  content.exchangeID = details.exchangeId ∧ idSized (details.token1Id.str 0) ∧
    idSized (details.token2Id.str 0) ∧
      verifyExchangeID sdk (exchangeSigned details) details.signature.content

/-- The label of one token. -/
def TxContent.label (content : TxContent) (i : Fin 2) (name id : Bytes) (precision : UInt32) : TxContent :=
  content.setToken i (tokenLabel name id) precision.toUInt8

theorem setTokenInfo_eq (i : Fin 2) (name id : Bytes) (precision : UInt32) :
    setTokenInfo content i name id precision.toInt32 =
      if inRange precision then (true, content.label i name id precision) else (false, content) := by
  unfold setTokenInfo inRange TxContent.label
  by_cases out : precision.toInt32 < 0 ∨ 18 < precision.toInt32
  · rw [if_pos out, if_neg]
    simp only [decide_eq_true_eq, not_and_or, Int32.not_le]
    exact out
  · rw [if_neg out, if_pos]
    · rfl
    · simpa only [decide_eq_true_eq, not_or, Int32.not_lt] using out

/-- The tokens of a verified exchange are applied in the order of its metadata. -/
def applyExchange (content : TxContent) (details : ExchangeDetails) (firstToken secondToken : Fin 2) :
    Bool × TxContent :=
  if inRange details.token1Precision then
    let first := content.label firstToken (details.token1Name.str 0) (details.token1Id.str 0)
      details.token1Precision
    if inRange details.token2Precision then
      (true, first.label secondToken (details.token2Name.str 0) (details.token2Id.str 0)
        details.token2Precision)
    else (false, first)
  else (false, content)

/-- `parseExchange` on a payload that is decoded. -/
theorem parseExchange_eq (decoded : DecodesExchange data details) :
    parseExchange sdk data content =
      if exchangeVerified sdk content details then
        match exchangeSlots content details with
        | none => (false, content)
        | some (firstToken, secondToken) => applyExchange content details firstToken secondToken
      else (false, content) := by
  obtain ⟨rest, decoded⟩ := decoded
  have sized (id : Bytes) : (id.length ≠ 1 ∧ id.length ≠ 7) ↔ ¬idSized id = true := by
    simp [idSized, not_or]
  unfold parseExchange exchangeVerified
  rw [decoded]
  dsimp only
  simp only [sized]
  by_cases exchange : content.exchangeID = details.exchangeId
  · by_cases first : idSized (details.token1Id.str 0) = true
    · by_cases second : idSized (details.token2Id.str 0) = true
      · rw [if_neg (not_not.mpr exchange), if_neg (not_not.mpr first), if_neg (not_not.mpr second)]
        cases signed : verifyExchangeID sdk (exchangeSigned details) details.signature.content with
        | false =>
          simp only [exchangeSigned] at signed
          simp [signed]
        | true =>
          simp only [exchangeSigned] at signed
          simp only [signed, exchange, first, second, Bool.not_true, Bool.false_eq_true, if_false, and_self,
            decide_true, if_true, setTokenInfo_eq]
          change (match exchangeSlots content details with
            | none => _
            | some (firstToken, secondToken) => _) = _
          cases exchangeSlots content details with
          | none => rfl
          | some slots =>
            unfold applyExchange
            dsimp only
            by_cases low : inRange details.token1Precision = true
            · rw [if_pos low, if_pos low]
            · rw [if_neg low, if_neg low]
      · rw [if_neg (not_not.mpr exchange), if_neg (not_not.mpr first), if_pos second]
        simp [second]
    · rw [if_neg (not_not.mpr exchange), if_pos first]
      simp [first]
  · simp [exchange]

end Parsing

section Acceptance

variable {σ κ : Type} (sdk : Sdk σ κ) {content stored : TxContent} {parameter data : Bytes}
  {details : ExchangeDetails}

/-- Metadata of the exchange of `content`, in range and signed, with the token `id` on one side. -/
structure OwnMetadata (content : TxContent) (id : Bytes) (data : Bytes) (details : ExchangeDetails) :
    Prop where
  decoded : DecodesExchange data details
  exchange : content.exchangeID = details.exchangeId
  first : idSized (details.token1Id.str 0) = true
  second : idSized (details.token2Id.str 0) = true
  range : inRange details.token1Precision = true ∧ inRange details.token2Precision = true
  signed : verifyExchangeID sdk (exchangeMessage details) details.signature.content = true
  own : details.token1Id.str 0 = id ∨ details.token2Id.str 0 = id

/-- Slot `i` has the name and the precision of a token. -/
def Describes (content : TxContent) (i : Fin 2) (name id : Bytes) (precision : UInt32) : Prop :=
  content.tokenName i = tokenLabel name id ∧ content.decimals.get i = precision.toUInt8

/-- The metadata is accepted; slot 0 describes the token `id`, slot 1 the other one. -/
def AcceptedFor (id : Bytes) (details : ExchangeDetails) (result : Bool × TxContent) : Prop :=
  result.1 = true ∧
    if details.token1Id.str 0 = id then
      Describes result.2 0 (details.token1Name.str 0) (details.token1Id.str 0) details.token1Precision ∧
        Describes result.2 1 (details.token2Name.str 0) (details.token2Id.str 0) details.token2Precision
    else
      Describes result.2 0 (details.token2Name.str 0) (details.token2Id.str 0) details.token2Precision ∧
        Describes result.2 1 (details.token1Name.str 0) (details.token1Id.str 0) details.token1Precision

theorem tokenLabel_nonzero {name id : Bytes} (named : ∀ c ∈ name, c ≠ 0) (identified : ∀ c ∈ id, c ≠ 0) :
    ∀ c ∈ tokenLabel name id, c ≠ 0 := by
  have brackets : ∀ c ∈ ascii "[" ++ ascii "]", c ≠ 0 := by decide +kernel
  intro c among
  simp only [tokenLabel, List.mem_append] at among brackets
  rcases among with ((name | left) | id) | right
  · exact named c name
  · exact brackets c (.inl left)
  · exact identified c id
  · exact brackets c (.inr right)

/-- A label that fits describes its token. -/
theorem describes_label (content : TxContent) (i : Fin 2) {name id : Bytes} (precision : UInt32)
    (named : ∀ c ∈ name, c ≠ 0) (identified : ∀ c ∈ id, c ≠ 0) (short : name.length + id.length ≤ 64) :
    Describes (content.label i name id precision) i name id precision := by
  have one : (ascii "[").length = 1 ∧ (ascii "]").length = 1 := by decide
  have length : (tokenLabel name id).length ≤ 66 := by
    simp only [tokenLabel, List.length_append]
    omega
  have text := Buf.str_strlcpy_cut (content.tokenNames.get i) (tokenLabel name id) 66
    (tokenLabel_nonzero named identified) (by decide)
  rw [List.take_of_length_le length] at text
  exact ⟨(congrArg (fun b : Buf 67 => b.str 0) (Pair.get_set _ i _)).trans text, Pair.get_set _ i _⟩

/-- A label leaves the other slot. -/
theorem Describes.label {content : TxContent} {i j : Fin 2} {name id : Bytes} {precision : UInt32}
    (before : Describes content i name id precision) (other : i ≠ j) (name' id' : Bytes)
    (precision' : UInt32) : Describes (content.label j name' id' precision') i name id precision := by
  have kept : (content.label j name' id' precision').tokenName i = content.tokenName i :=
    congrArg (fun b : Buf 67 => b.str 0) (Pair.get_set_ne _ other _)
  exact ⟨kept.trans before.1, (Pair.get_set_ne _ other _).trans before.2⟩

theorem exchange_called {type : ContractType} {reader : ContractReader}
    (exchange : type = .exchangeInject ∨ type = .exchangeWithdraw ∨ type = .exchangeTransaction)
    (known : contractReader type = some reader)
    (read : reader content (pbIstreamFromBuffer parameter) = (true, stored)) :
    Called (stored.tokenName 0) 3 (recordsOf parameter) := by
  refine tokens_called known read (0, 3) ?_
  rcases exchange with rfl | rfl | rfl <;> simp [tokenFields]

/-- **An exchange accepts its own metadata exactly when its token is not TRX, and no earlier id has
left a byte behind it.** -/
theorem exchange_accepted_iff {type : ContractType} {reader : ContractReader}
    (exchange : type = .exchangeInject ∨ type = .exchangeWithdraw ∨ type = .exchangeTransaction)
    (known : contractReader type = some reader)
    (read : reader content (pbIstreamFromBuffer parameter) = (true, stored))
    (metadata : OwnMetadata sdk stored (bytesValue 3 (recordsOf parameter)) data details) :
    AcceptedFor (bytesValue 3 (recordsOf parameter)) details (parseExchange sdk data stored) ↔
      bytesValue 3 (recordsOf parameter) ≠ nativeId ∧ byteReached 3 7 (recordsOf parameter) = 0 := by
  have called := exchange_called exchange known read
  have named := exchangeDetails_named metadata.decoded
  have name := str_short details.token1Name named.1
  have name' := str_short details.token2Name named.2
  have size : (details.token1Id.str 0).length ≤ 7 := by
    have first := metadata.first
    simp only [idSized, decide_eq_true_eq] at first
    omega
  have size' : (details.token2Id.str 0).length ≤ 7 := by
    have second := metadata.second
    simp only [idSized, decide_eq_true_eq] at second
    omega
  have verified : exchangeVerified sdk stored details = true := by
    have signed := metadata.signed
    rw [← exchangeSigned_eq named metadata.first metadata.second] at signed
    simp [exchangeVerified, metadata.exchange, metadata.first, metadata.second, signed]
  have nonzero : ∀ c ∈ bytesValue 3 (recordsOf parameter), c ≠ 0 := by
    rcases metadata.own with own | own <;> rw [← own] <;> exact cstr_nonzero _
  rw [parseExchange_eq sdk metadata.decoded, if_pos verified]
  constructor
  · intro accepted
    have paired : idSized (stored.tokenName 0) = true := by
      cases slots : exchangeSlots stored details with
      | none =>
        rw [slots] at accepted
        exact absurd accepted.1 (by simp)
      | some pair =>
        unfold exchangeSlots at slots
        split_ifs at slots with same same
        · rw [same]
          exact metadata.first
        · rw [same]
          exact metadata.second
    simp only [idSized, decide_eq_true_eq] at paired
    have other : bytesValue 3 (recordsOf parameter) ≠ nativeId := by
      intro native
      rcases called with ⟨-, trx⟩ | ⟨seven, -⟩
      · rw [trx] at paired
        exact absurd paired (by decide)
      · rw [native] at seven
        exact absurd seven (by decide)
    exact ⟨other, called.short other nonzero (by omega)⟩
  · rintro ⟨other, zero⟩
    have own : stored.tokenName 0 = bytesValue 3 (recordsOf parameter) := by
      rw [called.iff.mpr (.inr ⟨nonzero, zero⟩), shownId, if_neg other]
    have first (content : TxContent) (i : Fin 2) := describes_label content i details.token1Precision
      (cstr_nonzero (details.token1Name.bytes.drop 0)) (cstr_nonzero (details.token1Id.bytes.drop 0))
      (show (details.token1Name.str 0).length + (details.token1Id.str 0).length ≤ 64 by omega)
    have second (content : TxContent) (i : Fin 2) := describes_label content i details.token2Precision
      (cstr_nonzero (details.token2Name.bytes.drop 0)) (cstr_nonzero (details.token2Id.bytes.drop 0))
      (show (details.token2Name.str 0).length + (details.token2Id.str 0).length ≤ 64 by omega)
    by_cases same : details.token1Id.str 0 = bytesValue 3 (recordsOf parameter)
    · have slots : exchangeSlots stored details = some (0, 1) := if_pos (own.trans same.symm)
      simp only [slots, applyExchange, metadata.range.1, metadata.range.2, if_true, AcceptedFor, if_pos same]
      exact ⟨trivial, (first _ 0).label (by decide) _ _ _, second _ 1⟩
    · have listed := metadata.own.resolve_left same
      have slots : exchangeSlots stored details = some (1, 0) := by
        unfold exchangeSlots
        rw [if_neg fun equal => same (equal.symm.trans own), if_pos (own.trans listed.symm)]
      simp only [slots, applyExchange, metadata.range.1, metadata.range.2, if_true, AcceptedFor, if_neg same]
      exact ⟨trivial, second _ 0, (first _ 1).label (by decide) _ _ _⟩

end Acceptance

/-- A deposit of one unit of the token `id` in exchange 1. -/
def deposit (id : Bytes) : Bytes :=
  delimitedField 1 (sampleAccount 1) ++ [0x10, 1] ++ delimitedField 3 id ++ [0x20, 1]

/-- Metadata of an exchange of the token "1000001" against TRX, with the precision of the latter. -/
def pairDetails (precision : Bytes) : Bytes :=
  [0x08, 1] ++ delimitedField 2 (ascii "1000001") ++ delimitedField 3 (ascii "Coin") ++ [0x20, 2] ++
    delimitedField 5 nativeId ++ delimitedField 6 (ascii "TRX") ++ 0x38 :: precision ++
    delimitedField 8 [1]

/-- The metadata of a payload. -/
def exchangeDetails (data : Bytes) : ExchangeDetails :=
  (pbDecode ExchangeDetails.fields (pbIstreamFromBuffer data) default).2

theorem decodesExchange (data : Bytes)
    (accepted : (pbDecode ExchangeDetails.fields (pbIstreamFromBuffer data) default).1.isSome = true) :
    DecodesExchange data (exchangeDetails data) := by
  obtain ⟨rest, found⟩ := Option.isSome_iff_exists.mp accepted
  exact ⟨rest, Prod.ext found rfl⟩

/-- A deposit of "1000001" takes its metadata. -/
theorem exchange_accepted_iff_token : ∃ stored,
    exchangeInjectContract .empty (pbIstreamFromBuffer (deposit (ascii "1000001"))) = (true, stored) ∧
    (AcceptedFor (bytesValue 3 (recordsOf (deposit (ascii "1000001")))) (exchangeDetails (pairDetails [6]))
        (parseExchange device (pairDetails [6]) stored) ↔
      bytesValue 3 (recordsOf (deposit (ascii "1000001"))) ≠ nativeId ∧
        byteReached 3 7 (recordsOf (deposit (ascii "1000001"))) = 0) := by
  have accepted : (exchangeInjectContract .empty
      (pbIstreamFromBuffer (deposit (ascii "1000001")))).1 = true := by decide +kernel
  refine ⟨_, Prod.ext accepted rfl, ?_⟩
  refine exchange_accepted_iff device (.inl rfl) rfl (Prod.ext accepted rfl) ?_
  exact ⟨decodesExchange _ (by decide +kernel), by decide +kernel, by decide +kernel, by decide +kernel,
    by decide +kernel, rfl, by decide +kernel⟩

/-- A deposit of TRX refuses it. -/
theorem native_exchange_refused : ∃ stored,
    exchangeInjectContract .empty (pbIstreamFromBuffer (deposit nativeId)) = (true, stored) ∧
    OwnMetadata device stored (bytesValue 3 (recordsOf (deposit nativeId))) (pairDetails [6])
      (exchangeDetails (pairDetails [6])) ∧
    (parseExchange device (pairDetails [6]) stored).1 = false := by
  have accepted : (exchangeInjectContract .empty
      (pbIstreamFromBuffer (deposit nativeId))).1 = true := by decide +kernel
  refine ⟨_, Prod.ext accepted rfl, ?_, by decide +kernel⟩
  exact ⟨decodesExchange _ (by decide +kernel), by decide +kernel, by decide +kernel, by decide +kernel,
    by decide +kernel, rfl, by decide +kernel⟩

section Signed

/-- Metadata that passes the checks of its lengths and precisions. -/
structure ExchangeAdmitted (data : Bytes) (details : ExchangeDetails) : Prop where
  decoded : DecodesExchange data details
  first : idSized (details.token1Id.str 0) = true
  second : idSized (details.token2Id.str 0) = true
  range : inRange details.token1Precision = true ∧ inRange details.token2Precision = true

structure TokenAdmitted (data : Bytes) (details : TokenDetails) : Prop where
  decoded : DecodesToken data details
  range : details.precision ≤ 18

/-- What the app uses of an exchange. -/
structure UsedExchange where
  exchangeId : UInt64
  token1Id : Bytes
  token1Name : Bytes
  token1Precision : UInt32
  token2Id : Bytes
  token2Name : Bytes
  token2Precision : UInt32

def ExchangeDetails.used (details : ExchangeDetails) : UsedExchange where
  exchangeId := details.exchangeId
  token1Id := details.token1Id.str 0
  token1Name := details.token1Name.str 0
  token1Precision := details.token1Precision
  token2Id := details.token2Id.str 0
  token2Name := details.token2Name.str 0
  token2Precision := details.token2Precision

/-- The exchange id as it is signed, cut to 32 bits. -/
def ExchangeDetails.printedId (details : ExchangeDetails) : Bytes :=
  signedDecimal details.exchangeId.toInt64.toInt32.toInt

/-- The parts of both messages have the same lengths, and the ids the same bits that are cut. -/
structure SameLayout (a b : ExchangeDetails) : Prop where
  high : a.exchangeId.toNat / 2 ^ 32 = b.exchangeId.toNat / 2 ^ 32
  number : a.printedId.length = b.printedId.length
  first : (a.token1Id.str 0).length = (b.token1Id.str 0).length
  name : (a.token1Name.str 0).length = (b.token1Name.str 0).length
  second : (a.token2Id.str 0).length = (b.token2Id.str 0).length

/-- The bytes whose signature `parseTokenName` checks for the token `id`. -/
def tokenSigned (id : Bytes) (details : TokenDetails) : Bytes :=
  id ++ details.name.str 0 ++ [details.precision.toUInt8]

/-- A precision in range is its low byte. -/
theorem precision_inj {p q : UInt32} (few : p ≤ 18) (few' : q ≤ 18) (same : p.toUInt8 = q.toUInt8) : p = q := by
  have low := congrArg UInt8.toNat same
  rw [UInt32.toNat_toUInt8, UInt32.toNat_toUInt8] at low
  rw [UInt32.le_iff_toNat_le] at few few'
  have eighteen : (18 : UInt32).toNat = 18 := rfl
  exact UInt32.toNat_inj.mp (by omega)

theorem few_of_inRange {p : UInt32} (range : inRange p = true) : p ≤ 18 := by
  simp only [inRange, decide_eq_true_eq, Int32.le_iff_toInt_le] at range
  have value : p.toInt32.toInt = if 2 * p.toNat < 2 ^ 32 then (p.toNat : Int) else (p.toNat : Int) - 2 ^ 32 :=
    BitVec.toInt_eq_toNat_cond p.toBitVec
  have zero : (0 : Int32).toInt = 0 ∧ (18 : Int32).toInt = 18 ∧ (18 : UInt32).toNat = 18 := by decide
  have below := p.toNat_lt
  rw [UInt32.le_iff_toNat_le]
  split at value <;> omega

/-- An exchange id is its printed number and the bits above it. -/
theorem exchangeId_inj {a b : UInt64} (high : a.toNat / 2 ^ 32 = b.toNat / 2 ^ 32)
    (printed : a.toInt64.toInt32.toInt = b.toInt64.toInt32.toInt) : a = b := by
  have low {x : UInt64} : (x.toInt64.toInt32.toInt : Int) % 2 ^ 32 = x.toNat % 2 ^ 32 := by
    have value : x.toInt64.toInt = if 2 * x.toNat < 2 ^ 64 then (x.toNat : Int) else (x.toNat : Int) - 2 ^ 64 :=
      BitVec.toInt_eq_toNat_cond x.toBitVec
    have cut : Int.bmod x.toInt64.toInt (2 ^ 32) % 2 ^ 32 = x.toInt64.toInt % 2 ^ 32 := Int.bmod_emod
    rw [← Int64.toInt_toInt32] at cut
    split at value <;> omega
  have same : (a.toNat % 2 ^ 32 : Int) = b.toNat % 2 ^ 32 := by rw [← low, ← low, printed]
  exact UInt64.toNat_inj.mp (by omega)

/-- Equal messages with parts of equal lengths have equal parts. -/
theorem SameLayout.used {a b : ExchangeDetails} (layout : SameLayout a b) {data data' : Bytes}
    (admitted : ExchangeAdmitted data a) (admitted' : ExchangeAdmitted data' b)
    (same : exchangeMessage a = exchangeMessage b) : a.used = b.used := by
  have number := layout.number
  unfold ExchangeDetails.printedId at number
  simp only [exchangeMessage, List.append_assoc] at same
  obtain ⟨id, same⟩ := List.append_inj same number
  obtain ⟨first, same⟩ := List.append_inj same layout.first
  obtain ⟨name, same⟩ := List.append_inj same layout.name
  obtain ⟨precision, same⟩ := List.append_inj same rfl
  obtain ⟨second, same⟩ := List.append_inj same layout.second
  obtain ⟨name', precision'⟩ := List.append_inj' same rfl
  have few := precision_inj (few_of_inRange admitted.range.1) (few_of_inRange admitted'.range.1)
    (List.singleton_inj.mp precision)
  have few' := precision_inj (few_of_inRange admitted.range.2) (few_of_inRange admitted'.range.2)
    (List.singleton_inj.mp precision')
  simp only [ExchangeDetails.used, exchangeId_inj layout.high (signedDecimal_inj id), first, name, few, second,
    name', few']

theorem sameLayout_of_used {a b : ExchangeDetails} (same : a.used = b.used) : SameLayout a b := by
  simp only [ExchangeDetails.used, UsedExchange.mk.injEq] at same
  obtain ⟨id, first, name, -, second, -⟩ := same
  exact ⟨by rw [id], by rw [ExchangeDetails.printedId, id]; rfl, by rw [first], by rw [name], by rw [second]⟩

/-- **What is signed says what is used, where it says how long the parts are.** -/
theorem metadata_bound_iff :
    (∀ data data' a b, ExchangeAdmitted data a → ExchangeAdmitted data' b →
      exchangeSigned a = exchangeSigned b → (a.used = b.used ↔ SameLayout a b)) ∧
    ∀ data data' a b id id', TokenAdmitted data a → TokenAdmitted data' b →
      tokenSigned id a = tokenSigned id' b →
        ((id = id' ∧ a.name.str 0 = b.name.str 0 ∧ a.precision = b.precision) ↔ id.length = id'.length) := by
  constructor
  · intro data data' a b admitted admitted' same
    rw [exchangeSigned_eq (exchangeDetails_named admitted.decoded) admitted.first admitted.second,
      exchangeSigned_eq (exchangeDetails_named admitted'.decoded) admitted'.first admitted'.second] at same
    exact ⟨sameLayout_of_used, fun layout => layout.used admitted admitted' same⟩
  · intro data data' a b id id' admitted admitted' same
    constructor
    · rintro ⟨rfl, -⟩
      rfl
    · intro length
      simp only [tokenSigned, List.append_assoc] at same
      obtain ⟨ids, same⟩ := List.append_inj same length
      obtain ⟨names, precisions⟩ := List.append_inj' same rfl
      exact ⟨ids, names, precision_inj admitted.range admitted'.range (List.singleton_inj.mp precisions)⟩

end Signed

/-- Metadata of an exchange of `first` against TRX, both with six decimals. -/
def trxPair (exchangeId : UInt8) (first name : Bytes) : Bytes :=
  [0x08, exchangeId] ++ delimitedField 2 first ++ delimitedField 3 name ++ [0x20, 6] ++
    delimitedField 5 nativeId ++ delimitedField 6 (ascii "TRX") ++ [0x38, 6] ++ delimitedField 8 [1]

/-- Metadata of a TRC10 token with six decimals. -/
def tokenDetails (name : Bytes) : Bytes := delimitedField 1 name ++ [0x10, 6] ++ delimitedField 3 [1]

/-- The metadata of a payload. -/
def decodedToken (data : Bytes) : TokenDetails :=
  (pbDecode TokenDetails.fields (pbIstreamFromBuffer data) default).2

theorem exchangeAdmitted (data : Bytes)
    (decoded : (pbDecode ExchangeDetails.fields (pbIstreamFromBuffer data) default).1.isSome = true)
    (sized : idSized ((exchangeDetails data).token1Id.str 0) = true ∧
      idSized ((exchangeDetails data).token2Id.str 0) = true)
    (range : inRange (exchangeDetails data).token1Precision = true ∧
      inRange (exchangeDetails data).token2Precision = true) : ExchangeAdmitted data (exchangeDetails data) :=
  ⟨decodesExchange data decoded, sized.1, sized.2, range⟩

/-- What an equal message says about exchange 1 and exchange 11, and about two tokens, whose ids are cut elsewhere. -/
theorem metadata_bound_iff_pair : ∃ one eleven short long,
    one = exchangeDetails (trxPair 1 (ascii "1000001") (ascii "AB")) ∧
    eleven = exchangeDetails (trxPair 11 (ascii "000001A") (ascii "B")) ∧
    short = decodedToken (tokenDetails (ascii "1234Coin")) ∧ long = decodedToken (tokenDetails (ascii "Coin")) ∧
    (one.used = eleven.used ↔ SameLayout one eleven) ∧
    ((ascii "TRX" = ascii "TRX1234" ∧ short.name.str 0 = long.name.str 0 ∧ short.precision = long.precision) ↔
      (ascii "TRX").length = (ascii "TRX1234").length) := by
  refine ⟨_, _, _, _, rfl, rfl, rfl, rfl, ?_, ?_⟩
  · refine metadata_bound_iff.1 _ _ _ _ (exchangeAdmitted (trxPair 1 (ascii "1000001") (ascii "AB")) ?_ ?_ ?_)
      (exchangeAdmitted (trxPair 11 (ascii "000001A") (ascii "B")) ?_ ?_ ?_) ?_
    all_goals decide +kernel
  · refine metadata_bound_iff.2 (tokenDetails (ascii "1234Coin")) (tokenDetails (ascii "Coin")) _ _ _ _
      ⟨⟨_, Prod.ext (Option.some_get ?_).symm rfl⟩, ?_⟩ ⟨⟨_, Prod.ext (Option.some_get ?_).symm rfl⟩, ?_⟩ ?_
    all_goals decide +kernel

/-- Exchange 1 of "1000001" and exchange 11 of "000001A" share a message, and so do two tokens. -/
theorem metadata_message_shared : ∃ one eleven short long,
    one = trxPair 1 (ascii "1000001") (ascii "AB") ∧ eleven = trxPair 11 (ascii "000001A") (ascii "B") ∧
    short = tokenDetails (ascii "1234Coin") ∧ long = tokenDetails (ascii "Coin") ∧
    ExchangeAdmitted one (exchangeDetails one) ∧ ExchangeAdmitted eleven (exchangeDetails eleven) ∧
    exchangeSigned (exchangeDetails one) = exchangeSigned (exchangeDetails eleven) ∧
    (exchangeDetails one).exchangeId = 1 ∧ (exchangeDetails eleven).exchangeId = 11 ∧
    TokenAdmitted short (decodedToken short) ∧ TokenAdmitted long (decodedToken long) ∧
    tokenSigned (ascii "TRX") (decodedToken short) = tokenSigned (ascii "TRX1234") (decodedToken long) := by
  refine ⟨_, _, _, _, rfl, rfl, rfl, rfl, exchangeAdmitted _ ?_ ?_ ?_, exchangeAdmitted _ ?_ ?_ ?_, ?_, ?_, ?_,
    ⟨⟨_, Prod.ext (Option.some_get ?_).symm rfl⟩, ?_⟩, ⟨⟨_, Prod.ext (Option.some_get ?_).symm rfl⟩, ?_⟩, ?_⟩
  all_goals decide +kernel

section Atomic

variable {σ κ : Type} (sdk : Sdk σ κ) {content : TxContent} {data : Bytes} {details : ExchangeDetails}

/-- The other slot is left as it was. -/
def KeepsSlot (i : Fin 2) (a b : TxContent) : Prop :=
  b.tokenNames.get i = a.tokenNames.get i ∧ b.tokenNamesLength.get i = a.tokenNamesLength.get i ∧
    b.decimals.get i = a.decimals.get i

/-- Slot `i` has the label of a token, cut to its buffer, the length of the label and the precision. -/
structure Labelled (content : TxContent) (i : Fin 2) (name id : Bytes) (precision : UInt32) : Prop where
  name : content.tokenName i = (tokenLabel name id).take 66
  length : (content.tokenNamesLength.get i).toNat = (content.tokenName i).length
  decimals : (content.decimals.get i).toNat = precision.toNat

/-- The token of slot `i` is labelled as the payload says, and nothing else is changed. -/
def TokenApplied (i : Fin 2) (data : Bytes) (before after : TxContent) : Prop :=
  MetadataChange before after ∧ (∀ j, j ≠ i → KeepsSlot j before after) ∧ ∃ details, DecodesToken data details ∧
    Labelled after i (details.name.str 0) (before.tokenName i) details.precision

/-- Both tokens of an exchange are labelled as the payload says, and nothing else is changed. -/
def ExchangeApplied (data : Bytes) (before after : TxContent) : Prop :=
  MetadataChange before after ∧ ∃ details firstToken secondToken, DecodesExchange data details ∧
    exchangeSlots before details = some (firstToken, secondToken) ∧ firstToken ≠ secondToken ∧
    Labelled after firstToken (details.token1Name.str 0) (details.token1Id.str 0) details.token1Precision ∧
    Labelled after secondToken (details.token2Name.str 0) (details.token2Id.str 0) details.token2Precision

/-- What a payload says is applied, or nothing changes. -/
def Atomic (applied : TxContent → TxContent → Prop) (content : TxContent) (result : Bool × TxContent) : Prop :=
  if result.1 then applied content result.2 else result.2 = content

/-- A verified exchange whose first token is applied, with a precision of the second out of range. -/
structure HalfApplied (content : TxContent) (data : Bytes) (details : ExchangeDetails) : Prop where
  decoded : DecodesExchange data details
  verified : exchangeVerified sdk content details = true
  range : inRange details.token1Precision = true ∧ inRange details.token2Precision = false
  slots : ∃ firstToken secondToken, exchangeSlots content details = some (firstToken, secondToken) ∧
    content.label firstToken (details.token1Name.str 0) (details.token1Id.str 0) details.token1Precision ≠ content

theorem label_change (content : TxContent) (i : Fin 2) (name id : Bytes) (precision : UInt32) :
    MetadataChange content (content.label i name id precision) := rfl

theorem label_keeps (content : TxContent) {i j : Fin 2} (other : j ≠ i) (name id : Bytes) (precision : UInt32) :
    KeepsSlot j content (content.label i name id precision) :=
  ⟨Pair.get_set_ne _ other _, Pair.get_set_ne _ other _, Pair.get_set_ne _ other _⟩

/-- A precision in range is labelled as it is. -/
theorem labelled_label (content : TxContent) (i : Fin 2) {name id : Bytes} {precision : UInt32}
    (named : ∀ c ∈ name, c ≠ 0) (identified : ∀ c ∈ id, c ≠ 0) (few : precision ≤ 18) :
    Labelled (content.label i name id precision) i name id precision := by
  have text := Buf.str_strlcpy_cut (content.tokenNames.get i) (tokenLabel name id) 66
    (tokenLabel_nonzero named identified) (by decide)
  have name_eq : (content.label i name id precision).tokenName i = (tokenLabel name id).take 66 :=
    (congrArg (fun b : Buf 67 => b.str 0) (Pair.get_set _ i _)).trans text
  have size : ((tokenLabel name id).take 66).length ≤ 66 := List.length_take_le _ _
  have length : (content.label i name id precision).tokenNamesLength.get i =
      UInt8.ofNat (((content.tokenNames.get i).strlcpy 0 (tokenLabel name id) 67).str 0).length := Pair.get_set _ i _
  have decimals : (content.label i name id precision).decimals.get i = precision.toUInt8 := Pair.get_set _ i _
  constructor
  · exact name_eq
  · rw [length, name_eq, text, UInt8.toNat_ofNat', Nat.mod_eq_of_lt (by omega)]
  · have eighteen : (18 : UInt32).toNat = 18 := rfl
    rw [UInt32.le_iff_toNat_le, eighteen] at few
    rw [decimals, UInt32.toNat_toUInt8, Nat.mod_eq_of_lt (by omega)]

/-- What is labelled stays so where the other slot is. -/
theorem Labelled.keeps {before after : TxContent} {i : Fin 2} {name id : Bytes} {precision : UInt32}
    (labelled : Labelled before i name id precision) (kept : KeepsSlot i before after) :
    Labelled after i name id precision := by
  obtain ⟨names, lengths, decimals⟩ := kept
  have text : after.tokenName i = before.tokenName i := congrArg (fun b : Buf 67 => b.str 0) names
  constructor
  · rw [text, labelled.name]
  · rw [lengths, text, labelled.length]
  · rw [decimals, labelled.decimals]

theorem exchangeSlots_ne {firstToken secondToken : Fin 2}
    (slots : exchangeSlots content details = some (firstToken, secondToken)) : firstToken ≠ secondToken := by
  unfold exchangeSlots at slots
  split_ifs at slots
  all_goals
    obtain ⟨rfl, rfl⟩ := Prod.mk.inj (Option.some.inj slots)
    decide

/-- Both labels of an exchange are those of its metadata. -/
theorem labels_applied (decoded : DecodesExchange data details) {firstToken secondToken : Fin 2}
    (slots : exchangeSlots content details = some (firstToken, secondToken))
    (first : inRange details.token1Precision = true) (second : inRange details.token2Precision = true) :
    ExchangeApplied data content
      ((content.label firstToken (details.token1Name.str 0) (details.token1Id.str 0) details.token1Precision).label
        secondToken (details.token2Name.str 0) (details.token2Id.str 0) details.token2Precision) := by
  have apart := exchangeSlots_ne slots
  refine ⟨(label_change _ _ _ _ _).trans (label_change _ _ _ _ _), details, firstToken, secondToken, decoded, slots,
    apart, ?_, ?_⟩
  · have labelled := labelled_label content firstToken (cstr_nonzero (details.token1Name.bytes.drop 0))
      (cstr_nonzero (details.token1Id.bytes.drop 0)) (few_of_inRange first)
    exact labelled.keeps (label_keeps _ apart _ _ _)
  · exact labelled_label _ secondToken (cstr_nonzero (details.token2Name.bytes.drop 0))
      (cstr_nonzero (details.token2Id.bytes.drop 0)) (few_of_inRange second)

/-- Without a label of the first token alone, a refused exchange changes nothing. -/
theorem applyExchange_atomic (decoded : DecodesExchange data details) {firstToken secondToken : Fin 2}
    (slots : exchangeSlots content details = some (firstToken, secondToken)) :
    Atomic (ExchangeApplied data) content (applyExchange content details firstToken secondToken) ↔
      ¬(inRange details.token1Precision = true ∧ inRange details.token2Precision = false ∧
        content.label firstToken (details.token1Name.str 0) (details.token1Id.str 0)
          details.token1Precision ≠ content) := by
  unfold applyExchange
  by_cases first : inRange details.token1Precision = true
  · by_cases second : inRange details.token2Precision = true
    · simp only [first, second, if_true, Atomic, Bool.true_eq_false, false_and, and_false, not_false_iff, iff_true]
      exact labels_applied decoded slots first second
    · simp only [first, Bool.not_eq_true] at second ⊢
      simp only [second, if_true, Atomic, Bool.false_eq_true, if_false, true_and, not_not]
  · simp only [Bool.not_eq_true] at first
    simp [first, Atomic]

/-- A token is applied or refused as a whole. -/
theorem parseTokenName_atomic (i : Fin 2) (data : Bytes) (content : TxContent) :
    Atomic (TokenApplied i data) content (parseTokenName sdk i data content) := by
  unfold parseTokenName
  split
  · simp [Atomic]
  · rename_i rest details decoded
    dsimp only
    split_ifs with refused large
    · simp [Atomic]
    · simp [Atomic]
    · have few : details.precision ≤ 18 := UInt32.not_lt.mp large
      simp only [Atomic, if_true]
      refine ⟨rfl, fun j other => label_keeps content other _ _ details.precision, details, ⟨_, decoded⟩, ?_⟩
      exact labelled_label content i (cstr_nonzero (details.name.bytes.drop 0)) (cstr_nonzero _) few

/-- **A token is applied or refused as a whole; an exchange is, unless its first token is applied
before the second is out of range.** -/
theorem metadata_atomic_iff (content : TxContent) (data : Bytes) :
    (∀ i, Atomic (TokenApplied i data) content (parseTokenName sdk i data content)) ∧
    (Atomic (ExchangeApplied data) content (parseExchange sdk data content) ↔
      ¬∃ details, HalfApplied sdk content data details) := by
  refine ⟨fun i => parseTokenName_atomic sdk i data content, ?_⟩
  cases found : pbDecode ExchangeDetails.fields (pbIstreamFromBuffer data) default with
  | mk rest details =>
    have unique {other : ExchangeDetails} (decoded : DecodesExchange data other) : other = details := by
      obtain ⟨rest', decoded⟩ := decoded
      rw [found] at decoded
      exact (Prod.mk.inj decoded).2.symm
    cases rest with
    | none =>
      have refused : parseExchange sdk data content = (false, content) := by
        unfold parseExchange
        rw [found]
      rw [refused]
      refine ⟨fun _ ⟨other, half⟩ => ?_, fun _ => by simp [Atomic]⟩
      obtain ⟨rest', decoded⟩ := half.decoded
      rw [found] at decoded
      simp at decoded
    | some rest =>
      have decoded : DecodesExchange data details := ⟨rest, found⟩
      have half : (∃ other, HalfApplied sdk content data other) ↔ HalfApplied sdk content data details := by
        constructor
        · rintro ⟨other, half⟩
          rwa [unique half.decoded] at half
        · exact fun half => ⟨details, half⟩
      rw [half, parseExchange_eq sdk decoded]
      by_cases verified : exchangeVerified sdk content details = true
      · rw [if_pos verified]
        cases slots : exchangeSlots content details with
        | none =>
          refine ⟨fun _ half => ?_, fun _ => by simp [Atomic]⟩
          obtain ⟨_, _, some, -⟩ := half.slots
          rw [slots] at some
          simp at some
        | some pair =>
          obtain ⟨firstToken, secondToken⟩ := pair
          rw [applyExchange_atomic decoded slots]
          refine not_congr ⟨fun ⟨first, second, changes⟩ => ?_, fun half => ?_⟩
          · exact ⟨decoded, verified, ⟨first, second⟩, _, _, slots, changes⟩
          · obtain ⟨_, _, same, changes⟩ := half.slots
            rw [slots] at same
            obtain ⟨rfl, rfl⟩ := Prod.mk.inj (Option.some.inj same)
            exact ⟨half.range.1, half.range.2, changes⟩
      · rw [if_neg verified]
        exact ⟨fun _ half => verified half.verified, fun _ => by simp [Atomic]⟩

end Atomic

/-- A deposit whose metadata gives TRX 262 decimals, signed as six, is refused and renamed. -/
theorem exchange_half_applied : ∃ content,
    content = (exchangeInjectContract .empty (pbIstreamFromBuffer (deposit (ascii "1000001")))).2 ∧
    content.tokenName 0 = ascii "1000001" ∧
    (parseExchange device (pairDetails [0x86, 2]) content).1 = false ∧
    (parseExchange device (pairDetails [0x86, 2]) content).2.tokenName 0 = ascii "Coin[1000001]" ∧
    exchangeSigned (exchangeDetails (pairDetails [0x86, 2])) = exchangeSigned (exchangeDetails (pairDetails [6])) := by
  refine ⟨_, rfl, ?_⟩
  decide +kernel

end TronLedger
