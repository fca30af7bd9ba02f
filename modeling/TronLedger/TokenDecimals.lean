import TronLedger.ProcessSteps
import TronLedger.SignSteps
import TronLedger.Nanopb.LastWins

/-!
# The decimals of a transaction's tokens

Only a call of a known TRC20 contract sets decimals while it is read; those of other tokens come
from metadata, and are zero until then.
-/

namespace TronLedger

open Nanopb

/-- Where the decimals of `b`, which a chunk makes of `a`, come from. -/
def DecimalsFrom (a b : TxContent) : Prop :=
  b.decimals = a.decimals ∨
    (b.contractType = .triggerSmart ∧ b.decimals.first ≤ 18 ∧ b.decimals.second = a.decimals.second)

theorem DecimalsFrom.bounded {a b : TxContent} (kept : DecimalsFrom a b) (before : a.DecimalsBounded) :
    b.DecimalsBounded := by
  rcases kept with same | ⟨-, first, second⟩
  · unfold TxContent.DecimalsBounded
    rw [same]
    exact before
  · exact ⟨first, by rw [second]; exact before.2⟩

theorem DecimalsFrom.kept {a b : TxContent} (kept : DecimalsFrom a b)
    (plain : b.contractType ≠ .triggerSmart) : b.decimals = a.decimals :=
  kept.resolve_right fun known => plain known.1

/-- The tokens of the table have at most 18 decimals. -/
theorem tokensTRC20_decimals : ∀ token ∈ tokensTRC20, token.decimals ≤ 18 := by decide +kernel

theorem getKnownToken_decimals {address : Address} {token : TokenDefinition}
    (known : getKnownToken address = some token) : token.decimals ≤ 18 :=
  tokensTRC20_decimals token (List.mem_of_find?_eq_some known)

section Readers

variable {content content' : TxContent} {msg msg' : Msg}

/-- The reader leaves the decimals. -/
def ContractReader.KeepsDecimals (read : ContractReader) : Prop :=
  ∀ content stream, (read content stream).2.decimals = content.decimals

theorem readContract_decimals {m : Type} [Inhabited m] {fields : Descriptor m}
    {store : m → TxContent → Bool × TxContent}
    (same : ∀ msg content, (store msg content).2.decimals = content.decimals) :
    ContractReader.KeepsDecimals (readContract fields store) := by
  intro content stream
  simp only [readContract]
  cases pbDecode fields stream default with
  | mk rest msg =>
    cases rest with
    | none => rfl
    | some rest => exact same msg content

theorem printTokenFromID_decimals (content : TxContent) (i : Fin 2) (data : Bytes) (size : Nat) :
    (printTokenFromID content i data size).2.decimals = content.decimals := by
  unfold printTokenFromID
  split_ifs <;> rfl

theorem storeExchange_decimals (msg : ExchangeInjectContract) (content : TxContent) :
    (storeExchange msg content).2.decimals = content.decimals := by
  have printed := printTokenFromID_decimals
    { content with account := msg.ownerAddress, exchangeID := msg.exchangeId.toUInt64 } 0
    msg.tokenIdMemory msg.tokenId.size
  unfold storeExchange
  dsimp only
  split <;> rename_i named <;> rw [named] at printed <;> exact printed

/-- Every reader of the table but that of calls. -/
theorem contractReader_decimals {type : ContractType} {read : ContractReader}
    (known : contractReader type = some read) (plain : type ≠ .triggerSmart) : read.KeepsDecimals := by
  unfold contractReader at known
  split at known <;> simp only [Option.some.injEq, reduceCtorEq] at known <;> subst known
  case h_2 =>
    refine readContract_decimals fun msg content => ?_
    have printed := printTokenFromID_decimals
      { content with amount := content.amount.set 0 msg.amount.toUInt64 } 0 msg.assetNameMemory
      msg.assetName.size
    dsimp only
    split <;> rename_i named <;> rw [named] at printed <;> exact printed
  case h_3 | h_4 =>
    refine readContract_decimals fun msg content => ?_
    split <;> rfl
  case h_16 => exact absurd rfl plain
  case h_17 =>
    refine readContract_decimals fun msg content => ?_
    have first := printTokenFromID_decimals { content with account := msg.ownerAddress } 0
      msg.firstTokenIdMemory msg.firstTokenId.size
    dsimp only
    split <;> rename_i named <;> rw [named] at first
    · exact first
    have second := printTokenFromID_decimals (TxContent.measureToken ‹_› 0) 1 msg.secondTokenIdMemory
      msg.secondTokenId.size
    split <;> rename_i named' <;> rw [named'] at second <;> exact second.trans first
  case h_18 | h_19 => exact readContract_decimals storeExchange_decimals
  case h_20 =>
    refine readContract_decimals fun msg content => ?_
    have printed := printTokenFromID_decimals
      { content with account := msg.ownerAddress, exchangeID := msg.exchangeId.toUInt64 } 0
      msg.tokenIdMemory msg.tokenId.size
    dsimp only
    split <;> rename_i named <;> rw [named] at printed <;> exact printed
  all_goals exact readContract_decimals fun _ _ => rfl

theorem triggerSmartContract_data_decimals (stream : Istream) (content : TxContent) :
    (pbDecodeTriggerSmartContractData stream content).2.decimals = content.decimals := by
  unfold pbDecodeTriggerSmartContractData
  split
  · rfl
  · dsimp only
    split_ifs <;> rfl

/-- A call of a known token takes its decimals from the table. -/
theorem triggerSmartContract_decimals (content : TxContent) (stream : Istream) :
    (triggerSmartContract content stream).2.decimals = content.decimals ∨
      ((triggerSmartContract content stream).2.decimals.first ≤ 18 ∧
        (triggerSmartContract content stream).2.decimals.second = content.decimals.second) := by
  have fields : ∀ number field,
      TriggerSmartContract.fields pbDecodeTriggerSmartContractData number = some field →
        field.Keeps fun dest => dest.2.decimals :=
    Descriptor.forall_table (by simp [triggerSmartContract_data_decimals])
  have kept := pbDecode_keeps fields stream (default, content)
  unfold triggerSmartContract
  dsimp only at kept
  split <;> rename_i decoded <;> rw [decoded] at kept
  · exact .inl kept
  dsimp only
  split
  · exact .inl kept
  · rename_i known
    have second := congrArg Pair.second kept
    exact .inr ⟨getKnownToken_decimals known, second⟩

theorem readByType_decimals {code : UInt32} (typed : content.contractType = ContractType.ofCode code)
    (stream : Istream) (msg : Msg) : DecimalsFrom content (readByType code content stream msg).2.1 := by
  have type := readByType_contractType code content stream msg
  by_cases call : ContractType.ofCode code = .triggerSmart
  · have same : readByType code content stream msg =
        ((triggerSmartContract content stream).1, (triggerSmartContract content stream).2, msg) := by
      unfold readByType
      rw [if_neg (by simp [call]), call]
      rfl
    rw [same] at type ⊢
    exact (triggerSmartContract_decimals content stream).imp id fun few =>
      ⟨type.trans (typed.trans call), few⟩
  · left
    unfold readByType
    split
    · split <;> rfl
    · split
      · rfl
      · rename_i known
        exact contractReader_decimals known call content stream

theorem processContract_decimals (raw : TransactionRaw) (content : TxContent) (msg : Msg) :
    DecimalsFrom content (processContract raw content msg).2.1 := by
  unfold processContract
  split
  · split
    · exact .inl rfl
    dsimp only
    split
    · exact .inl rfl
    rename_i stream _
    split
    · exact .inl rfl
    split
    · exact .inl rfl
    have typed : (content.typed raw.contract).contractType = ContractType.ofCode raw.contract.type := rfl
    have read := readByType_decimals typed (pbIstreamFromBuffer stream.data) msg
    unfold TxContent.typed at read
    split <;> rename_i stored <;> rw [stored] at read <;> exact read
  · exact .inl rfl

/-- **Where the decimals behind an accepted chunk come from.** -/
theorem processTx_decimals {allowed : Bool} {payload : Bytes} {status : ParserStatus}
    (processed : processTx allowed payload content msg = (status, content', msg')) :
    DecimalsFrom content content' := by
  have same : content' = (processTx allowed payload content msg).2.1 := by rw [processed]
  rw [same]
  unfold processTx
  split
  · exact .inl rfl
  split
  · exact .inl rfl
  dsimp only
  split
  · exact .inl rfl
  rename_i applied limit
  have kept : applied.decimals = content.decimals := by
    unfold TxContent.applyFeeLimit at limit
    split_ifs at limit <;> obtain rfl := Option.some.inj limit <;> rfl
  split
  · exact .inl kept
  · rename_i raw _ _ _
    have from_contract := processContract_decimals raw applied default
    unfold DecimalsFrom at from_contract ⊢
    rw [kept] at from_contract
    exact from_contract

end Readers

end TronLedger
