import TronLedger.WireValues
import TronLedger.Device

/-!
# The data of a contract call

Which occurrence of the data field a call is classified by.

* `CallRead` is what one run of the callback stores, `triggerSmartContract_read` what the last one leaves.
* `FollowsData` says that the call is that of the value the network executes; `call_data_iff` says when.
-/

namespace TronLedger

open Nanopb

/-- The number of the data field. -/
def dataTag : Nat := 4

/-- `transfer(address,uint256)` -/
def transferSelector : UInt32 := 0xa9059cbb

/-- `approve(address,uint256)` -/
def approveSelector : UInt32 := 0x095ea7b3

/-- The method that is shown as a transfer or an approval of a token. -/
def selectorMethod (selector : UInt32) : UInt8 :=
  if selector = transferSelector then 1 else if selector = approveSelector then 2 else 0

/-- The first four bytes of the data. -/
def dataSelector (data : Bytes) : UInt32 := UInt32.ofNat (beNat (data.take 4))

/-- The account a token call names: the prefix of the main net, and the tail of the first word. -/
def dataAccount (data : Bytes) : Bytes := 0x41 :: ((data.drop 4).take 32).drop 12

/-- The second word of a token call. -/
def dataAmount (data : Bytes) : Bytes := data.drop 36

/-- Selector, method and arguments of a call, as the callback stores them. -/
structure CallRead (data : Bytes) (content : TxContent) : Prop where
  enough : 4 ≤ data.length
  selector : content.customSelector = dataSelector data
  method : content.trc20Method = selectorMethod (dataSelector data)
  words : selectorMethod (dataSelector data) = 0 → (data.length - 4) % 32 = 0
  length : selectorMethod (dataSelector data) ≠ 0 → data.length = 68
  destination : selectorMethod (dataSelector data) ≠ 0 → content.destination.bytes = dataAccount data
  amount : selectorMethod (dataSelector data) ≠ 0 → content.trc20Amount.bytes = dataAmount data

section Callback

theorem dataSelector_eq {data : Bytes} (enough : 4 ≤ data.length) (a b c d : UInt8) :
    dataSelector data = UInt32.ofNat (beNat [a, b, c, d]) ↔ data.take 4 = [a, b, c, d] := by
  have four : (data.take 4).length = 4 := by simp [enough]
  have small := beNat_lt (data.take 4)
  have small' := beNat_lt [a, b, c, d]
  rw [four] at small
  constructor
  · intro same
    have value := congrArg UInt32.toNat same
    rw [dataSelector, UInt32.toNat_ofNat', UInt32.toNat_ofNat', Nat.mod_eq_of_lt (by simpa using small),
      Nat.mod_eq_of_lt (by simpa using small')] at value
    exact beNat_inj (by simp [four]) value
  · intro same
    rw [dataSelector, same]

/-- The comparison of the bytes is one of the selectors. -/
theorem method_eq {data : Bytes} (enough : 4 ≤ data.length) :
    (if some (data.take 4) = selectors[0]? then 1 else if some (data.take 4) = selectors[1]? then 2 else 0 : UInt8) =
      selectorMethod (dataSelector data) := by
  have transfer : some (data.take 4) = selectors[0]? ↔ dataSelector data = transferSelector := by
    rw [show transferSelector = UInt32.ofNat (beNat [0xA9, 0x05, 0x9C, 0xBB]) by decide, dataSelector_eq enough]
    simp [selectors]
  have approve : some (data.take 4) = selectors[1]? ↔ dataSelector data = approveSelector := by
    rw [show approveSelector = UInt32.ofNat (beNat [0x09, 0x5E, 0xA7, 0xB3]) by decide, dataSelector_eq enough]
    simp [selectors]
  unfold selectorMethod
  simp only [transfer, approve]

/-- A run of the callback takes the whole value. -/
theorem pbDecodeTriggerSmartContractData_read {stream rest : Istream} {content content' : TxContent}
    (decoded : pbDecodeTriggerSmartContractData stream content = (some rest, content')) :
    rest.data = [] ∧ CallRead stream.data content' := by
  unfold pbDecodeTriggerSmartContractData at decoded
  split at decoded
  · simp at decoded
  rename_i selector arguments read
  obtain ⟨enough, rfl, rfl⟩ : 4 ≤ stream.data.length ∧ stream.data.take 4 = selector ∧
      stream.data.drop 4 = arguments := by
    simp only [pbRead] at read
    split_ifs at read with short
    obtain ⟨rfl, rfl⟩ := Prod.mk.inj (Option.some.inj read)
    exact ⟨Nat.le_of_not_lt short, rfl, rfl⟩
  dsimp only at decoded
  rw [method_eq enough, List.length_drop] at decoded
  by_cases other : selectorMethod (dataSelector stream.data) = 0
  · rw [if_pos other] at decoded
    split at decoded
    · simp at decoded
    · rename_i words
      obtain ⟨rfl, rfl⟩ := Prod.mk.inj decoded |>.imp Option.some.inj id
      refine ⟨rfl, enough, rfl, other.symm, fun _ => not_not.mp words, ?_, ?_, ?_⟩
      all_goals exact fun token => absurd other token
  · rw [if_neg other] at decoded
    split at decoded
    · simp at decoded
    · rename_i words
      obtain ⟨rfl, rfl⟩ := Prod.mk.inj decoded |>.imp Option.some.inj id
      have length : stream.data.length = 68 := by omega
      refine ⟨rfl, enough, rfl, rfl, fun none => absurd none other, fun _ => length, fun _ => ?_, fun _ => ?_⟩
      · have whole : (dataAccount stream.data).length = 21 := by simp [dataAccount, length]
        exact Buf.bytes_ofBytes whole
      · have whole : (dataAmount stream.data).length = 32 := by simp [dataAmount, length]
        rw [List.drop_drop]
        exact Buf.bytes_ofBytes whole

end Callback

section Reader

/-- The message of a call, with its callback. -/
abbrev callFields : Descriptor (TriggerSmartContract × TxContent) :=
  TriggerSmartContract.fields pbDecodeTriggerSmartContractData

/-- Only the data field writes `txContent`. -/
theorem callFields_content : callFields.KeepsElsewhere dataTag Prod.snd := .table (by simp [dataTag])

/-- The callback is handed the content of a length-delimited record, or at most ten bytes. -/
theorem applyRecord_data {r : Record} {mem : Mem} {dest dest' : TriggerSmartContract × TxContent}
    (same : r.number = dataTag) (applied : applyRecord callFields mem r dest = (true, dest')) :
    ∃ raw, callbackBytes r = some raw ∧ CallRead raw dest'.2 ∧ (r.wireType = .string ∨ raw.length ≤ 10) := by
  obtain ⟨msg, content⟩ := dest
  simp only [applyRecord, callFields, TriggerSmartContract.fields, Descriptor.table_cons, same, dataTag,
    Nat.reduceEqDiff, reduceIte, callback] at applied
  unfold callbackBytes
  by_cases type : r.wireType = .string
  · simp only [if_pos type] at applied ⊢
    cases taken : pbMakeStringSubstream r.body with
    | none => simp [taken] at applied
    | some found =>
      obtain ⟨data, behind⟩ := found
      simp only [taken, callbackLoop] at applied
      cases decoded : pbDecodeTriggerSmartContractData ⟨mem, data⟩ content with
      | mk rest content' =>
        cases rest with
        | none => simp [decoded] at applied
        | some rest =>
          obtain ⟨whole, read⟩ := pbDecodeTriggerSmartContractData_read decoded
          rw [decoded] at applied
          simp only [whole, List.length_nil, lt_irrefl, false_and, if_false, Option.isSome_some, Prod.mk.injEq,
            true_and] at applied
          subst applied
          exact ⟨data, rfl, read, .inl type⟩
  · simp only [if_neg type] at applied ⊢
    cases taken : readRawValue r.wireType r.body with
    | none => simp [taken] at applied
    | some found =>
      obtain ⟨raw, behind⟩ := found
      simp only [taken] at applied
      cases decoded : pbDecodeTriggerSmartContractData ⟨.scratch, raw⟩ content with
      | mk rest content' =>
        cases rest with
        | none => simp [decoded] at applied
        | some rest =>
          rw [decoded] at applied
          simp only [Option.isSome_some, Prod.mk.injEq, true_and] at applied
          subst applied
          exact ⟨raw, rfl, (pbDecodeTriggerSmartContractData_read decoded).2,
            .inr (readRawValue_length taken).2⟩

/-- What is stored of the call that the callback left: a contract that is no known token has no method. -/
structure Classified (called stored : TxContent) : Prop where
  selector : stored.customSelector = called.customSelector
  method : stored.trc20Method =
    if (getKnownToken stored.contractAddress).isSome then called.trc20Method else 0
  destination : stored.destination = called.destination
  amount : stored.trc20Amount = called.trc20Amount

variable {content stored : TxContent} {parameter : Bytes}

/-- **A call is classified by the last record of the data field, whatever its wire type.** -/
theorem triggerSmartContract_read
    (read : triggerSmartContract content (pbIstreamFromBuffer parameter) = (true, stored)) :
    (lastRecord dataTag (recordsOf parameter) = none → Classified content stored) ∧
      ∀ r, lastRecord dataTag (recordsOf parameter) = some r → ∃ raw called, callbackBytes r = some raw ∧
        (r.wireType = .string ∨ raw.length ≤ 10) ∧ CallRead raw called ∧ Classified called stored := by
  unfold triggerSmartContract at read
  split at read
  · simp at read
  rename_i rest msg called decoded
  obtain ⟨rs, framed, done⟩ := framed_of_pbDecode triggerSmartContract_local decoded
  have classified : Classified called stored := by
    dsimp only at read
    split at read
    · rename_i unknown
      obtain rfl := (Prod.mk.inj read).2
      exact ⟨rfl, by rw [unknown]; rfl, rfl, rfl⟩
    · rename_i token known
      obtain rfl := (Prod.mk.inj read).2
      exact ⟨rfl, by rw [known]; rfl, rfl, rfl⟩
  obtain ⟨none, last⟩ := decodeRecords_last (P := fun r called => ∃ raw, callbackBytes r = some raw ∧
    CallRead raw called ∧ (r.wireType = .string ∨ raw.length ≤ 10)) callFields_content
    (fun r dest dest' same applied => applyRecord_data same applied) rs done
  rw [recordsOf_eq framed]
  constructor
  · intro absent
    rw [show called = content from none absent] at classified
    exact classified
  · intro r found
    obtain ⟨raw, handed, call, short⟩ := last r found
    exact ⟨raw, called, handed, short, call, classified⟩

end Reader

/-- The data the network executes a call with: the last length-delimited value. -/
def dataValue (rs : List Record) : Option Bytes :=
  (rs.filter fun r => r.number = dataTag ∧ r.wireType = .string).getLast?.map Record.content

/-- The selector of a call; without data it is zero. -/
def callSelector (data : Option Bytes) : UInt32 := (data.map dataSelector).getD 0

/-- The call shown is the one the network executes. -/
structure FollowsData (stored : TxContent) (rs : List Record) : Prop where
  selector : stored.customSelector = callSelector (dataValue rs)
  method : stored.trc20Method =
    if (getKnownToken stored.contractAddress).isSome then selectorMethod (callSelector (dataValue rs)) else 0
  arguments : stored.trc20Method ≠ 0 → ∃ data, dataValue rs = some data ∧
    stored.destination.bytes = dataAccount data ∧ stored.trc20Amount.bytes = dataAmount data

/-- The last record of the data field is length-delimited, or its bytes have the selector of the last
one that is. -/
def DataLast (rs : List Record) : Prop :=
  ∀ r, lastRecord dataTag rs = some r →
    r.wireType = .string ∨ callSelector (callbackBytes r) = callSelector (dataValue rs)

section Values

variable {rs : List Record} {r : Record}

theorem dataValue_none (absent : lastRecord dataTag rs = none) : dataValue rs = none := by
  rw [lastRecord, List.getLast?_eq_none_iff, List.filter_eq_nil_iff] at absent
  rw [dataValue, Option.map_eq_none_iff, List.getLast?_eq_none_iff, List.filter_eq_nil_iff]
  intro r among both
  exact absent r among (decide_eq_true (of_decide_eq_true both).1)

theorem dataValue_last (last : lastRecord dataTag rs = some r) (type : r.wireType = .string) :
    dataValue rs = some r.content := by
  rw [lastRecord, List.getLast?_eq_some_iff] at last
  obtain ⟨before, split⟩ := last
  have number : r.number = dataTag := by
    have among : r ∈ rs.filter fun r => r.number = dataTag := by
      rw [split]
      simp
    simpa using (List.mem_filter.mp among).2
  have both : (rs.filter fun r => r.number = dataTag ∧ r.wireType = .string) =
      (rs.filter fun r => r.number = dataTag).filter fun r => r.wireType = .string := by
    rw [List.filter_filter]
    congr 1
    funext q
    simp [Bool.and_comm]
  rw [dataValue, both, split, List.filter_append, List.filter_cons_of_pos (by simpa using type),
    List.filter_nil, List.getLast?_concat]
  rfl

/-- A value that is too short for two words has no method. -/
theorem CallRead.short {raw : Bytes} {called : TxContent} (call : CallRead raw called)
    (short : raw.length ≤ 10) : selectorMethod (dataSelector raw) = 0 := by
  by_contra token
  have length := call.length token
  omega

end Values

/-- **A call is shown as the one the network executes exactly where the last record of the data field
is length-delimited, or has the same selector.** -/
theorem call_data_iff {contract : TransactionContract} {parameter : Bytes} {stored : TxContent}
    (read : triggerSmartContract (TxContent.empty.typed contract) (pbIstreamFromBuffer parameter) =
      (true, stored)) :
    FollowsData stored (recordsOf parameter) ↔ DataLast (recordsOf parameter) := by
  obtain ⟨absent, last⟩ := triggerSmartContract_read read
  generalize recordsOf parameter = rs at absent last ⊢
  cases found : lastRecord dataTag rs with
  | none =>
    have call := absent found
    have none := dataValue_none found
    constructor
    · intro _ r other
      rw [found] at other
      simp at other
    · intro _
      have method : stored.trc20Method = 0 := by
        rw [call.method]
        split <;> rfl
      refine ⟨?_, ?_, fun token => absurd method token⟩
      · rw [call.selector, none]
        rfl
      · rw [method, none]
        split <;> rfl
  | some r =>
    obtain ⟨raw, called, handed, short, call, classified⟩ := last r found
    have selector : stored.customSelector = callSelector (callbackBytes r) := by
      rw [classified.selector, call.selector, handed]
      rfl
    constructor
    · intro follows q other
      obtain rfl : r = q := Option.some.inj (found.symm.trans other)
      exact .inr (selector.symm.trans follows.selector)
    · intro counts
      by_cases type : r.wireType = .string
      · have data : dataValue rs = some raw := by
          have content : r.content = raw := by
            rw [callbackBytes, if_pos type] at handed
            rw [Record.content, handed, Option.getD_some]
          rw [dataValue_last found type, content]
        have method : stored.trc20Method =
            if (getKnownToken stored.contractAddress).isSome then selectorMethod (dataSelector raw) else 0 := by
          rw [classified.method, call.method]
        rw [handed] at selector
        refine ⟨by rw [data]; exact selector, by rw [data]; exact method, fun token => ⟨raw, data, ?_⟩⟩
        have known : selectorMethod (dataSelector raw) ≠ 0 := by
          intro none
          rw [method, none, ite_self] at token
          exact token rfl
        rw [classified.destination, classified.amount]
        exact ⟨call.destination known, call.amount known⟩
      · -- at most ten bytes are no token call, and neither is what has their selector
        have same := (counts r found).resolve_left type
        have none := call.short (short.resolve_left type)
        have data : selectorMethod (callSelector (dataValue rs)) = 0 := by
          rw [← same, handed]
          exact none
        have method : stored.trc20Method = 0 := by
          rw [classified.method, call.method, none, ite_self]
        refine ⟨selector.trans same, ?_, fun token => absurd method token⟩
        rw [method, data, ite_self]

/-- A call of the contract with an address and some data records. -/
def callOf (contractAddress : Bytes) (data : Bytes) : Bytes :=
  delimitedField 1 (sampleAccount 1) ++ delimitedField 2 contractAddress ++ data

/-- The first token of the table. -/
def sampleToken : Bytes :=
  [0x41, 0xdb, 0xf2, 0xb7, 0x3d, 0xf1, 0x23, 0xed, 0x12, 0x89, 0x99, 0x51, 0xa1, 0x38, 0x25, 0x48, 0x24, 0x5e,
    0x52, 0xb8, 0xf9]

/-- The transfer of an amount of a token. -/
def transferData (amount : UInt8) : Bytes :=
  [0xA9, 0x05, 0x9C, 0xBB] ++ List.replicate 11 0 ++ sampleAccount 7 ++ List.replicate 31 0 ++ [amount]

def sampleCall : Bytes := callOf sampleToken (delimitedField 4 (transferData 5))

/-- A transfer of a known token is shown as it is executed. -/
theorem call_data_iff_transfer : ∃ stored,
    triggerSmartContract (TxContent.empty.typed default) (pbIstreamFromBuffer sampleCall) = (true, stored) ∧
    stored.trc20Method = 1 ∧ (FollowsData stored (recordsOf sampleCall) ↔ DataLast (recordsOf sampleCall)) := by
  have accepted : (triggerSmartContract (TxContent.empty.typed default)
      (pbIstreamFromBuffer sampleCall)).1 = true := by decide +kernel
  have token : (triggerSmartContract (TxContent.empty.typed default)
      (pbIstreamFromBuffer sampleCall)).2.trc20Method = 1 := by decide +kernel
  exact ⟨_, Prod.ext accepted rfl, token, call_data_iff (Prod.ext accepted rfl)⟩

/-- The same transfer, and four bytes of another wire type behind it. -/
def overriddenCall : Bytes :=
  callOf sampleToken (delimitedField 4 (transferData 5) ++ [0x25, 0x11, 0x22, 0x33, 0x44])

/-- The four bytes take the place of the transfer that is executed. -/
theorem call_overridden : ∃ stored,
    triggerSmartContract (TxContent.empty.typed default) (pbIstreamFromBuffer overriddenCall) = (true, stored) ∧
    dataValue (recordsOf overriddenCall) = some (transferData 5) ∧ stored.customSelector = 0x11223344 ∧
    stored.trc20Method = 0 ∧ ¬FollowsData stored (recordsOf overriddenCall) := by
  have accepted : (triggerSmartContract (TxContent.empty.typed default)
      (pbIstreamFromBuffer overriddenCall)).1 = true := by decide +kernel
  have called : (triggerSmartContract (TxContent.empty.typed default)
      (pbIstreamFromBuffer overriddenCall)).2.customSelector = 0x11223344 := by decide +kernel
  have method : (triggerSmartContract (TxContent.empty.typed default)
      (pbIstreamFromBuffer overriddenCall)).2.trc20Method = 0 := by decide +kernel
  have data : dataValue (recordsOf overriddenCall) = some (transferData 5) := by decide +kernel
  have executed : callSelector (some (transferData 5)) = transferSelector := by decide +kernel
  obtain ⟨stored, read⟩ : ∃ stored, triggerSmartContract (TxContent.empty.typed default)
      (pbIstreamFromBuffer overriddenCall) = (true, stored) := ⟨_, Prod.ext accepted rfl⟩
  rw [read] at called method
  refine ⟨stored, read, data, called, method, ?_⟩
  intro follows
  have selector := follows.selector
  rw [called, data, executed] at selector
  exact absurd selector (by decide)

end TronLedger
