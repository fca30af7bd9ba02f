import TronLedger.Encoding

/-!
# Transactions, as they are built

`tx_fixture.h`: a contract message is encoded, wrapped into an `Any` and put into a
`Transaction.raw`, as the device receives it in a chunk.

* `Contract` is a message of one of the types `processTx` reads, `Contract.sent` what is left of
  it in its encoding, and `Contract.stored` what is to be stored of it.
* `processTx_encoded` says that this is what `processTx` stores.
-/

namespace TronLedger

open Nanopb

section Contracts

/-- A message of one of the types that are read. -/
inductive Contract
  | transfer (m : TransferContract)
  | transferAsset (m : TransferAssetContract)
  | voteWitness (m : VoteWitnessContract)
  | accountUpdate (m : OwnerContract) (name : Option Bytes)
  | freezeBalance (m : FreezeBalanceContract)
  | unfreezeBalance (m : UnfreezeBalanceContract)
  | withdrawBalance (m : OwnerContract)
  | proposalCreate (m : ProposalCreateContract)
  | proposalApprove (m : ProposalApproveContract)
  | proposalDelete (m : ProposalDeleteContract)
  | triggerSmart (m : TriggerSmartContract) (data : Option Bytes)
  | exchangeCreate (m : ExchangeCreateContract)
  | exchangeInject (m : ExchangeInjectContract)
  | exchangeWithdraw (m : ExchangeInjectContract)
  | exchangeTransaction (m : ExchangeTransactionContract)
  | accountPermissionUpdate (m : AccountPermissionUpdateContract)
  | freezeBalanceV2 (m : FreezeBalanceV2Contract)
  | unfreezeBalanceV2 (m : UnfreezeBalanceV2Contract)
  | withdrawExpireUnfreeze (m : OwnerContract)
  | delegateResource (m : DelegateResourceContract)
  | undelegateResource (m : UnDelegateResourceContract)

namespace Contract

/-- `protocol_Transaction_Contract_ContractType` -/
def code : Contract → UInt32
  | transfer _ => 1
  | transferAsset _ => 2
  | voteWitness _ => 4
  | accountUpdate _ _ => 10
  | freezeBalance _ => 11
  | unfreezeBalance _ => 12
  | withdrawBalance _ => 13
  | proposalCreate _ => 16
  | proposalApprove _ => 17
  | proposalDelete _ => 18
  | triggerSmart _ _ => 31
  | exchangeCreate _ => 41
  | exchangeInject _ => 42
  | exchangeWithdraw _ => 43
  | exchangeTransaction _ => 44
  | accountPermissionUpdate _ => 46
  | freezeBalanceV2 _ => 54
  | unfreezeBalanceV2 _ => 55
  | withdrawExpireUnfreeze _ => 56
  | delegateResource _ => 57
  | undelegateResource _ => 58

/-- `pb_encode` of the message with its field list -/
def encode : Contract → Encoder
  | transfer m => pbEncode TransferContract.layout m
  | transferAsset m => pbEncode TransferAssetContract.layout m
  | voteWitness m => pbEncode VoteWitnessContract.layout m
  | accountUpdate m name => pbEncode AccountUpdateContract.layout (m, name)
  | freezeBalance m => pbEncode FreezeBalanceContract.layout m
  | unfreezeBalance m => pbEncode UnfreezeBalanceContract.layout m
  | withdrawBalance m => pbEncode OwnerContract.layout m
  | proposalCreate m => pbEncode ProposalCreateContract.layout m
  | proposalApprove m => pbEncode ProposalApproveContract.layout m
  | proposalDelete m => pbEncode ProposalDeleteContract.layout m
  | triggerSmart m data => pbEncode TriggerSmartContract.layout (m, data)
  | exchangeCreate m => pbEncode ExchangeCreateContract.layout m
  | exchangeInject m => pbEncode ExchangeInjectContract.layout m
  | exchangeWithdraw m => pbEncode ExchangeInjectContract.layout m
  | exchangeTransaction m => pbEncode ExchangeTransactionContract.layout m
  | accountPermissionUpdate m => pbEncode AccountPermissionUpdateContract.layout m
  | freezeBalanceV2 m => pbEncode FreezeBalanceV2Contract.layout m
  | unfreezeBalanceV2 m => pbEncode UnfreezeBalanceV2Contract.layout m
  | withdrawExpireUnfreeze m => pbEncode OwnerContract.layout m
  | delegateResource m => pbEncode DelegateResourceContract.layout m
  | undelegateResource m => pbEncode UnDelegateResourceContract.layout m

/-- The message as it is sent: without what is behind the content of a token id, or in a
permission that is not marked. -/
def sent : Contract → Contract
  | transferAsset m => transferAsset { m with assetName := m.assetName.cleared }
  | exchangeCreate m =>
    exchangeCreate { m with firstTokenId := m.firstTokenId.cleared, secondTokenId := m.secondTokenId.cleared }
  | exchangeInject m => exchangeInject { m with tokenId := m.tokenId.cleared }
  | exchangeWithdraw m => exchangeWithdraw { m with tokenId := m.tokenId.cleared }
  | exchangeTransaction m => exchangeTransaction { m with tokenId := m.tokenId.cleared }
  | accountPermissionUpdate m =>
    accountPermissionUpdate { m with
      owner := if m.hasOwner then m.owner else default
      witness := if m.hasWitness then m.witness else default }
  | c => c

/-- The token ids are cleared behind their content, and there is room for the lists and for what
callbacks write. -/
def Canonical : Contract → Prop
  | transferAsset m => m.assetName.Canonical
  | voteWitness m => m.votes.length ≤ 5
  | accountUpdate _ name => ∀ bs, name = some bs → bs.length ≤ 1024
  | proposalCreate m => m.parameters.length ≤ 10
  | triggerSmart _ data => ∀ bs, data = some bs → bs.length ≤ 1024
  | exchangeCreate m => m.firstTokenId.Canonical ∧ m.secondTokenId.Canonical
  | exchangeInject m => m.tokenId.Canonical
  | exchangeWithdraw m => m.tokenId.Canonical
  | exchangeTransaction m => m.tokenId.Canonical
  | accountPermissionUpdate m => m.Canonical
  | _ => True

/-- A token id that is shown as the label of slot `i`, or refused. -/
def labelled (content : TxContent) (i : Fin 2) (memory : Bytes) (size : Nat) (after : TxContent → TxContent) :
    Bool × TxContent :=
  match printTokenFromID content i memory size with
  | (false, content) => (false, content)
  | (true, content) => (true, after (content.measureToken i))

/-- What is stored of a contract for its review, and whether it is accepted. -/
def stored (content : TxContent) : Contract → Bool × TxContent
  | transfer m => (true, { content with
      amount := content.amount.set 0 m.amount.toUInt64
      account := m.ownerAddress
      destination := m.toAddress
      tokenNamesLength := content.tokenNamesLength.set 0 4
      tokenNames := content.tokenNames.set 0 ((content.tokenNames.get 0).strcpy 0 (ascii "TRX"))
      tokenIsTrx := content.tokenIsTrx.set 0 true })
  | transferAsset m =>
    labelled { content with amount := content.amount.set 0 m.amount.toUInt64 } 0 m.assetNameMemory m.assetName.size
      fun content => { content with account := m.ownerAddress, destination := m.toAddress }
  | voteWitness m =>
    if few : m.votes.length ≤ 5 then
      (true, { content with
        account := m.ownerAddress
        votes := ⟨m.votes.map fun vote => ⟨vote.voteAddress, vote.voteCount⟩, by simpa using few⟩ })
    else (false, content)
  | freezeBalance m =>
    -- three days, nothing else
    if m.frozenDuration = 3 then
      (true, { content with
        account := m.ownerAddress
        destination := m.receiverAddress
        amount := content.amount.set 0 m.frozenBalance.toUInt64
        resource := m.resource.toUInt8 })
    else (false, content)
  | unfreezeBalance m => (true, { content with
      account := m.ownerAddress
      destination := m.receiverAddress
      resource := m.resource.toUInt8 })
  | freezeBalanceV2 m => (true, { content with
      account := m.ownerAddress
      destination := m.ownerAddress
      amount := content.amount.set 0 m.frozenBalance.toUInt64
      resource := m.resource.toUInt8 })
  | unfreezeBalanceV2 m => (true, { content with
      account := m.ownerAddress
      destination := m.ownerAddress
      amount := content.amount.set 0 m.unfreezeBalance.toUInt64
      resource := m.resource.toUInt8 })
  | delegateResource m => (true, { content with
      account := m.ownerAddress
      destination := m.receiverAddress
      amount := content.amount.set 0 m.balance.toUInt64
      resource := m.resource.toUInt8
      customData := if m.lock then 1 else 0 })
  | undelegateResource m => (true, { content with
      account := m.ownerAddress
      destination := m.receiverAddress
      amount := content.amount.set 0 m.balance.toUInt64
      resource := m.resource.toUInt8 })
  | proposalCreate m => (true, { content with
      account := m.ownerAddress
      amount := content.amount.set 0 (UInt64.ofNat m.parameters.length) })
  | proposalDelete m => (true, { content with
      account := m.ownerAddress
      exchangeID := m.proposalId.toUInt64 })
  | proposalApprove m => (true, { content with account := m.ownerAddress })
  | withdrawBalance m | withdrawExpireUnfreeze m | accountUpdate m _ =>
    (true, { content with account := m.ownerAddress })
  | accountPermissionUpdate m => (true, { content with account := m.ownerAddress })
  | triggerSmart m data =>
    let content := withCallData data content
    -- call data that is not taken ends the reading
    if data.any fun data => ¬CallDataFits data then (false, content)
    else
      let content := { content with
        account := m.ownerAddress
        contractAddress := m.contractAddress
        amount := content.amount.set 0 m.callValue.toUInt64
        callTokenValue := m.callTokenValue
        callTokenId := m.tokenId }
      match getKnownToken m.contractAddress with
      | none => (true, { content with trc20Method := 0 })
      | some token => (true, { content with
          decimals := content.decimals.set 0 token.decimals
          tokenNamesLength := content.tokenNamesLength.set 0 (UInt8.ofNat (token.ticker.length + 1))
          tokenNames := content.tokenNames.set 0 ((content.tokenNames.get 0).strcpy 0 token.ticker) })
  | exchangeCreate m =>
    match printTokenFromID { content with account := m.ownerAddress } 0 m.firstTokenIdMemory m.firstTokenId.size with
    | (false, content) => (false, content)
    | (true, content) =>
      labelled (content.measureToken 0) 1 m.secondTokenIdMemory m.secondTokenId.size fun content =>
        { content with amount := ⟨m.firstTokenBalance.toUInt64, m.secondTokenBalance.toUInt64⟩ }
  | exchangeInject m | exchangeWithdraw m =>
    labelled { content with account := m.ownerAddress, exchangeID := m.exchangeId.toUInt64 } 0 m.tokenIdMemory
      m.tokenId.size fun content => { content with amount := content.amount.set 0 m.quant.toUInt64 }
  | exchangeTransaction m =>
    labelled { content with account := m.ownerAddress, exchangeID := m.exchangeId.toUInt64 } 0 m.tokenIdMemory
      m.tokenId.size fun content => { content with amount := ⟨m.quant.toUInt64, m.expected.toUInt64⟩ }

/-- The permissions that are reviewed. -/
def permissions : Contract → Msg
  | accountPermissionUpdate m => m
  | _ => default

end Contract

section Filled

variable {σ : Type}

/-- The encoder needs room, whatever it is given. -/
def Fills (encode : Encoder) : Prop := ∀ stream, stream.maxSize = some stream.written.length → encode stream = none

/-- Without room, the encoder fails or does nothing. -/
def Waits (encode : Encoder) : Prop :=
  ∀ stream, stream.maxSize = some stream.written.length → encode stream = none ∨ encode stream = some stream

theorem pbWrite_fills {bs : Bytes} (nonempty : bs ≠ []) : Fills (pbWrite bs) := by
  intro stream full
  have some : 0 < bs.length := List.length_pos_iff.mpr nonempty
  simp [pbWrite, Ostream.full, full, some]

theorem Fills.andThen {first : Encoder} (fills : Fills first) (next : Encoder) : Fills (first.andThen next) := by
  intro stream full
  rw [Encoder.andThen, fills stream full]
  rfl

theorem Waits.andThen {first next : Encoder} (waits : Waits first) (fills : Fills next) :
    Fills (first.andThen next) := by
  intro stream full
  rw [Encoder.andThen]
  rcases waits stream full with failed | kept
  · rw [failed]
    rfl
  · rw [kept]
    exact fills stream full

theorem encodeString_fills (tag : UInt32) (content : Bytes) : Fills (encodeString tag content) := by
  have nonempty := base128_ne_nil (tagNumber .string tag)
  rw [encodeString, pbEncodeTag_eq]
  exact (pbWrite_fills nonempty).andThen _

theorem encodeBytes_waits {n : Nat} (tag : UInt32) (get : σ → PbBytes n) (src : σ) :
    Waits (encodeBytes tag get src) := by
  intro stream full
  unfold encodeBytes
  split
  · exact .inr rfl
  split
  · exact .inl rfl
  · exact .inl (encodeString_fills _ _ stream full)

theorem encodeCallback_waits (tag : UInt32) (content : σ → Option Bytes) (src : σ) :
    Waits (encodeCallback tag content src) := by
  intro stream full
  unfold encodeCallback
  cases content src with
  | none => exact .inr rfl
  | some bs => exact .inl (encodeString_fills tag bs stream full)

/-- A contract has an owner, so its encoding is never empty. -/
theorem encode_fills (c : Contract) : Fills c.encode := by
  cases c with
  | transferAsset m => exact (encodeBytes_waits _ _ _).andThen ((encodeString_fills _ _).andThen _)
  | accountUpdate m name => exact (encodeCallback_waits _ _ _).andThen ((encodeString_fills _ _).andThen _)
  | _ => exact (encodeString_fills _ _).andThen _

theorem encode_ne_nil {c : Contract} {bs : Bytes} (written : c.encode = pbWrite bs) : bs ≠ [] := by
  rintro rfl
  have failed := encode_fills c (pbOstreamFromBuffer 0) rfl
  rw [written, pbWrite_nil] at failed
  simp at failed

end Filled

section Sent

variable {c : Contract}

@[simp] theorem sent_code (c : Contract) : c.sent.code = c.code := by cases c <;> rfl

/-- **What is sent is all that is encoded.** -/
theorem sent_encode (c : Contract) : c.sent.encode = c.encode := by
  cases c with
  | transferAsset m =>
    refine pbEncode_congr ?_
    simp only [TransferAssetContract.layout, List.forall_mem_cons]
    exact ⟨encodeBytes_cleared rfl, rfl, rfl, rfl, by simp⟩
  | exchangeCreate m =>
    refine pbEncode_congr ?_
    simp only [ExchangeCreateContract.layout, List.forall_mem_cons]
    exact ⟨rfl, encodeBytes_cleared rfl, rfl, encodeBytes_cleared rfl, rfl, by simp⟩
  | exchangeInject m | exchangeWithdraw m =>
    refine pbEncode_congr ?_
    simp only [ExchangeInjectContract.layout, List.forall_mem_cons]
    exact ⟨rfl, rfl, encodeBytes_cleared rfl, rfl, by simp⟩
  | exchangeTransaction m =>
    refine pbEncode_congr ?_
    simp only [ExchangeTransactionContract.layout, List.forall_mem_cons]
    exact ⟨rfl, rfl, encodeBytes_cleared rfl, rfl, rfl, by simp⟩
  | accountPermissionUpdate m =>
    refine pbEncode_congr ?_
    simp only [AccountPermissionUpdateContract.layout, List.forall_mem_cons]
    refine ⟨rfl, ?_, ?_, rfl, by simp⟩
    · cases marked : m.hasOwner <;> simp [encodeOptional, marked]
    · cases marked : m.hasWitness <;> simp [encodeOptional, marked]
  | _ => rfl

/-- A permission that is encoded has room for its keys. -/
theorem permission_keys {m : Permission} {stream stream' : Ostream}
    (encoded : pbEncode Permission.layout m stream = some stream') : m.keys.length ≤ 3 := by
  have fields := pbEncode_takes encoded
  simp only [Permission.layout, List.forall_mem_cons] at fields
  obtain ⟨-, -, -, -, -, -, ⟨_, _, keys⟩, -⟩ := fields
  exact (encodeRepeated_takes keys).1

theorem accountPermissionUpdate_canonical {m : AccountPermissionUpdateContract} {stream stream' : Ostream}
    (encoded : (Contract.accountPermissionUpdate m).encode stream = some stream') :
    (Contract.accountPermissionUpdate m).sent.Canonical := by
  have fields := pbEncode_takes encoded
  simp only [AccountPermissionUpdateContract.layout, List.forall_mem_cons] at fields
  obtain ⟨-, ⟨_, _, owner⟩, ⟨_, _, witness⟩, ⟨_, _, actives⟩, -⟩ := fields
  obtain ⟨few, each⟩ := encodeRepeated_takes actives
  constructor
  case owner =>
    intro absent
    exact if_neg (by simpa using absent)
  case witness =>
    intro absent
    exact if_neg (by simpa using absent)
  case actives => exact few
  case keys =>
    have blank : (default : Permission).keys.length ≤ 3 := Nat.zero_le 3
    intro permission among
    rcases List.mem_cons.mp among with rfl | among
    · dsimp only
      split
      · rename_i present
        obtain ⟨_, own⟩ := encodeOptional_takes present owner
        exact permission_keys own
      · exact blank
    rcases List.mem_cons.mp among with rfl | among
    · dsimp only
      split
      · rename_i present
        obtain ⟨_, own⟩ := encodeOptional_takes present witness
        exact permission_keys own
      · exact blank
    · obtain ⟨_, own⟩ := each permission among
      exact permission_keys own

/-- **What the encoder takes is sent in a form the device reads back.** -/
theorem sent_canonical {capacity : Nat} (small : capacity ≤ 1024) {stream : Ostream}
    (encoded : c.encode (pbOstreamFromBuffer capacity) = some stream) : c.sent.Canonical := by
  have room : (pbOstreamFromBuffer capacity).maxSize = some capacity := rfl
  cases c with
  | transferAsset m =>
    have fields := pbEncode_takes encoded
    simp only [TransferAssetContract.layout, List.forall_mem_cons] at fields
    obtain ⟨⟨_, _, name⟩, -⟩ := fields
    exact PbBytes.cleared_canonical (encodeBytes_takes name)
  | voteWitness m =>
    have fields := pbEncode_takes encoded
    simp only [VoteWitnessContract.layout, List.forall_mem_cons] at fields
    obtain ⟨-, ⟨_, _, votes⟩, -⟩ := fields
    exact (encodeRepeated_takes votes).1
  | accountUpdate m name =>
    rintro bs rfl
    obtain ⟨_, first, -⟩ := Option.bind_eq_some_iff.mp encoded
    exact Nat.le_trans (encodeString_takes room first).2 small
  | proposalCreate m =>
    have fields := pbEncode_takes encoded
    simp only [ProposalCreateContract.layout, List.forall_mem_cons] at fields
    obtain ⟨-, ⟨_, _, parameters⟩, -⟩ := fields
    exact (encodeRepeated_takes parameters).1
  | triggerSmart m data =>
    rintro bs rfl
    obtain ⟨_, owner, rest⟩ := Option.bind_eq_some_iff.mp encoded
    obtain ⟨_, contract, rest⟩ := Option.bind_eq_some_iff.mp rest
    obtain ⟨_, value, rest⟩ := Option.bind_eq_some_iff.mp rest
    obtain ⟨_, written, -⟩ := Option.bind_eq_some_iff.mp rest
    have third := encodeVarint_takes (encodeString_takes (encodeString_takes room owner).1 contract).1 value
    exact Nat.le_trans (encodeString_takes third written).2 small
  | exchangeCreate m =>
    have fields := pbEncode_takes encoded
    simp only [ExchangeCreateContract.layout, List.forall_mem_cons] at fields
    obtain ⟨-, ⟨_, _, first⟩, -, ⟨_, _, second⟩, -⟩ := fields
    exact ⟨PbBytes.cleared_canonical (encodeBytes_takes first), PbBytes.cleared_canonical (encodeBytes_takes second)⟩
  | exchangeInject m | exchangeWithdraw m =>
    have fields := pbEncode_takes encoded
    simp only [ExchangeInjectContract.layout, List.forall_mem_cons] at fields
    obtain ⟨-, -, ⟨_, _, token⟩, -⟩ := fields
    exact PbBytes.cleared_canonical (encodeBytes_takes token)
  | exchangeTransaction m =>
    have fields := pbEncode_takes encoded
    simp only [ExchangeTransactionContract.layout, List.forall_mem_cons] at fields
    obtain ⟨-, -, ⟨_, _, token⟩, -⟩ := fields
    exact PbBytes.cleared_canonical (encodeBytes_takes token)
  | accountPermissionUpdate m => exact accountPermissionUpdate_canonical encoded
  | _ => trivial

end Sent

/-- What is read of a contract without permissions. -/
theorem readByType_carried {σ : Type} [Inhabited σ] {fields : Descriptor σ} {c : Contract} {size : Nat}
    {store : σ → TxContent → Bool × TxContent} {m : σ} (loc : fields.Local)
    (reader : contractReader (ContractType.ofCode c.code) = some (readContract fields store))
    (writes : Writes fields .caller size c.encode default m) (short : size ≤ 1300)
    (same : ∀ content, store m content = c.stored content) (permissions : c.permissions = default) :
    ∃ bs, bs.length ≤ 1300 ∧ c.encode = pbWrite bs ∧ ∀ content,
      readByType c.code content (pbIstreamFromBuffer bs) default =
        ((c.stored content).1, (c.stored content).2, c.permissions) := by
  obtain ⟨bs, bound, written, carries⟩ := writes
  refine ⟨bs, Nat.le_trans bound short, written, fun content => ?_⟩
  have other : ContractType.ofCode c.code ≠ .accountPermissionUpdate := by
    intro permission
    rw [permission] at reader
    simp [contractReader] at reader
  have decoded : pbDecode fields (pbIstreamFromBuffer bs) default = (some ⟨.caller, []⟩, m) := carries.decode loc
  simp only [readByType, if_neg other, reader, readContract, decoded, same, permissions]

/-- A call is stored, or refused for its data. -/
theorem readByType_call (m : TriggerSmartContract) (data : Option Bytes)
    (canonical : (Contract.triggerSmart m data).Canonical) :
    ∃ bs, bs.length ≤ 1300 ∧ (Contract.triggerSmart m data).encode = pbWrite bs ∧ ∀ content,
      readByType (Contract.triggerSmart m data).code content (pbIstreamFromBuffer bs) default =
        (((Contract.triggerSmart m data).stored content).1, ((Contract.triggerSmart m data).stored content).2,
          default) := by
  have type : ContractType.ofCode (Contract.triggerSmart m data).code = .triggerSmart := rfl
  by_cases fits : ∀ bs, data = some bs → CallDataFits bs
  · have writes (content : TxContent) := triggerSmartContract_writes m data content fits canonical
    obtain ⟨bs, bound, written, -⟩ := writes .empty
    refine ⟨bs, Nat.le_trans bound (by decide), written, fun content => ?_⟩
    obtain ⟨bs', -, written', carries⟩ := writes content
    obtain rfl := pbWrite_inj (written'.symm.trans written)
    have decoded : pbDecode callFields (pbIstreamFromBuffer bs') (default, content) =
        (some ⟨.caller, []⟩, (m, withCallData data content)) := carries.decode triggerSmartContract_local
    have taken : ¬(data.any fun data => ¬CallDataFits data) = true := by
      simpa [Option.any_eq_true] using fits
    cases known : getKnownToken m.contractAddress <;>
      simp only [readByType, type, contractReader, triggerSmartContract, decoded, Contract.stored, if_neg taken,
        known, reduceCtorEq, if_false]
  · push Not at fits
    obtain ⟨bs, rfl, unfit⟩ := fits
    have refuses (content : TxContent) := triggerSmartContract_refuses m content unfit (canonical bs rfl)
    obtain ⟨-, out, bound, written, -⟩ := refuses .empty
    refine ⟨out, Nat.le_trans bound (by decide), written, fun content => ?_⟩
    obtain ⟨called, out', -, written', refused⟩ := refuses content
    obtain rfl := pbWrite_inj (written'.symm.trans written)
    have decoded : pbDecode callFields (pbIstreamFromBuffer out') (default, content) =
        (none, (called, withCallData (some bs) content)) := refused.decode triggerSmartContract_local
    have ends : ((some bs).any fun data => ¬CallDataFits data) = true := by simpa using unfit
    simp only [readByType, type, contractReader, triggerSmartContract, decoded, Contract.stored, if_pos ends,
      reduceCtorEq, if_false]

/-- **What is read of an encoded contract is what the contract holds.** -/
theorem readByType_encoded (c : Contract) (canonical : c.Canonical) :
    ∃ bs, bs.length ≤ 1300 ∧ c.encode = pbWrite bs ∧ ∀ content,
      readByType c.code content (pbIstreamFromBuffer bs) default =
        ((c.stored content).1, (c.stored content).2, c.permissions) := by
  cases c with
  | transfer m =>
    exact readByType_carried transferContract_local rfl (transferContract_writes m) (by decide) (fun _ => rfl) rfl
  | transferAsset m =>
    refine readByType_carried transferAssetContract_local rfl (transferAssetContract_writes m canonical) (by decide)
      (fun _ => rfl) rfl
  | voteWitness m =>
    refine readByType_carried voteWitnessContract_local rfl (voteWitnessContract_writes m canonical) (by decide)
      (fun content => ?_) rfl
    have few : m.votes.length ≤ 5 := canonical
    simp [Contract.stored, few, Nat.not_lt.mpr few]
  | accountUpdate m name =>
    exact readByType_carried accountUpdateContract_local rfl (accountUpdateContract_writes m name canonical)
      (by decide) (fun _ => rfl) rfl
  | freezeBalance m =>
    refine readByType_carried freezeBalanceContract_local rfl (freezeBalanceContract_writes m) (by decide)
      (fun content => ?_) rfl
    by_cases days : m.frozenDuration = 3 <;> simp [Contract.stored, days]
  | unfreezeBalance m =>
    exact readByType_carried unfreezeBalanceContract_local rfl (unfreezeBalanceContract_writes m) (by decide)
      (fun _ => rfl) rfl
  | withdrawBalance m =>
    exact readByType_carried withdrawBalanceContract_local rfl (withdrawBalanceContract_writes m) (by decide)
      (fun _ => rfl) rfl
  | proposalCreate m =>
    exact readByType_carried proposalCreateContract_local rfl (proposalCreateContract_writes m canonical) (by decide)
      (fun _ => rfl) rfl
  | proposalApprove m =>
    exact readByType_carried proposalApproveContract_local rfl (proposalApproveContract_writes m) (by decide)
      (fun _ => rfl) rfl
  | proposalDelete m =>
    exact readByType_carried proposalDeleteContract_local rfl (proposalDeleteContract_writes m) (by decide)
      (fun _ => rfl) rfl
  | triggerSmart m data => exact readByType_call m data canonical
  | exchangeCreate m =>
    refine readByType_carried exchangeCreateContract_local rfl (exchangeCreateContract_writes m canonical.1 canonical.2)
      (by decide) (fun _ => rfl) rfl
  | exchangeInject m =>
    refine readByType_carried exchangeInjectContract_local rfl (exchangeInjectContract_writes m canonical) (by decide)
      (fun _ => rfl) rfl
  | exchangeWithdraw m =>
    refine readByType_carried exchangeInjectContract_local rfl (exchangeInjectContract_writes m canonical) (by decide)
      (fun _ => rfl) rfl
  | exchangeTransaction m =>
    refine readByType_carried exchangeTransactionContract_local rfl (exchangeTransactionContract_writes m canonical)
      (by decide) (fun _ => rfl) rfl
  | accountPermissionUpdate m =>
    have writes : Writes _ .caller _ _ _ m := accountPermissionUpdateContract_writes m canonical
    obtain ⟨bs, bound, written, carries⟩ := writes
    refine ⟨bs, Nat.le_trans bound (by decide), written, fun content => ?_⟩
    have decoded : pbDecode AccountPermissionUpdateContract.fields (pbIstreamFromBuffer bs) default =
        (some ⟨.caller, []⟩, m) := carries.decode accountPermissionUpdateContract_local
    have type : ContractType.ofCode (Contract.accountPermissionUpdate m).code = .accountPermissionUpdate := rfl
    simp only [readByType, if_pos type, decoded, Contract.stored, Contract.permissions]
  | freezeBalanceV2 m =>
    exact readByType_carried freezeBalanceV2Contract_local rfl (freezeBalanceV2Contract_writes m) (by decide)
      (fun _ => rfl) rfl
  | unfreezeBalanceV2 m =>
    exact readByType_carried unfreezeBalanceV2Contract_local rfl (unfreezeBalanceV2Contract_writes m) (by decide)
      (fun _ => rfl) rfl
  | withdrawExpireUnfreeze m =>
    exact readByType_carried withdrawExpireUnfreezeContract_local rfl (withdrawExpireUnfreezeContract_writes m)
      (by decide) (fun _ => rfl) rfl
  | delegateResource m =>
    exact readByType_carried delegateResourceContract_local rfl (delegateResourceContract_writes m) (by decide)
      (fun _ => rfl) rfl
  | undelegateResource m =>
    exact readByType_carried unDelegateResourceContract_local rfl (unDelegateResourceContract_writes m) (by decide)
      (fun _ => rfl) rfl

end Contracts

section Transactions

/-- `protocol_Transaction_Contract`, with the bytes the callback of its `Any` writes -/
structure ContractSource where
  type : UInt32
  value : Bytes
  permissionId : Int32

/-- `protocol_Transaction_raw`, with the bytes its callback writes -/
structure RawSource where
  customData : Option Bytes
  contract : List ContractSource
  feeLimit : Int64

/-- `tx_fixture_encode_bytes_cb` writes the value. -/
def Any.layout : Layout Bytes := [encodeCallback 1 fun _ => none, encodeCallback 2 some]

def TransactionContract.layout : Layout ContractSource :=
  [encodeUint32 1 (·.type), encodeOptional 2 (fun _ => true) Any.layout (·.value), encodeCallback 3 fun _ => none,
    encodeCallback 4 fun _ => none, encodeInt32 5 (·.permissionId)]

def TransactionRaw.layout : Layout RawSource :=
  [encodeCallback 10 (·.customData), encodeRepeated 11 1 TransactionContract.layout (·.contract),
    encodeInt64 18 (·.feeLimit)]

/-- `build_transaction_raw`; its 0 is `none`. -/
def buildTransactionRaw (type : UInt32) (contractBytes : Bytes) (feeLimit : Int64) (outCap : Nat) : Option Bytes :=
  (pbEncode TransactionRaw.layout ⟨none, [⟨type, contractBytes, 0⟩], feeLimit⟩ (pbOstreamFromBuffer outCap)).map
    (·.written)

/-- `build_transaction_raw_with_msg` -/
def buildTransactionRawWithMsg (c : Contract) (feeLimit : Int64) (outCap : Nat) : Option Bytes :=
  match c.encode (pbOstreamFromBuffer 256) with
  | none => none
  | some cstream => buildTransactionRaw c.code cstream.written feeLimit outCap

/-- `build_transaction_raw_no_contract`: an unknown field is appended. -/
def buildTransactionRawNoContract (feeLimit : Int64) (outCap : Nat) : Option Bytes :=
  match pbEncode TransactionRaw.layout ⟨none, [], feeLimit⟩ (pbOstreamFromBuffer outCap) with
  | none => none
  | some stream =>
    let unknownFieldFiller : Bytes := [0x9A, 0x06, 0x01, 0xAB]
    if outCap - stream.written.length < unknownFieldFiller.length then none
    else some (stream.written ++ unknownFieldFiller)

/-- What a transaction is decoded to, behind chunks with `dataBytes` of data. -/
def RawSource.decoded (raw : RawSource) (dataBytes : UInt64) : TransactionRaw where
  dataBytes := raw.customData.elim dataBytes fun data => UInt64.ofNat data.length
  contractCount := raw.contract.length
  contract := (raw.contract.head?.map fun entry => ⟨entry.type, true, entry.permissionId⟩).getD default
  contractBuffer := (raw.contract.head?.map fun entry => ⟨some ⟨.caller, entry.value⟩, true⟩).getD ⟨none, false⟩
  feeLimit := raw.feeLimit

theorem any_writes (value : Bytes) (short : value.length ≤ 65535) :
    Writes (Any.fields pbDecodeContractParameter) .caller 65546 (pbEncode Any.layout value) ⟨none, false⟩
      ⟨some ⟨.caller, value⟩, true⟩ := by
  have captured : Writes (Any.fields pbDecodeContractParameter) .caller 65546 (encodeCallback 2 some value)
      ⟨none, false⟩ ⟨some ⟨.caller, value⟩, true⟩ := by
    refine encodeCallback_writes rfl (by decide) (by decide) (fun bs given => ?_) (fun absent => nomatch absent)
      fun bs given => ?_
    · obtain rfl := Option.some.inj given
      exact short
    · obtain rfl := Option.some.inj given
      simp [callbackLoop, pbDecodeContractParameter]
  exact .mono (.cons encodeCallback_unset <| .cons captured <| .nil _) (by decide)

theorem transactionContract_writes (entry : ContractSource) (short : entry.value.length ≤ 65535) :
    Writes (TransactionContract.fields pbDecodeContractParameter) .caller 65589
      (pbEncode TransactionContract.layout entry) (default, ⟨none, false⟩)
      (⟨entry.type, true, entry.permissionId⟩, ⟨some ⟨.caller, entry.value⟩, true⟩) := by
  have parameter : Writes (TransactionContract.fields pbDecodeContractParameter) .caller 65557
      (encodeOptional 2 (fun _ => true) Any.layout (·.value) entry)
      (⟨entry.type, false, 0⟩, ⟨none, false⟩) (⟨entry.type, true, 0⟩, ⟨some ⟨.caller, entry.value⟩, true⟩) :=
    encodeOptional_writes rfl (by decide) any_local (by decide) (any_writes entry.value short)
      (fun absent => nomatch absent) (fun _ => rfl)
  exact .mono (.cons (encodeUint32_writes rfl (by decide) rfl) <|
    .cons parameter <|
    .cons encodeCallback_unset <|
    .cons encodeCallback_unset <|
    .cons (encodeInt32_writes rfl (by decide) rfl) <|
    .nil _) (by decide)

/-- A source there is room for. -/
structure RawSource.Fits (raw : RawSource) : Prop where
  customData : ∀ data, raw.customData = some data → data.length ≤ 65535
  single : raw.contract.length ≤ 1
  values : ∀ entry ∈ raw.contract, entry.value.length ≤ 65535

theorem transactionRaw_writes (raw : RawSource) (fits : raw.Fits) (dataBytes : UInt64) :
    Writes TransactionRaw.fields .caller 131162 (pbEncode TransactionRaw.layout raw)
      (TransactionRaw.initial dataBytes) (raw.decoded dataBytes) := by
  let measured : TransactionRaw :=
    { TransactionRaw.initial dataBytes with
      dataBytes := raw.customData.elim dataBytes fun data => UInt64.ofNat data.length }
  have data : Writes TransactionRaw.fields .caller 65546 (encodeCallback 10 (·.customData) raw)
      (TransactionRaw.initial dataBytes) measured := by
    refine encodeCallback_writes rfl (by decide) (by decide) fits.customData (fun absent => ?_) fun bs given => ?_
    · simp only [measured, absent]
      rfl
    · simp only [measured, given]
      exact pbGetTxDataSize_loop .caller bs
  have contract : Writes TransactionRaw.fields .caller 65600
      (encodeRepeated 11 1 TransactionContract.layout (·.contract) raw) measured
      { raw.decoded dataBytes with feeLimit := 0 } := by
    have single := fits.single
    have values := fits.values
    simp only [encodeRepeated, if_neg (Nat.not_lt.mpr single), RawSource.decoded]
    generalize raw.contract = entries at single values ⊢
    rcases entries with _ | ⟨entry, _ | ⟨second, rest⟩⟩
    · exact (Writes.nothing _).mono (Nat.zero_le _)
    · have taken : Writes TransactionRaw.fields .caller 65600
          ((pbEncodeTag .string 11).andThen (pbEncodeSubmessage (pbEncode TransactionContract.layout entry)))
          measured _ :=
        submessage_writes rfl (by decide) rfl transactionContract_local (by decide)
          (transactionContract_writes entry (values entry List.mem_cons_self))
      exact taken.andThen (.nothing _)
    · simp at single
  exact .mono (.cons data <| .cons contract <| .cons (encodeInt64_writes rfl (by decide) rfl) <| .nil _) (by decide)

/-- What is stored of the contract `c` behind a chunk of a transaction with `permissionId`. -/
def Contract.processed (c : Contract) (permissionId : Int32) (content : TxContent) :
    ParserStatus × TxContent × Msg :=
  match c.stored { content with
      contractSeen := true
      permissionId := permissionId
      contractType := ContractType.ofCode c.code } with
  | (true, content) => (.processing, content, c.permissions)
  | (false, content) => (.fault, content, c.permissions)

variable {allowed : Bool} {content : TxContent} {msg : Msg}

/-- A contract entry is never empty. -/
theorem transaction_ne_nil {customData : Option Bytes} {entry : ContractSource} {feeLimit : Int64} {chunk : Bytes}
    (encoded : pbEncode TransactionRaw.layout ⟨customData, [entry], feeLimit⟩ = pbWrite chunk) : chunk ≠ [] := by
  have tagged : Fills ((pbEncodeTag .string 11).andThen
      (pbEncodeSubmessage (pbEncode TransactionContract.layout entry))) := by
    rw [pbEncodeTag_eq]
    exact (pbWrite_fills (base128_ne_nil _)).andThen _
  have fills : Fills (pbEncode TransactionRaw.layout ⟨customData, [entry], feeLimit⟩) :=
    (encodeCallback_waits _ _ _).andThen ((tagged.andThen _).andThen _)
  rintro rfl
  have failed := fills (pbOstreamFromBuffer 0) rfl
  rw [encoded, pbWrite_nil] at failed
  simp at failed

/-- A chunk is processed as what it was encoded from. -/
theorem processTx_encoded {raw : RawSource} (fits : raw.Fits) {chunk : Bytes}
    (encoded : pbEncode TransactionRaw.layout raw = pbWrite chunk) (nonempty : chunk ≠ []) :
    processTx allowed chunk content msg =
      match { content with dataBytes := (raw.decoded content.dataBytes).dataBytes }.applyFeeLimit
          raw.feeLimit.toUInt64 with
      | none => (.fault, { content with dataBytes := (raw.decoded content.dataBytes).dataBytes }, default)
      | some applied =>
        if !allowed ∧ applied.dataBytes ≠ 0 then (.missingSettingDataAllowed, applied, default)
        else processContract (raw.decoded content.dataBytes) applied default := by
  obtain ⟨bs, -, written, carries⟩ := transactionRaw_writes raw fits content.dataBytes
  obtain rfl := pbWrite_inj (written.symm.trans encoded)
  have decoded : pbDecode TransactionRaw.fields (pbIstreamFromBuffer bs) (TransactionRaw.initial content.dataBytes) =
      (some ⟨.caller, []⟩, raw.decoded content.dataBytes) := carries.decode transactionRaw_local
  have filled : bs.length ≠ 0 := fun empty => nonempty (List.length_eq_zero_iff.mp empty)
  simp only [processTx, if_neg filled, decoded]
  rfl

/-- **A transaction is reviewed as the contract it was built from.** -/
theorem processTx_contract (c : Contract) (canonical : c.Canonical) (customData : Option Bytes)
    (short : ∀ data, customData = some data → data.length ≤ 65535) (permissionId : Int32) (feeLimit : Int64) :
    ∃ value chunk, c.encode = pbWrite value ∧
      pbEncode TransactionRaw.layout ⟨customData, [⟨c.code, value, permissionId⟩], feeLimit⟩ = pbWrite chunk ∧
      ∀ allowed content applied msg, content.contractSeen = false →
        { content with dataBytes := customData.elim content.dataBytes fun data => UInt64.ofNat data.length }.applyFeeLimit
          feeLimit.toUInt64 = some applied →
        (allowed = true ∨ applied.dataBytes = 0) →
        processTx allowed chunk content msg = c.processed permissionId applied := by
  obtain ⟨value, bound, written, read⟩ := readByType_encoded c canonical
  have fits : RawSource.Fits ⟨customData, [⟨c.code, value, permissionId⟩], feeLimit⟩ := by
    refine ⟨short, Nat.le_refl 1, fun entry among => ?_⟩
    obtain rfl := List.mem_singleton.mp among
    exact Nat.le_trans bound (by decide)
  obtain ⟨chunk, -, encoded, -⟩ := transactionRaw_writes _ fits 0
  refine ⟨value, chunk, written, encoded, fun allowed content applied msg fresh fee permitted => ?_⟩
  have unseen : applied.contractSeen = false := by
    obtain ⟨_, _, rfl, -⟩ := applyFeeLimit_kept fee
    exact fresh
  have gate : ¬(!allowed ∧ applied.dataBytes ≠ 0) := by
    rintro ⟨closed, some⟩
    rcases permitted with open' | none
    · simp [open'] at closed
    · exact some none
  have filled : value.length ≠ 0 := fun empty => encode_ne_nil written (List.length_eq_zero_iff.mp empty)
  rw [processTx_encoded fits encoded (transaction_ne_nil encoded)]
  have data : (RawSource.decoded ⟨customData, [⟨c.code, value, permissionId⟩], feeLimit⟩ content.dataBytes).dataBytes =
      customData.elim content.dataBytes fun data => UInt64.ofNat data.length := rfl
  simp only [data, fee, if_neg gate]
  simp only [processContract, RawSource.decoded, unseen, read, filled, Contract.processed, List.head?_cons,
    Option.map_some, Option.getD_some, if_true, Bool.false_eq_true, if_false, ne_eq, not_true_eq_false]
  obtain ⟨ok, stored⟩ := c.stored _
  cases ok <;> rfl

theorem pbWrite_written {bs : Bytes} {stream stream' : Ostream} (written : pbWrite bs stream = some stream') :
    stream'.written = stream.written ++ bs := by
  simp only [pbWrite] at written
  split_ifs at written
  obtain rfl := Option.some.inj written
  rfl

/-- The content of the first chunk of a session, when it has a fee limit. -/
def TxContent.limited (feeLimit : UInt64) : TxContent :=
  if feeLimit = 0 then .empty else { TxContent.empty with feeLimit := feeLimit, feeLimitSeen := true }

theorem applyFeeLimit_empty (feeLimit : UInt64) : TxContent.empty.applyFeeLimit feeLimit = some (.limited feeLimit) := by
  by_cases zero : feeLimit = 0
  · simp [TxContent.applyFeeLimit, TxContent.limited, zero]
  · simp [TxContent.applyFeeLimit, TxContent.limited, zero, TxContent.empty]

theorem limited_dataBytes (feeLimit : UInt64) : (TxContent.limited feeLimit).dataBytes = 0 := by
  unfold TxContent.limited
  split <;> rfl

/-- **The fixture builds what is reviewed as its message**: whatever it takes, what is sent of it is stored, or refused
by its reader. -/
theorem buildTransactionRawWithMsg_processed {c : Contract} {feeLimit : Int64} {outCap : Nat} {chunk : Bytes}
    (built : buildTransactionRawWithMsg c feeLimit outCap = some chunk) (allowed : Bool) (msg : Msg) :
    processTx allowed chunk .empty msg = c.sent.processed 0 (.limited feeLimit.toUInt64) := by
  unfold buildTransactionRawWithMsg at built
  cases filled : c.encode (pbOstreamFromBuffer 256) with
  | none => simp [filled] at built
  | some cstream =>
    obtain ⟨value, chunk', written, encoded, processed⟩ :=
      processTx_contract c.sent (sent_canonical (by decide) filled) none (fun _ given => nomatch given) 0 feeLimit
    rw [sent_encode] at written
    rw [sent_code] at encoded
    have own : cstream.written = value := pbWrite_written (written ▸ filled)
    simp only [filled, buildTransactionRaw, own, encoded, Option.map_eq_some_iff] at built
    obtain ⟨stream, wrapped, rfl⟩ := built
    rw [pbWrite_written wrapped]
    exact processed allowed .empty _ msg rfl (applyFeeLimit_empty _) (.inr (limited_dataBytes _))

/-- A transfer of 1.5 TRX. -/
def sampleContract : Contract := .transfer ⟨Address.ofNat 1, Address.ofNat 2, 1500000⟩

/-- A call with less data than a selector. -/
def shortCall : Contract := .triggerSmart ⟨Address.ofNat 1, Address.ofNat 2, 0, 0, 0⟩ (some [0x11, 0x22, 0x33])

/-- A transfer is stored, a call that its reader does not take is refused. -/
theorem buildTransactionRawWithMsg_processed_samples : ∃ chunk chunk',
    buildTransactionRawWithMsg sampleContract 100 256 = some chunk ∧
      processTx false chunk .empty default = sampleContract.sent.processed 0 (.limited 100) ∧
      buildTransactionRawWithMsg shortCall 100 256 = some chunk' ∧
      (processTx false chunk' .empty default).1 = .fault := by
  have builds : (buildTransactionRawWithMsg sampleContract 100 256).isSome = true := by decide +kernel
  have builds' : (buildTransactionRawWithMsg shortCall 100 256).isSome = true := by decide +kernel
  obtain ⟨chunk, built⟩ := Option.isSome_iff_exists.mp builds
  obtain ⟨chunk', built'⟩ := Option.isSome_iff_exists.mp builds'
  refine ⟨chunk, chunk', built, buildTransactionRawWithMsg_processed built false default, built', ?_⟩
  rw [buildTransactionRawWithMsg_processed built' false default]
  decide +kernel

/-- The field that is appended to a transaction without a contract. -/
theorem filler_carries (raw : TransactionRaw) :
    Nanopb.Carries TransactionRaw.fields .caller [0x9A, 0x06, 0x01, 0xAB] raw raw := by
  have framed : Framed [0x9A, 0x06, 0x01, 0xAB] [⟨99, .string, [0x01, 0xAB]⟩] := records_eq_some.mp (by decide)
  exact ⟨_, framed, rfl⟩

/-- A chunk without a contract only sets the fee limit. -/
theorem buildTransactionRawNoContract_processed {feeLimit : Int64} {outCap : Nat} {chunk : Bytes}
    (built : buildTransactionRawNoContract feeLimit outCap = some chunk) (allowed : Bool) (content : TxContent)
    (msg : Msg) :
    processTx allowed chunk content msg =
      match content.applyFeeLimit feeLimit.toUInt64 with
      | none => (.fault, content, default)
      | some applied =>
        (if !allowed ∧ content.dataBytes ≠ 0 then .missingSettingDataAllowed else .processing, applied, default) := by
  have fits : RawSource.Fits ⟨none, [], feeLimit⟩ :=
    ⟨fun _ given => (nomatch given), Nat.zero_le 1, fun _ among => (nomatch among)⟩
  obtain ⟨bs, -, written, carries⟩ := transactionRaw_writes _ fits content.dataBytes
  have whole := carries.append (filler_carries _)
  have decoded := whole.decode transactionRaw_local
  simp only [buildTransactionRawNoContract, written] at built
  cases filled : pbWrite bs (pbOstreamFromBuffer outCap) with
  | none => simp [filled] at built
  | some stream =>
    have own : stream.written = bs := pbWrite_written filled
    simp only [filled, own] at built
    split_ifs at built with room
    obtain rfl := Option.some.inj built
    have nonempty : (bs ++ [0x9A, 0x06, 0x01, 0xAB]).length ≠ 0 := by simp
    have same : (RawSource.decoded ⟨none, [], feeLimit⟩ content.dataBytes).dataBytes = content.dataBytes := rfl
    have fee : (RawSource.decoded ⟨none, [], feeLimit⟩ content.dataBytes).feeLimit = feeLimit := rfl
    have bare : (RawSource.decoded ⟨none, [], feeLimit⟩ content.dataBytes).contract.hasParameter = false := rfl
    simp only [processTx, if_neg nonempty, pbIstreamFromBuffer, decoded, same, fee]
    cases limited : content.applyFeeLimit feeLimit.toUInt64 with
    | none => rfl
    | some applied =>
      have kept : applied.dataBytes = content.dataBytes := by
        obtain ⟨_, _, rfl, -⟩ := applyFeeLimit_kept limited
        rfl
      simp only [kept, processContract, bare, Bool.false_eq_true, if_false]
      split <;> rfl

theorem buildTransactionRawNoContract_processed_fee : ∃ chunk,
    buildTransactionRawNoContract 100 256 = some chunk ∧
      processTx false chunk .empty default = (.processing, .limited 100, default) := by
  have builds : (buildTransactionRawNoContract 100 256).isSome = true := by decide +kernel
  obtain ⟨chunk, built⟩ := Option.isSome_iff_exists.mp builds
  refine ⟨chunk, built, ?_⟩
  rw [buildTransactionRawNoContract_processed built]
  rfl

end Transactions

end TronLedger
