import TronLedger.SessionRule
import TronLedger.Device

/-!
# The contract and the hash of a session

What a session shows and signs, read from its payloads alone: the digest of the payloads,
and the contract of the one entry that carries a parameter.

* `ReadFrom` says that `txContent` is what a contract entry gives, with names from metadata.
* `contractRules` is the instance of the session rule for what is shown, `signedRules` the one
  for the hash.
* An exception may end a digest too early; then the transaction can never be shown
  (`neverShown`).
-/

namespace TronLedger

open Nanopb

/-- `content` is what `entry` gives on its own, `msg` with it; metadata has given names to the
tokens, and other chunks have set the data size and the fee limit. -/
def ReadFrom (entry : Record) (content : TxContent) (msg : Msg) : Prop :=
  ∃ read named, contractRead entry = some (read, msg) ∧ MetadataChange read named ∧
    (read.contractType.takesMetadata = false → named = read) ∧
    content = named.reframe content.dataBytes content.feeLimit content.feeLimitSeen

/-- A contract entry carries `contract`, with `parameter` captured from its chunk. -/
def Carries (entry : Record) (contract : TransactionContract) (parameter : Bytes) : Prop :=
  ∃ captured, contractOf entry = some (contract, captured) ∧
    captured.buf = some ⟨.caller, parameter⟩

/-- The one entry of the session that carries a parameter. -/
def SessionCarries (log : List Effect) (contract : TransactionContract) (parameter : Bytes) : Prop :=
  ∃ entry, (contractEntries (sessionRecords log)).filter bearsParameter = [entry] ∧
    Carries entry contract parameter

/-- A log carries one contract. -/
theorem SessionCarries.unique {log : List Effect} {contract contract' : TransactionContract}
    {parameter parameter' : Bytes} (carried : SessionCarries log contract parameter)
    (carried' : SessionCarries log contract' parameter') : contract = contract' ∧ parameter = parameter' := by
  obtain ⟨entry, single, captured, found, buffer⟩ := carried
  obtain ⟨entry', single', captured', found', buffer'⟩ := carried'
  rw [single] at single'
  obtain rfl := (List.cons.inj single').1
  rw [found] at found'
  obtain ⟨rfl, rfl⟩ := Prod.mk.inj (Option.some.inj found')
  rw [buffer] at buffer'
  exact ⟨rfl, (Istream.mk.inj (Option.some.inj buffer')).2⟩

/-- The contract of the records read so far. -/
inductive SessionContract (rs : List Record) (content : TxContent) (msg : Msg) : Prop
  | none (bare : (contractEntries rs).filter bearsParameter = [])
      (empty : content =
        TxContent.empty.reframe content.dataBytes content.feeLimit content.feeLimitSeen)
  | one (entry : Record) (single : (contractEntries rs).filter bearsParameter = [entry])
      (read : Msg) (from_entry : ReadFrom entry content read) (kept : msg = read ∨ msg = default)

section Contents

variable {rs : List Record} {content content' : TxContent} {msg msg' : Msg}

/-- What a contract that is read comes from. -/
theorem contractRead_read {entry : Record} {read : TxContent} (bears : bearsParameter entry = true)
    (found : contractRead entry = some (read, msg)) :
    ∃ contract parameter, Carries entry contract parameter ∧
      readByType contract.type (TxContent.empty.typed contract) (pbIstreamFromBuffer parameter) default =
        (true, read, msg) := by
  unfold contractRead at found
  split at found
  · simp at found
  rename_i decoded contract
  have parameter : (contractRaw decoded).contract.hasParameter = true := by
    simpa [bearsParameter, contract, contractRaw] using bears
  split at found
  · rename_i first kept processed
    obtain ⟨rfl, rfl⟩ := Prod.mk.inj (Option.some.inj found)
    obtain ⟨bytes, captured, -, -, read⟩ := processContract_reads parameter processed
    exact ⟨_, bytes, ⟨_, contract, captured⟩, read⟩
  · simp at found

theorem contractRead_seen {entry : Record} {read : TxContent}
    (bears : bearsParameter entry = true) (found : contractRead entry = some (read, msg)) :
    read.contractSeen = true := by
  obtain ⟨contract, parameter, -, stored⟩ := contractRead_read bears found
  have captured := readByType_contractSeen contract.type (TxContent.empty.typed contract)
    (pbIstreamFromBuffer parameter) default
  rw [stored] at captured
  exact captured

theorem ReadFrom.seen {entry : Record} (bears : bearsParameter entry = true)
    (read : ReadFrom entry content msg) : content.contractSeen = true := by
  obtain ⟨stored, named, found, change, -, same⟩ := read
  have seen := contractRead_seen bears found
  rw [same]
  unfold MetadataChange at change
  rw [change]
  exact seen

/-- The content is what the reader of its type stored, with names from metadata. -/
theorem ReadFrom.stored {entry : Record} (bears : bearsParameter entry = true)
    (read : ReadFrom entry content msg) :
    ∃ contract parameter stored named, Carries entry contract parameter ∧
      ContractType.ofCode contract.type = content.contractType ∧
      readByType contract.type (TxContent.empty.typed contract) (pbIstreamFromBuffer parameter)
        default = (true, stored, msg) ∧ MetadataChange stored named ∧
      (content.contractType.takesMetadata = false → named = stored) ∧
      content = named.reframe content.dataBytes content.feeLimit content.feeLimitSeen := by
  obtain ⟨stored, named, found, change, fixed, same⟩ := read
  obtain ⟨contract, parameter, carries, read⟩ := contractRead_read bears found
  have type := readByType_contractType contract.type (TxContent.empty.typed contract)
    (pbIstreamFromBuffer parameter) default
  rw [read] at type
  have typed : content.contractType = stored.contractType := by
    rw [same]
    exact change.contractType
  refine ⟨contract, parameter, stored, named, carries, ?_, read, change, fun plain => fixed ?_, same⟩
  · rw [typed, type]
    rfl
  · rw [← typed]
    exact plain

/-- Chunks around the contract keep where it is read from. -/
theorem ReadFrom.reframe {entry : Record} (read : ReadFrom entry content msg) (d f : UInt64)
    (seen : Bool) : ReadFrom entry (content.reframe d f seen) msg := by
  obtain ⟨stored, named, found, change, fixed, same⟩ := read
  refine ⟨stored, named, found, change, fixed, ?_⟩
  rw [same]
  rfl

/-- Metadata keeps where the contract is read from. -/
theorem ReadFrom.metadata {entry : Record} (read : ReadFrom entry content msg)
    (takes : content.contractType.takesMetadata = true) (change : MetadataChange content content') :
    ReadFrom entry content' msg := by
  obtain ⟨stored, named, found, before, -, same⟩ := read
  unfold MetadataChange at before change
  have type : stored.contractType = content.contractType := by
    rw [same, before]
    rfl
  refine ⟨stored, { named with
    tokenNames := content'.tokenNames
    tokenNamesLength := content'.tokenNamesLength
    decimals := content'.decimals }, found, ?_, fun fixed => ?_, ?_⟩
  · unfold MetadataChange
    rw [before]
  · rw [type, takes] at fixed
    simp at fixed
  · rw [change, same]
    rfl

/-- No fee limit is stored that no chunk has set. -/
def FeeSeen (content : TxContent) : Prop := content.feeLimitSeen = false → content.feeLimit = 0

theorem FeeSeen.reframe {d fee : UInt64} {seen : Bool} (before : FeeSeen content)
    (kept : FeeKept content fee seen) : FeeSeen (content.reframe d fee seen) := by
  intro unseen
  rcases kept with ⟨rfl, rfl⟩ | ⟨rfl, -⟩
  · exact before unseen
  · simp [TxContent.reframe, TxContent.outside] at unseen

/-- An accepted chunk: its records join those of the session. -/
theorem SessionContract.chunk {allowed : Bool} {payload : Bytes}
    (contract : SessionContract rs content msg) (fee : FeeSeen content)
    (processed : processTx allowed payload content msg = (.processing, content', msg')) :
    ∃ qs d f seen, Framed payload qs ∧ SessionContract (rs ++ qs) content' msg' ∧ FeeSeen content' ∧
      FeeKept content f seen ∧
      (content.contractSeen = true → content' = content.reframe d f seen ∧ msg' = default) := by
  obtain ⟨qs, f, seen, framed, accepted, ends⟩ := processTx_processing processed
  refine ⟨qs, qs.foldl dataStep content.dataBytes, f, seen, framed, ?_⟩
  have entries : contractEntries (rs ++ qs) = contractEntries rs ++ contractEntries qs :=
    List.filter_append ..
  rcases ends with ⟨bare, rfl, rfl⟩ | ⟨entry, decoded, single, found, bears, unseen, read⟩
  · have none : (contractEntries qs).filter bearsParameter = [] := by
      simpa [List.filter_eq_nil_iff] using bare
    refine ⟨?_, fee.reframe accepted.fee, accepted.fee, fun _ => ⟨rfl, rfl⟩⟩
    cases contract with
    | none bare empty =>
      refine .none (by simp [entries, bare, none]) ?_
      rw [empty]
      rfl
    | one entry single read from_entry kept =>
      exact .one entry (by simp [entries, single, none]) read (from_entry.reframe _ _ _) (.inr rfl)
  · have filtered : (contractEntries qs).filter bearsParameter = [entry] := by
      simp [single, bears]
    rw [processContract_reframe] at read
    obtain ⟨status, stored, kept⟩ :
        (processContract (contractRaw decoded) content default).1 = .processing ∧
        (processContract (contractRaw decoded) content default).2.1.reframe
          (qs.foldl dataStep content.dataBytes) f seen = content' ∧
        (processContract (contractRaw decoded) content default).2.2 = msg' := by
      simpa using read
    refine ⟨?_, ?_, accepted.fee, fun again => by simp [unseen] at again⟩
    · cases contract with
      | one other others m from_entry =>
        have seen : content.contractSeen = true := by
          refine from_entry.seen ?_
          have among : other ∈ (contractEntries rs).filter bearsParameter := by simp [others]
          exact (List.mem_filter.mp among).2
        simp [unseen] at seen
      | none bare empty =>
        rw [empty, processContract_reframe] at status stored kept
        refine .one entry (by simp [entries, bare, filtered]) msg' ?_ (.inl rfl)
        generalize alone : processContract (contractRaw decoded) .empty default = result
          at status stored kept
        obtain ⟨st, first, m⟩ := result
        obtain rfl : st = .processing := status
        obtain rfl : m = msg' := kept
        refine ⟨first, first, ?_, .refl _, fun _ => rfl, ?_⟩
        · simp [contractRead, found, alone]
        · rw [← stored]
          rfl
    · rw [← stored]
      intro unset
      rcases accepted.fee with ⟨rfl, rfl⟩ | ⟨rfl, -⟩
      · exact fee unset
      · simp [TxContent.reframe, TxContent.outside] at unset

end Contents

section Sticky

variable {content content' : TxContent} {msg : Msg}

theorem permissionEmpty_default : permissionEmpty default = true := by decide

/-- A transaction that can never be shown carries a contract. -/
theorem neverShown_empty (d f : UInt64) (seen : Bool) (msg : Msg) :
    neverShown (TxContent.empty.reframe d f seen) msg = false := by
  simp [neverShown, printedAmounts, TxContent.reframe, TxContent.outside, TxContent.empty]

theorem neverShown_metadata (change : MetadataChange content content') :
    neverShown content' msg = neverShown content msg := by
  unfold MetadataChange at change
  rw [change]
  rfl

/-- A fee limit that is too long stays: no chunk can replace it. -/
theorem feeKept_tooLong {fee : UInt64} {seen : Bool} (before : FeeSeen content)
    (kept : FeeKept content fee seen) (long : tooLong content.feeLimit = true) :
    fee = content.feeLimit := by
  rcases kept with ⟨rfl, -⟩ | ⟨-, -, same⟩
  · rfl
  · refine same ?_
    by_contra unseen
    rw [before (by simpa using unseen)] at long
    exact absurd long (by decide)

variable (content) in
theorem printedAmounts_token (type : content.contractType = .triggerSmart)
    (method : content.trc20Method = 1 ∨ content.trc20Method = 2) :
    printedAmounts content = [content.feeLimit] := by
  simp [printedAmounts, type, method]

variable (content) in
theorem printedAmounts_call (type : content.contractType = .triggerSmart)
    (method : ¬(content.trc20Method = 1 ∨ content.trc20Method = 2)) :
    printedAmounts content =
      [content.amount.first, content.callTokenValue.toUInt64, content.feeLimit] := by
  simp [printedAmounts, type, method]

theorem printedAmounts_reframe (d f : UInt64) (seen : Bool)
    (type : content.contractType ≠ .triggerSmart) :
    printedAmounts (content.reframe d f seen) = printedAmounts content := by
  have same : (content.reframe d f seen).contractType = content.contractType := rfl
  unfold printedAmounts
  rw [same]
  split <;> first | rfl | contradiction

/-- What can never be shown cannot be shown behind another chunk. -/
theorem neverShown_reframe {d fee : UInt64} {seen : Bool} (before : FeeSeen content)
    (kept : FeeKept content fee seen) (never : neverShown content msg = true) :
    neverShown (content.reframe d fee seen) default = true := by
  simp only [neverShown, permissionEmpty_default, and_true, decide_eq_true_eq] at never ⊢
  rcases never with long | ⟨type, -⟩
  · left
    have stays (tooMuch : tooLong content.feeLimit = true) : tooLong fee = true := by
      rw [feeKept_tooLong before kept tooMuch, tooMuch]
    by_cases type : content.contractType = .triggerSmart
    · by_cases method : content.trc20Method = 1 ∨ content.trc20Method = 2
      · rw [printedAmounts_token (content.reframe d fee seen) type method]
        rw [printedAmounts_token content type method] at long
        simp only [List.any_cons, List.any_nil, Bool.or_false] at long ⊢
        exact stays long
      · rw [printedAmounts_call (content.reframe d fee seen) type method]
        rw [printedAmounts_call content type method] at long
        simp only [List.any_cons, List.any_nil, Bool.or_eq_true, Bool.or_false] at long ⊢
        exact long.imp id (Or.imp id stays)
    · rw [printedAmounts_reframe d fee seen type]
      exact long
  · exact .inr type

theorem renderedContent_of_neverShown (never : neverShown content msg = true) :
    renderedContent content = content := by
  unfold renderedContent
  split
  · rename_i vote
    simp [neverShown, printedAmounts, vote] at never
  · rfl

end Sticky

section Rules

variable {σ κ : Type} {sdk : Sdk σ κ} {digest : Bytes → Buf 32}

/-- What holds of the contract of an open session of INS_SIGN. -/
structure ContractLive (settings : Settings) (context : TxContext σ) (content : TxContent)
    (msg : Msg) (log : List Effect) : Prop where
  framed : ∃ rss, List.Forall₂ Framed (sessionPayloads log) rss
  accepted : ∀ chunk ∈ sessionChunks log, chunk.2.accepts = true
  contract : SessionContract (sessionRecords log) content msg
  fee : FeeSeen content

/-- The contract a review shows, or a swap accepts: `content` before it is rendered. -/
structure ContractOf (log : List Effect) (content : TxContent) (msg : Msg) : Prop where
  accepted : ∀ chunk ∈ sessionChunks log, chunk.2.accepts = true
  framed : ∃ rss, List.Forall₂ Framed (sessionPayloads log) rss
  entry : ∃ entry read, (contractEntries (sessionRecords log)).filter bearsParameter = [entry] ∧
    ReadFrom entry content read ∧ (content.contractType = .accountPermissionUpdate → msg = read)

/-- The content shown is what the reader of its type stored. -/
theorem ContractOf.stored {log : List Effect} {content : TxContent} {msg : Msg}
    (of : ContractOf log content msg) :
    ∃ contract parameter stored named read, SessionCarries log contract parameter ∧
      ContractType.ofCode contract.type = content.contractType ∧
      readByType contract.type (TxContent.empty.typed contract) (pbIstreamFromBuffer parameter)
        default = (true, stored, read) ∧ MetadataChange stored named ∧
      (content.contractType.takesMetadata = false → named = stored) ∧
      content = named.reframe content.dataBytes content.feeLimit content.feeLimitSeen ∧
      (content.contractType = .accountPermissionUpdate → msg = read) := by
  obtain ⟨entry, read, single, from_entry, permission⟩ := of.entry
  have among : entry ∈ (contractEntries (sessionRecords log)).filter bearsParameter := by
    simp [single]
  obtain ⟨contract, parameter, stored, named, carried, type, found, change, fixed, same⟩ :=
    from_entry.stored (List.mem_filter.mp among).2
  exact ⟨contract, parameter, stored, named, read, ⟨entry, single, carried⟩, type, found, change,
    fixed, same, permission⟩

/-- The content shown is what the reader of the contract made of some parameter. -/
theorem ContractOf.reads {log : List Effect} {content : TxContent} {msg : Msg}
    (of : ContractOf log content msg) {reader : ContractReader}
    (known : contractReader content.contractType = some reader) :
    ∃ contract parameter stored named, SessionCarries log contract parameter ∧
      reader (TxContent.empty.typed contract) (pbIstreamFromBuffer parameter) = (true, stored) ∧
      ContractType.ofCode contract.type = content.contractType ∧ MetadataChange stored named ∧
      (content.contractType.takesMetadata = false → named = stored) ∧
      content = named.reframe content.dataBytes content.feeLimit content.feeLimitSeen := by
  obtain ⟨contract, parameter, stored, named, read, carried, type, found, change, fixed, same, -⟩ :=
    of.stored
  rw [← type] at known
  exact ⟨contract, parameter, stored, named, carried, readByType_reader known found, type, change,
    fixed, same⟩

/-- What INS_SIGN shows is the contract of the session. -/
def ShowsSession (sdk : Sdk σ κ) (settings : Settings) : Effect → List Effect → Prop
  | .review r, older => (lastCommand older).any Command.isSign = true →
    ∃ s : Session σ κ, s.settings = settings ∧ s.calledFromSwap = false ∧
      ContractOf older s.txContent s.msg ∧ s.Renders sdk (.display r.infos.state) r.ui ∧
      ReviewOf (s.finished sdk) r.infos.state (0 < s.txContent.dataBytes) r
  | .swapAccepted content ui, older => (lastCommand older).any Command.isSign = true →
    ∃ s : Session σ κ, s.settings = settings ∧ ContractOf older s.txContent s.msg ∧
      s.Renders sdk .swapSign ui ∧ content = renderedContent s.txContent
  | _, _ => True

theorem ContractOf.of_live {s : Session σ κ} {log : List Effect}
    (live : LiveIn ContractLive s log) (typed : s.txContent.contractType ≠ .invalidContract)
    (printable : neverShown s.txContent s.msg = false) :
    ContractOf log s.txContent s.msg where
  accepted := live.accepted
  framed := live.framed
  entry := by
    rcases live.contract with ⟨-, empty⟩ | ⟨entry, single, read, from_entry, kept⟩
    · rw [empty] at typed
      exact absurd rfl typed
    · refine ⟨entry, read, single, from_entry, fun permission => kept.resolve_right fun none => ?_⟩
      rw [none] at printable
      simp [neverShown, permission, permissionEmpty_default] at printable

/-- A swap signs what could also be shown. -/
theorem swapSound_of_renders {s : Session σ κ} {ui : Ui} (renders : s.Renders sdk .swapSign ui) :
    ∃ contacts residue, SwapSound (s.renderContext sdk contacts residue) s.txContent ui := by
  obtain ⟨contacts, residue, sound⟩ := Renders.sound sdk renders
  exact ⟨contacts, residue, sound.2⟩

theorem typed_of_swap {ctx : RenderContext σ κ} {content : TxContent} {ui : Ui}
    (sound : SwapSound ctx content ui) : content.contractType ≠ .invalidContract := by
  rcases sound.contract with type | ⟨type, -⟩ <;> simp [type]

/-- The rules of what is shown. -/
theorem contractRules (sdk : Sdk σ κ) : SessionRules sdk ContractLive (fun _ _ _ => True)
    (ShowsSession sdk) where
  opens settings msg log :=
    { framed := ⟨[], .nil⟩
      accepted := by simp [sessionChunks]
      contract := .none rfl rfl
      fee := fun _ => rfl }
  silent entry silent live :=
    { framed := by rw [sessionPayloads_silent silent]; exact live.framed
      accepted := by rw [sessionChunks_silent silent]; exact live.accepted
      contract := by rw [sessionRecords_silent silent]; exact live.contract
      fee := live.fee }
  metadata {settings context content content' msg log} takes step live :=
    { framed := live.framed
      accepted := live.accepted
      contract := by
        rcases live.contract with ⟨-, empty⟩ | ⟨entry, single, read, from_entry, kept⟩
        · rw [empty] at takes
          simp [TxContent.reframe, TxContent.outside, TxContent.empty,
            ContractType.takesMetadata] at takes
        · exact .one entry single read (from_entry.metadata takes step.change) kept
      fee := by
        have change := step.change
        unfold MetadataChange at change
        rw [change]
        exact live.fee }
  chunk {settings context content msg log} payload {status content' msg'} _ live processed accepts := by
    obtain ⟨rss, framed⟩ := live.framed
    have accepted (verdict : ParserStatus) (fine : verdict.accepts = true) :
        ∀ chunk ∈ sessionChunks (.processTx payload verdict :: log), chunk.2.accepts = true := by
      intro chunk among
      rcases List.mem_append.mp among with before | now
      · exact live.accepted chunk before
      · rw [List.mem_singleton.mp now]
        exact fine
    rcases processTx_accepts processed accepts with rfl | ⟨rfl, rfl, rfl, rfl⟩
    · obtain ⟨qs, d, fee, seen, more, contract, feeSeen, -⟩ := live.contract.chunk live.fee processed
      obtain ⟨framed', appended⟩ := sessionRecords_chunk framed more
      exact ⟨⟨_, framed'⟩, accepted _ accepts, by rw [appended]; exact contract, feeSeen⟩
    · obtain ⟨framed', appended⟩ := sessionRecords_chunk framed Framed.nil
      refine ⟨⟨_, framed'⟩, accepted _ accepts, ?_, live.fee⟩
      rw [appended, List.append_nil]
      exact live.contract
  thrown {s log} throws live := by
    have never := neverShown_of_renderThrows s.msg throws
    have same : renderedContent s.txContent = s.txContent := renderedContent_of_neverShown never
    refine ⟨live.framed, live.accepted, ?_, ?_⟩
    · rw [Session.finished, same]
      exact live.contract
    · rw [Session.finished, same]
      exact live.fee
  review {s log r kind} live noSwap _ printable typed rendered shown := by
    refine ⟨fun _ => ⟨s, rfl, noSwap, ContractOf.of_live live typed printable, ?_, ?_⟩, trivial⟩
    · rw [shown.state_eq]
      exact rendered
    · rw [shown.state_eq]
      exact shown
  swapAccepted {s log ui} live renders := by
    obtain ⟨contacts, residue, sound⟩ := swapSound_of_renders renders
    exact fun _ => ⟨s, rfl, ContractOf.of_live live (typed_of_swap sound) sound.printable, renders, rfl⟩
  swapSigned _ _ _ := trivial
  signature _ _ := trivial
  plain settings entry log plain := by
    cases entry with
    | review | swapAccepted => simp [Effect.isPlain] at plain
    | _ => trivial
  other settings entry log notSign := by
    cases entry with
    | review | swapAccepted =>
      intro own
      rw [notSign] at own
      simp at own
    | _ => trivial

/-- What holds of an open session of INS_SIGN, with its hash. -/
structure SignedLive (sdk : Sdk σ κ) (settings : Settings) (context : TxContext σ)
    (content : TxContent) (msg : Msg) (log : List Effect) : Prop
    extends ContractLive settings context content msg log where
  hash : context.sha2 = sdk.sha256.absorb (sessionPayloads log) ∨ neverShown content msg = true

/-- The hash is the digest of the payloads of the session. -/
def HashOf (digest : Bytes → Buf 32) (hash : Buf 32) (log : List Effect) : Prop :=
  hash = digest (sessionPayloads log).flatten ∧ ∀ chunk ∈ sessionChunks log, chunk.2.accepts = true

/-- What INS_SIGN shows and signs has the hash of the session. -/
def HashesSession (digest : Bytes → Buf 32) : Effect → List Effect → Prop
  | .review r, older => (lastCommand older).any Command.isSign = true → HashOf digest r.hash older
  | .signature _ hash, older => (lastCommand older).any Command.isSign = true →
    HashOf digest hash older
  | _, _ => True

theorem HashOf.of_live (ok : sdk.sha256.Correct digest) {s : Session σ κ} {log : List Effect}
    (live : LiveIn (SignedLive sdk) s log) (printable : neverShown s.txContent s.msg = false) :
    HashOf digest (s.finished sdk).hash log := by
  refine ⟨?_, live.accepted⟩
  have absorbed := live.hash.resolve_right (by simp [printable])
  rw [Session.finished, absorbed, ok]

theorem HashOf.silent {hash : Buf 32} {entry : Effect} {log : List Effect}
    (silent : entry.isSilent = true) (h : HashOf digest hash log) :
    HashOf digest hash (entry :: log) := by
  rw [HashOf, sessionPayloads_silent silent, sessionChunks_silent silent]
  exact h

/-- What can never be shown carries the contract already. -/
theorem ContractLive.seen {settings : Settings} {context : TxContext σ} {content : TxContent}
    {msg : Msg} {log : List Effect} (live : ContractLive settings context content msg log)
    (never : neverShown content msg = true) : content.contractSeen = true := by
  rcases live.contract with ⟨-, empty⟩ | ⟨entry, single, read, from_entry, -⟩
  · rw [empty, neverShown_empty] at never
    simp at never
  · refine from_entry.seen ?_
    have among : entry ∈ (contractEntries (sessionRecords log)).filter bearsParameter := by
      simp [single]
    exact (List.mem_filter.mp among).2

/-- The rules of what is signed. -/
theorem signedRules (ok : sdk.sha256.Correct digest) : SessionRules sdk (SignedLive sdk)
    (fun _ hash log => HashOf digest hash log) (fun _ => HashesSession digest) where
  opens settings msg log := ⟨(contractRules sdk).opens settings msg log, .inl rfl⟩
  silent entry silent live :=
    { (contractRules sdk).silent entry silent live.toContractLive with
      hash := by rw [sessionPayloads_silent silent]; exact live.hash }
  metadata takes step live :=
    { (contractRules sdk).metadata takes step live.toContractLive with
      hash := by rw [neverShown_metadata step.change]; exact live.hash }
  chunk {settings context content msg log} payload {status content' msg'} isOpen live processed accepts := by
    refine ⟨(contractRules sdk).chunk payload isOpen live.toContractLive processed accepts, ?_⟩
    rw [sessionPayloads_processTx, StreamHash.absorb_snoc]
    refine live.hash.imp (fun absorbed => by rw [absorbed]) fun never => ?_
    rcases processTx_accepts processed accepts with rfl | ⟨rfl, rfl, rfl, rfl⟩
    · obtain ⟨qs, d, fee, seen, -, -, -, kept, again⟩ := live.contract.chunk live.fee processed
      obtain ⟨rfl, rfl⟩ := again (live.toContractLive.seen never)
      exact neverShown_reframe live.fee kept never
    · exact never
  thrown {s log} throws live := by
    have never := neverShown_of_renderThrows s.msg throws
    refine ⟨(contractRules sdk).thrown throws live.toContractLive, .inr ?_⟩
    rw [Session.finished, renderedContent_of_neverShown never]
    exact never
  review {s log r kind} live _ _ printable _ _ shown := by
    have hash := HashOf.of_live ok live printable
    exact ⟨fun _ => by rw [shown.hash_eq]; exact hash, hash.silent rfl⟩
  swapAccepted _ _ := trivial
  swapSigned path live renders := by
    obtain ⟨contacts, residue, sound⟩ := swapSound_of_renders renders
    exact fun _ => (HashOf.of_live ok live sound.printable).silent rfl
  signature path asked _ := asked
  plain settings entry log plain := by
    cases entry with
    | review | signature => simp [Effect.isPlain] at plain
    | _ => trivial
  other settings entry log notSign := by
    cases entry with
    | review | signature =>
      intro own
      rw [notSign] at own
      simp at own
    | _ => trivial

/-- A personal message writes the counter, and nothing else of the transaction. -/
theorem messageMove_transaction {s s' : Session σ κ} {c : Command} {news : List Effect}
    (moved : MessageMove sdk c s news s') : s'.settings = s.settings ∧ s'.txContext = s.txContext ∧
      s'.msg = s.msg ∧ ∃ d, s'.txContent =
        s.txContent.reframe d s.txContent.feeLimit s.txContent.feeLimitSeen := by
  cases moved with
  | refused | badOpening => exact ⟨rfl, rfl, rfl, _, rfl⟩
  | enters entry chunk =>
    cases chunk with
    | completes _ _ _ ends => cases ends <;> cases entry <;> exact ⟨rfl, rfl, rfl, _, rfl⟩
    | _ => cases entry <;> exact ⟨rfl, rfl, rfl, _, rfl⟩

theorem SessionContract.counter {rs : List Record} {content : TxContent} {msg : Msg}
    (contract : SessionContract rs content msg) (d : UInt64) :
    SessionContract rs (content.reframe d content.feeLimit content.feeLimitSeen) msg := by
  rcases contract with ⟨bare, empty⟩ | ⟨entry, single, read, from_entry, kept⟩
  · refine .none bare ?_
    rw [empty]
    rfl
  · exact .one entry single read (from_entry.reframe _ _ _) kept

/-- No guard is needed: the counter and the settings are no part of what is shown. -/
theorem contractLive_keeps (sdk : Sdk σ κ) (guard : World σ κ → Event → Bool) :
    GuardKeeps sdk ContractLive guard where
  message {w c news s'} _ _ moved _ live := by
    obtain ⟨settings, context, msg, d, content⟩ := messageMove_transaction moved
    simp only [LiveIn, settings, context, msg, content]
    exact ⟨live.framed, live.accepted, live.contract.counter d, live.fee⟩
  toggle _ _ live := ⟨live.framed, live.accepted, live.contract, live.fee⟩

theorem signedLive_keeps (sdk : Sdk σ κ) (guard : World σ κ → Event → Bool) :
    GuardKeeps sdk (SignedLive sdk) guard where
  message {w c news s'} ok own moved isOpen live := by
    have kept := (contractLive_keeps sdk guard).message ok own moved isOpen live.toContractLive
    obtain ⟨settings, context, msg, d, content⟩ := messageMove_transaction moved
    refine ⟨kept, ?_⟩
    rw [context, msg, content]
    exact live.hash
  toggle _ _ live := ⟨⟨live.framed, live.accepted, live.contract, live.fee⟩, live.hash⟩

/-- **In every run, INS_SIGN shows the contract of its session.** -/
theorem AppRun.showsSession {version : AppVersion} {b : Boot} {es : List Event} {w : World σ κ}
    {guard : World σ κ → Event → Bool} (run : AppRun sdk version guard b es w) :
    Always (fun entry older => ∃ settings, ShowsSession sdk settings entry older) w.trace :=
  ((contractRules sdk).run (contractLive_keeps sdk guard) run).2

/-- **What a step of INS_SIGN shows is the contract of its session, under its settings.** -/
theorem AppRun.stepShows {version : AppVersion} {b : Boot} {es : List Event} {w w' : World σ κ}
    {e : Event} {guard : World σ κ → Event → Bool} (run : AppRun sdk version guard b es w)
    (stepped : step sdk version w e = some w') :
    ∃ news, w'.trace = news ++ w.trace ∧
      AlwaysOver (ShowsSession sdk w.session.settings) news w.trace := by
  have free : AppRun sdk version anyStep b es w := run.weaken fun _ _ _ => rfl
  have inv := ((contractRules sdk).run (contractLive_keeps sdk anyStep) free).1
  obtain ⟨news, trace, -, atop⟩ :=
    (contractRules sdk).guarded (contractLive_keeps sdk anyStep) inv rfl stepped
  exact ⟨news, trace, atop⟩

end Rules

end TronLedger
