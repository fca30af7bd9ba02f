import TronLedger.SessionContract

/-!
# What is hashed is what is parsed and shown

* `SignedAsShown` is the claim about an entry of the log, `what_is_signed` the theorem.
* A metadata APDU hashes and parses nothing but the empty payload.
-/

namespace TronLedger

open Nanopb

/-- `content`, with `msg`, is decoded from a contract entry of one of the payloads; metadata
has given names to its tokens, and other payloads have set the data size and the fee limit. -/
def DecodedFrom (payloads : List Bytes) (content : TxContent) (msg : Msg) : Prop :=
  ∃ payload ∈ payloads, ∃ rs, Framed payload rs ∧ ∃ entry ∈ rs, bearsParameter entry = true ∧
    ∃ read, ReadFrom entry content read ∧
      (content.contractType = .accountPermissionUpdate → msg = read)

/-- The hash shown and signed is the digest of the payloads of the session, all accepted, and
the contract is decoded from one of them. -/
def SignedAsShown (digest : Bytes → Buf 32) : Effect → List Effect → Prop
  | .review r, older => (lastCommand older).any Command.isSign = true →
    HashOf digest r.hash older ∧ ∃ content, r.content = renderedContent content ∧
      DecodedFrom (sessionPayloads older) content r.msg
  | .swapAccepted shown _, older => (lastCommand older).any Command.isSign = true →
    ∃ content msg, shown = renderedContent content ∧
      DecodedFrom (sessionPayloads older) content msg
  | .signature _ hash, older => (lastCommand older).any Command.isSign = true →
    HashOf digest hash older
  | _, _ => True

/-- An APDU of INS_SIGN that carries token or exchange metadata. -/
def Command.isMetadata (c : Command) : Bool :=
  c.isSign ∧ !c.isOpener ∧ c.p1 &&& 0xF0 = P1.trc10Name

/-- The entry hashes and parses no byte. -/
def Effect.bare : Effect → Bool
  | .hashTx payload | .processTx payload _ => payload = []
  | _ => true

section

variable {σ κ : Type} {sdk : Sdk σ κ} {version : AppVersion} {digest : Bytes → Buf 32}
  {guard : World σ κ → Event → Bool} {c : Command} {s s' : Session σ κ} {news log : List Effect}

theorem ContractOf.decodedFrom {content : TxContent} {msg : Msg} (shown : ContractOf log content msg) :
    DecodedFrom (sessionPayloads log) content msg := by
  obtain ⟨rss, framed⟩ := shown.framed
  obtain ⟨entry, read, single, from_entry, permission⟩ := shown.entry
  have among : entry ∈ (contractEntries (sessionRecords log)).filter bearsParameter := by
    simp [single]
  obtain ⟨entries, bears⟩ := List.mem_filter.mp among
  obtain ⟨payload, sent, rs, framed, found⟩ :=
    mem_sessionRecords framed (List.mem_filter.mp entries).1
  exact ⟨payload, sent, rs, framed, entry, found, bears, read, from_entry, permission⟩

theorem signedAsShown {settings : Settings} {entry : Effect}
    (shows : ShowsSession sdk settings entry log) (hashes : HashesSession digest entry log) :
    SignedAsShown digest entry log := by
  cases entry with
  | review r =>
    intro own
    obtain ⟨s, -, -, contract, -, shown⟩ := shows own
    refine ⟨hashes own, s.txContent, shown.content_eq, ?_⟩
    rw [shown.msg_eq]
    exact contract.decodedFrom
  | swapAccepted content ui =>
    intro own
    obtain ⟨s, -, contract, -, rfl⟩ := shows own
    exact ⟨s.txContent, s.msg, rfl, contract.decodedFrom⟩
  | signature => exact hashes
  | _ => trivial

/-- What finishing a transaction leaves of `txContent`. -/
theorem signEnd_content (ends : SignEnd sdk s news s') :
    s'.txContent = renderedContent s.txContent ∨ s'.txContent = .empty := by
  cases ends with
  | thrown | reviewing => exact .inl rfl
  | refused | swapSigned | swapFailed => exact .inr rfl

theorem signEnd_bare (ends : SignEnd sdk s news s') : ∀ entry ∈ news, entry.bare = true := by
  cases ends <;> simp [Effect.bare]

/-- Behind metadata there is nothing to parse: the transaction is finished. -/
theorem signParse_nil (parse : SignParse sdk c [] s news s') :
    (∀ entry ∈ news, entry.bare = true) ∧
      (s'.txContent = renderedContent s.txContent ∨ s'.txContent = .empty) := by
  have finished : s.parseStatus [] = .finished := rfl
  cases parse with
  | acknowledged status => simp [finished] at status
  | faulted sw bad status => simp [finished] at status
  | finalises status ends =>
    refine ⟨fun entry among => ?_, signEnd_content ends⟩
    rcases List.mem_append.mp among with among | among
    · exact signEnd_bare ends entry among
    · rw [List.mem_singleton.mp among]
      rfl

theorem signChunk_nil (chunk : SignChunk sdk c [] s news s') :
    (∀ entry ∈ news, entry.bare = true) ∧ (s'.txContent = s.txContent ∨
      s'.txContent = renderedContent s.txContent ∨ s'.txContent = .empty) := by
  cases chunk with
  | closed => exact ⟨by simp [Effect.bare], .inl rfl⟩
  | exits => exact ⟨by simp [Effect.bare], .inl rfl⟩
  | parses _ _ parse =>
    obtain ⟨bare, content⟩ := signParse_nil parse
    refine ⟨fun entry among => ?_, .inr content⟩
    rcases List.mem_append.mp among with among | among
    · exact bare entry among
    · rw [List.mem_singleton.mp among]
      rfl
  | swapParses _ _ _ parse =>
    obtain ⟨bare, content⟩ := signParse_nil parse
    refine ⟨fun entry among => ?_, .inr content⟩
    rcases List.mem_append.mp among with among | among
    · exact bare entry among
    · simp only [List.mem_cons, List.not_mem_nil, or_false] at among
      rcases among with rfl | rfl <;> rfl

theorem renderedContent_metadata {content : TxContent}
    (takes : content.contractType.takesMetadata = true) : renderedContent content = content := by
  unfold renderedContent
  split
  · rename_i vote
    simp [vote, ContractType.takesMetadata] at takes
  · rfl

/-- A metadata APDU hashes and parses nothing, and names tokens at most. -/
theorem signMove_metadata (name : c.isMetadata = true) (moved : SignMove sdk c s news s') :
    (∀ entry ∈ news, entry.bare = true) ∧
      (MetadataChange s.txContent s'.txContent ∨ s'.txContent = .empty) := by
  simp only [Command.isMetadata, Bool.not_eq_true', decide_eq_true_eq] at name
  cases moved with
  | early sw content answered change fixed => exact ⟨by simp [Effect.bare], .inl change.change⟩
  | enters entered entry chunk =>
    cases entry with
    | opens n opener => simp [name.2.1] at opener
    | continues p1 =>
      have other : c.p1 &&& 0xF0 ≠ P1.trc10Name := by
        rcases p1 with p1 | p1 <;> rw [p1] <;> decide
      exact absurd name.2.2 other
    | metadata _ _ type =>
      obtain ⟨bare, content⟩ := signChunk_nil chunk
      have change := (metadataContent_step sdk s.txContent c).change
      have takes : (metadataContent sdk s.txContent c).contractType.takesMetadata = true := by
        rw [change.contractType]
        exact type
      refine ⟨by simpa using bare, ?_⟩
      rw [renderedContent_metadata takes] at content
      rcases content with same | same | same
      · exact .inl (same ▸ change)
      · exact .inl (same ▸ change)
      · exact .inr same

/-- **In every run, what is shown and signed is the digest of the payloads that were parsed,
and the contract decoded from one of them; metadata is never hashed, and names tokens at
most.** -/
theorem what_is_signed (ok : sdk.sha256.Correct digest) {b : Boot} {es : List Event} {w : World σ κ}
    (run : AppRun sdk version anyStep b es w) :
    Always (SignedAsShown digest) w.trace ∧
      ∀ c w', step sdk version w (.apdu c) = some w' → c.isMetadata = true →
        ∃ news, w'.trace = news ++ w.trace ∧ (∀ entry ∈ news, entry.bare = true) ∧
          (MetadataChange w.app.txContent w'.app.txContent ∨ w'.app.txContent = .empty) := by
  refine ⟨?_, fun c w' stepped name => ?_⟩
  · have hashes := ((signedRules ok).run (signedLive_keeps sdk anyStep) run).2
    refine (run.showsSession.and hashes).mono fun entry older both => ?_
    obtain ⟨⟨settings, shows⟩, _, hashes⟩ := both
    exact signedAsShown shows hashes
  · obtain ⟨-, news, trace, moved⟩ := step_moves sdk version w stepped
    have own : c.isSign = true := by
      simp only [Command.isMetadata, decide_eq_true_eq] at name
      exact name.1
    cases moved with
    | apdu _ idle moved =>
      cases moved with
      | sign _ moved =>
        obtain ⟨bare, content⟩ := signMove_metadata name moved
        refine ⟨_, trace, fun entry among => ?_, content⟩
        rcases List.mem_append.mp among with among | among
        · exact bare entry among
        · rw [List.mem_singleton.mp among]
          rfl
      | message message => simp [isSign_not_isMessage own] at message
      | other notSign => simp [own] at notSign

end

/-- A transfer is shown under the digest of its payload. -/
theorem what_is_signed_transfer : ∃ w, AppRun device deviceVersion anyStep deviceBoot
    [command Ins.sign P1.sign 0 (pathBytes 0 ++ sampleTransfer)] w ∧
      w.trace ≠ [] ∧ Always (SignedAsShown Sha256.hash) w.trace := by
  obtain ⟨w, r, older, run, trace, -⟩ := exists_review anyStep
    [command Ins.sign P1.sign 0 (pathBytes 0 ++ sampleTransfer)] (fun _ _ => true) (by decide +kernel)
  exact ⟨w, run, by simp [trace], (what_is_signed device_sha256 run).1⟩

end TronLedger
