import TronLedger.SessionContract
import TronLedger.TokenDecimals

/-!
# The fee limit of a session

A chunk without a fee limit and a chunk whose fee limit is zero look the same to the parser:
both leave the limit an earlier chunk has set. The network reads the last limit, whatever it is.

* `networkFee` is what the network reads, `sessionFee` what the session stores.
* `networkFee_eq_iff` says when the two agree.
-/

namespace TronLedger

open Nanopb

/-- The fee limit of a chunk on its own. -/
def chunkFee (payload : Bytes) : Int64 := (recordsOf payload).foldl feeStep 0

/-- The fee limit stored behind a chunk. -/
def feeAfter (fee : Int64) (payload : Bytes) : Int64 :=
  if chunkFee payload = 0 then fee else chunkFee payload

/-- The fee limit stored behind the payloads: the last that is not zero. -/
def sessionFee (payloads : List Bytes) : Int64 := payloads.foldl feeAfter 0

/-- The fee limit the network reads: the last of the transaction. -/
def networkFee (log : List Effect) : Int64 := (sessionRecords log).foldl feeStep 0

section Folds

theorem foldl_feeStep (rs : List Record) (fee : Int64) :
    rs.foldl feeStep fee = rs.foldl feeStep 0 ∨
      (rs.foldl feeStep fee = fee ∧ rs.foldl feeStep 0 = 0) := by
  induction rs generalizing fee with
  | nil => exact .inr ⟨rfl, rfl⟩
  | cons r rs ih =>
    by_cases own : r.number = feeLimitTag
    · left
      simp only [List.foldl_cons, feeStep, own, if_true]
    · simp only [List.foldl_cons, feeStep, own, if_false]
      exact ih fee

theorem sessionFee_snoc (payloads : List Bytes) (payload : Bytes) :
    sessionFee (payloads ++ [payload]) = feeAfter (sessionFee payloads) payload := by
  rw [sessionFee, List.foldl_append]
  rfl

/-- The stored limit is zero only when that of every chunk is. -/
theorem sessionFee_zero (payloads : List Bytes) :
    sessionFee payloads = 0 ↔ ∀ payload ∈ payloads, chunkFee payload = 0 := by
  induction payloads using List.reverseRecOn with
  | nil => simp [sessionFee]
  | append_singleton payloads payload ih =>
    rw [sessionFee_snoc, feeAfter, List.forall_mem_append, List.forall_mem_singleton]
    split
    · rename_i zero
      rw [ih]
      exact ⟨fun all => ⟨all, zero⟩, And.left⟩
    · rename_i set
      exact ⟨fun zero => absurd zero set, fun all => absurd all.2 set⟩

/-- What the network and the session read differ only where the network reads a zero. -/
theorem networkFee_cases {payloads : List Bytes} {rss : List (List Record)}
    (framed : List.Forall₂ Framed payloads rss) {read stored : Int64} (before : read = stored ∨ read = 0) :
    rss.flatten.foldl feeStep read = payloads.foldl feeAfter stored ∨
      rss.flatten.foldl feeStep read = 0 := by
  induction framed generalizing read stored with
  | nil => exact before
  | cons own _ ih =>
    rename_i payload rs payloads rss _
    have chunk : chunkFee payload = rs.foldl feeStep 0 := by rw [chunkFee, recordsOf_eq own]
    rw [List.flatten_cons, List.foldl_append, List.foldl_cons]
    apply ih
    rw [feeAfter, chunk]
    rcases foldl_feeStep rs read with reset | ⟨kept, none⟩
    · rw [reset]
      split
      · rename_i zero
        exact .inr zero
      · exact .inl rfl
    · rw [kept, if_pos none]
      exact before

end Folds

/-- **The two agree unless the network reads a zero behind a chunk with another limit.** -/
theorem networkFee_eq_iff {log : List Effect} {rss : List (List Record)}
    (framed : List.Forall₂ Framed (sessionPayloads log) rss) :
    networkFee log = sessionFee (sessionPayloads log) ↔
      (networkFee log = 0 → ∀ payload ∈ sessionPayloads log, chunkFee payload = 0) := by
  have cases : networkFee log = sessionFee (sessionPayloads log) ∨ networkFee log = 0 := by
    rw [networkFee, sessionRecords_eq (framed_flatten framed)]
    exact networkFee_cases framed (.inl rfl)
  rw [← sessionFee_zero]
  constructor
  · intro same zero
    rw [← same, zero]
  · intro none
    rcases cases with same | zero
    · exact same
    · rw [zero, none zero]

section Chunks

variable {allowed : Bool} {payload : Bytes} {content content' : TxContent} {msg msg' : Msg}

theorem processContract_feeLimit (raw : TransactionRaw) (content : TxContent) (msg : Msg) :
    (processContract raw content msg).2.1.feeLimit = content.feeLimit := by
  have same : processContract raw (content.reframe content.dataBytes content.feeLimit
      content.feeLimitSeen) msg = _ := processContract_reframe raw content msg
  exact congrArg (fun out => out.2.1.feeLimit) same

theorem toUInt64_eq_zero {fee : Int64} : fee.toUInt64 = 0 ↔ fee = 0 := by
  constructor
  · intro zero
    have back := congrArg UInt64.toInt64 zero
    rwa [Int64.toInt64_toUInt64] at back
  · intro zero
    rw [zero]
    rfl

theorem applyFeeLimit_fee {applied : TxContent} {fee : Int64}
    (limit : content.applyFeeLimit fee.toUInt64 = some applied) :
    applied.feeLimit = if fee = 0 then content.feeLimit else fee.toUInt64 := by
  unfold TxContent.applyFeeLimit at limit
  split_ifs at limit with zero differs
  · obtain rfl := Option.some.inj limit
    rw [if_pos (toUInt64_eq_zero.mp zero)]
  · obtain rfl := Option.some.inj limit
    rw [if_neg fun none => zero (toUInt64_eq_zero.mpr none)]

/-- What an accepted chunk stores as the fee limit. -/
theorem processTx_fee (processed : processTx allowed payload content msg = (.processing, content', msg')) :
    content'.feeLimit =
      if chunkFee payload = 0 then content.feeLimit else (chunkFee payload).toUInt64 := by
  unfold processTx at processed
  split at processed
  · simp at processed
  split at processed
  · simp at processed
  rename_i raw decoded
  obtain ⟨rs, framed, -, rfl⟩ := pbDecode_raw decoded
  have limit : (rs.foldl rawAfter (.initial content.dataBytes)).feeLimit = chunkFee payload := by
    rw [foldl_feeLimit, chunkFee, recordsOf_eq framed]
    rfl
  dsimp only at processed
  split at processed
  · simp at processed
  rename_i applied fee
  split at processed
  · simp at processed
  have after := processContract_feeLimit (rs.foldl rawAfter (.initial content.dataBytes)) applied default
  rw [processed] at after
  rw [limit] at fee
  have stored := applyFeeLimit_fee fee
  exact after.trans stored

end Chunks

section Rules

variable {σ κ : Type}

/-- What holds of the fee limit of an open session. -/
structure FeeLive (_ : Settings) (_ : TxContext σ) (content : TxContent) (_ : Msg)
    (log : List Effect) : Prop where
  framed : ∃ rss, List.Forall₂ Framed (sessionPayloads log) rss
  fee : content.feeLimit = (sessionFee (sessionPayloads log)).toUInt64
  bounded : content.DecimalsBounded

/-- A review of INS_SIGN has the fee limit of its session. -/
def FeeEntry : Effect → List Effect → Prop
  | .review r, older => (lastCommand older).any Command.isSign = true →
    (∃ rss, List.Forall₂ Framed (sessionPayloads older) rss) ∧
      r.content.feeLimit = (sessionFee (sessionPayloads older)).toUInt64 ∧ r.content.DecimalsBounded
  | _, _ => True

theorem renderedContent_fee (content : TxContent) :
    (renderedContent content).feeLimit = content.feeLimit ∧
      (renderedContent content).decimals = content.decimals := by
  unfold renderedContent
  split <;> exact ⟨rfl, rfl⟩

theorem FeeLive.rendered {settings : Settings} {context : TxContext σ} {content : TxContent} {msg : Msg}
    {log : List Effect} (live : FeeLive settings context content msg log) (context' : TxContext σ) :
    FeeLive settings context' (renderedContent content) msg log := by
  obtain ⟨fee, decimals⟩ := renderedContent_fee content
  refine ⟨live.framed, fee.trans live.fee, ?_⟩
  unfold TxContent.DecimalsBounded
  rw [decimals]
  exact live.bounded

/-- The rules of the fee limit. -/
theorem feeRules (sdk : Sdk σ κ) : SessionRules sdk FeeLive (fun _ _ _ => True) (fun _ => FeeEntry) where
  opens _ _ _ := ⟨⟨[], .nil⟩, rfl, by unfold TxContent.DecimalsBounded; decide⟩
  silent entry silent live := by
    refine ⟨?_, ?_, live.bounded⟩
    · rw [sessionPayloads_silent silent]
      exact live.framed
    · rw [sessionPayloads_silent silent]
      exact live.fee
  metadata _ step live := by
    refine ⟨live.framed, ?_, step.bounded live.bounded⟩
    have change := step.change
    unfold MetadataChange at change
    rw [change]
    exact live.fee
  chunk payload status content' msg' _ live processed accepts := by
    obtain ⟨rss, framed⟩ := live.framed
    rcases processTx_accepts processed accepts with rfl | ⟨rfl, rfl, rfl, rfl⟩
    · obtain ⟨rs, -, -, more, -⟩ := processTx_processing processed
      refine ⟨⟨_, (sessionRecords_chunk framed more).1⟩, ?_,
        (processTx_decimals processed).bounded live.bounded⟩
      rw [sessionPayloads_processTx, sessionFee_snoc, feeAfter, processTx_fee processed, live.fee]
      split <;> rfl
    · refine ⟨⟨_, (sessionRecords_chunk framed .nil).1⟩, ?_, live.bounded⟩
      rw [sessionPayloads_processTx, sessionFee_snoc]
      exact live.fee
  thrown _ live := live.rendered _
  review {s log r kind} live _ _ _ _ _ shown := by
    refine ⟨fun _ => ?_, trivial⟩
    have after := live.rendered s.txContext
    rw [shown.content_eq]
    exact ⟨after.framed, after.fee, after.bounded⟩
  swapAccepted _ _ := trivial
  swapSigned _ _ _ := trivial
  signature _ _ := trivial
  plain settings entry log plain := by
    cases entry with
    | review => simp [Effect.isPlain] at plain
    | _ => trivial
  other settings entry log notSign := by
    cases entry with
    | review =>
      intro own
      rw [notSign] at own
      simp at own
    | _ => trivial

theorem feeLive_keeps (sdk : Sdk σ κ) (guard : World σ κ → Event → Bool) :
    GuardKeeps sdk FeeLive guard where
  message {w c news s'} _ _ moved _ live := by
    obtain ⟨settings, context, msg, d, content⟩ := messageMove_transaction moved
    simp only [LiveIn, settings, context, msg, content]
    exact ⟨live.framed, live.fee, live.bounded⟩
  toggle _ _ live := ⟨live.framed, live.fee, live.bounded⟩

/-- **In every step, a review of INS_SIGN has the fee limit of its session, and decimals that can
be shown.** -/
theorem AppRun.feeShown {sdk : Sdk σ κ} {version : AppVersion} {b : Boot} {es : List Event}
    {w w' : World σ κ} {e : Event} {guard : World σ κ → Event → Bool}
    (run : AppRun sdk version guard b es w) (stepped : step sdk version w e = some w') :
    ∃ news, w'.trace = news ++ w.trace ∧ AlwaysOver FeeEntry news w.trace := by
  have inv := ((feeRules sdk).run (feeLive_keeps sdk guard) run).1
  obtain ⟨news, trace, -, atop⟩ :=
    (feeRules sdk).guarded (feeLive_keeps sdk anyStep) inv rfl stepped
  exact ⟨news, trace, atop⟩

end Rules

end TronLedger
