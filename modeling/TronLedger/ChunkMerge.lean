import TronLedger.ProcessSteps

/-!
# Two chunks are one

What `processTx` makes of the records of two chunks, one after the other, and of both at once,
when no field of the transaction occurs twice.

* `chunkRead` is `processTx` on the records of a chunk, `none` unless it goes on.
* `chunkRead_append`: the content is the same; the message is the one of the last chunk, so that of
  a contract before it is lost.
-/

namespace TronLedger

open Nanopb

/-- No field of the transaction occurs twice. -/
def Once (rs : List Record) : Prop := (rs.map (·.number)).Nodup

instance (rs : List Record) : Decidable (Once rs) :=
  inferInstanceAs (Decidable (rs.map (·.number)).Nodup)

/-- A record that is the first of its field can be decoded. -/
def Readable (r : Record) : Bool := recordReads (.initial 0) r

/-- The size of the custom data behind the records. -/
def dataAfter (content : TxContent) (rs : List Record) : UInt64 := rs.foldl dataStep content.dataBytes

/-- The fee limit of a chunk, 0 without one. -/
def limitSet (rs : List Record) : UInt64 := (rs.foldl feeStep 0).toUInt64

/-- The contract with the parameter captured from it. -/
def TransactionRaw.entry (raw : TransactionRaw) : TransactionContract × ContractBuffer :=
  (raw.contract, raw.contractBuffer)

/-- The contract of a chunk, empty without one. -/
def chunkContract (rs : List Record) : TransactionContract × ContractBuffer :=
  (rs.foldl rawAfter (.initial 0)).entry

/-- What goes on after a call of `processTx`. -/
def keptOf : ParserStatus × TxContent × Msg → Option (TxContent × Msg)
  | (.processing, content, msg) => some (content, msg)
  | _ => none

/-- The fee limit that is kept, `none` when the chunk contradicts it. -/
def limitAfter (kept : UInt64 × Bool) (fee : UInt64) : Option (UInt64 × Bool) :=
  if fee = 0 then some kept
  else if kept.2 ∧ kept.1 ≠ fee then none
  else some (fee, true)

/-- The contract of a chunk, read into `content`. -/
def contractStep (rs : List Record) (content : TxContent) : Option (TxContent × Msg) :=
  keptOf (processContract (contractRaw (chunkContract rs)) content default)

/-- `processTx` on the records of a chunk. -/
def chunkRead (allowed : Bool) (rs : List Record) (content : TxContent) : Option (TxContent × Msg) :=
  if rs.all Readable ∧ (allowed = true ∨ dataAfter content rs = 0) then
    (limitAfter (content.feeLimit, content.feeLimitSeen) (limitSet rs)).bind fun fee =>
      (contractStep rs content).map fun read => (read.1.reframe (dataAfter content rs) fee.1 fee.2, read.2)
  else none

section Records

variable {r : Record} {rs qs : List Record} {raw : TransactionRaw}

theorem Once.left (once : Once (rs ++ qs)) : Once rs := by
  unfold Once at once ⊢
  rw [List.map_append, List.nodup_append] at once
  exact once.1

theorem Once.right (once : Once (rs ++ qs)) : Once qs := by
  unfold Once at once ⊢
  rw [List.map_append, List.nodup_append] at once
  exact once.2.1

/-- A field of one part does not occur in the other. -/
theorem Once.apart (once : Once (rs ++ qs)) {a b : Record} (left : a ∈ rs) (right : b ∈ qs) :
    a.number ≠ b.number := by
  unfold Once at once
  rw [List.map_append, List.nodup_append] at once
  exact once.2.2 _ (List.mem_map_of_mem left) _ (List.mem_map_of_mem right)

/-- A field lies in one of the parts. -/
theorem Once.lacks (once : Once (rs ++ qs)) (tag : Nat) :
    (∀ r ∈ rs, r.number ≠ tag) ∨ ∀ q ∈ qs, q.number ≠ tag := by
  by_contra both
  push Not at both
  obtain ⟨⟨r, left, isTag⟩, q, right, isTag'⟩ := both
  exact once.apart left right (isTag.trans isTag'.symm)

theorem contractEntries_nil (none : ∀ r ∈ rs, r.number ≠ contractTag) : contractEntries rs = [] := by
  simpa [contractEntries, List.filter_eq_nil_iff] using none

/-- Where no field occurs twice, a chunk is decoded when each of its records can be. -/
theorem decodeRecords_once (once : Once rs) (fresh : raw.Fresh)
    (unread : raw.contractCount ≠ 0 → ∀ r ∈ rs, r.number ≠ contractTag) :
    (decodeRecords TransactionRaw.fields .caller rs raw).1 = rs.all Readable := by
  induction rs generalizing raw with
  | nil => rfl
  | cons r rs ih =>
    obtain ⟨ok, after⟩ := applyRecord_raw r fresh
    have same : recordReads raw r = Readable r := by
      by_cases contract : r.number = contractTag
      · have first : raw.contractCount = 0 := by
          by_contra full
          exact unread full r List.mem_cons_self contract
        simp [Readable, recordReads_contract contract, first, TransactionRaw.initial]
      · simp only [Readable, recordReads, if_neg contract]
    rw [same] at ok after
    simp only [decodeRecords, List.all_cons]
    cases applied : applyRecord TransactionRaw.fields .caller r raw with
    | mk done next =>
      rw [applied] at ok after
      obtain rfl : done = Readable r := ok
      cases readable : Readable r with
      | false => rfl
      | true =>
        obtain rfl : next = rawAfter raw r := after readable
        rw [Bool.true_and]
        refine ih (List.nodup_cons.mp once).2 (fresh.after r) fun full q among same => ?_
        by_cases contract : r.number = contractTag
        · apply (List.nodup_cons.mp once).1
          exact List.mem_map.mpr ⟨q, among, same.trans contract.symm⟩
        · rw [rawAfter] at full
          exact unread (by simpa [contract] using full) q (List.mem_cons_of_mem _ among) same

/-- The contract behind the records depends on the contract before them only. -/
theorem foldl_entry (rs : List Record) {raw raw' : TransactionRaw} (same : raw.entry = raw'.entry) :
    (rs.foldl rawAfter raw).entry = (rs.foldl rawAfter raw').entry := by
  induction rs generalizing raw raw' with
  | nil => exact same
  | cons r rs ih =>
    obtain ⟨contract, buffer⟩ := Prod.mk.inj same
    apply ih
    simp only [TransactionRaw.entry, rawAfter, contract, buffer]

/-- Records that are no contract leave it. -/
theorem foldl_entry_none (none : contractEntries rs = []) (raw : TransactionRaw) :
    (rs.foldl rawAfter raw).entry = raw.entry := by
  induction rs generalizing raw with
  | nil => rfl
  | cons r rs ih =>
    have other : r.number ≠ contractTag := by
      intro same
      simp [contractEntries, same] at none
    rw [List.foldl_cons, ih (by simpa [contractEntries, other] using none)]
    simp only [TransactionRaw.entry, rawAfter, if_neg other]

/-- A chunk without a contract entry goes on with an empty message. -/
theorem contractStep_none (none : contractEntries rs = []) (content : TxContent) :
    contractStep rs content = some (content, default) := by
  have empty : chunkContract rs = (TransactionRaw.initial 0).entry := foldl_entry_none none _
  have parameter : (contractRaw (chunkContract rs)).contract.hasParameter = false := by
    rw [empty]
    rfl
  rw [contractStep, processContract_bare parameter, keptOf]

/-- The contract is read the same whatever `reframe` sets. -/
theorem contractStep_reframe (rs : List Record) (content : TxContent) (d f : UInt64) (seen : Bool) :
    contractStep rs (content.reframe d f seen) =
      (contractStep rs content).map fun read => (read.1.reframe d f seen, read.2) := by
  rw [contractStep, contractStep, processContract_reframe]
  obtain ⟨status, read, msg⟩ := processContract (contractRaw (chunkContract rs)) content default
  cases status <;> rfl

/-- The contract of two chunks, read at once or in turn. -/
theorem contractStep_append (once : Once (rs ++ qs)) (content : TxContent) :
    contractStep (rs ++ qs) content =
      (contractStep rs content).bind fun read => (contractStep qs read.1).map fun read' =>
        (read'.1, if contractEntries qs = [] then read.2 else read'.2) := by
  rcases once.lacks contractTag with none | none <;> replace none := contractEntries_nil none
  · have same : chunkContract (rs ++ qs) = chunkContract qs := by
      rw [chunkContract, List.foldl_append]
      exact foldl_entry qs (foldl_entry_none none _)
    rw [contractStep, same, ← contractStep, contractStep_none none, Option.bind_some]
    dsimp only
    cases read : contractStep qs content with
    | none => rfl
    | some found =>
      by_cases bare : contractEntries qs = []
      · rw [contractStep_none bare] at read
        obtain rfl := Option.some.inj read
        rw [Option.map_some, if_pos bare]
      · rw [Option.map_some, if_neg bare]
  · have same : chunkContract (rs ++ qs) = chunkContract rs := by
      rw [chunkContract, List.foldl_append]
      exact foldl_entry_none none _
    rw [contractStep, same, ← contractStep]
    cases contractStep rs content with
    | none => rfl
    | some found => rw [Option.bind_some, contractStep_none none, Option.map_some, if_pos none]

/-- Records that change nothing. -/
theorem foldl_kept {S : Type} {step : S → Record → S} (kept : ∀ r ∈ rs, ∀ s, step s r = s) (s : S) :
    rs.foldl step s = s := by
  rw [List.foldl_ext step (fun s _ => s) s fun s r among => kept r among s, List.foldl_fixed]

theorem foldl_feeStep_none (none : ∀ r ∈ rs, r.number ≠ feeLimitTag) (fee : Int64) :
    rs.foldl feeStep fee = fee :=
  foldl_kept (fun r among _ => if_neg (none r among)) fee

theorem foldl_dataStep_none (none : ∀ r ∈ rs, r.number ≠ customDataTag) (size : UInt64) :
    rs.foldl dataStep size = size :=
  foldl_kept (fun r among _ => if_neg (none r among)) size

/-- The fee limit of two chunks, kept at once or in turn. -/
theorem limitAfter_append (once : Once (rs ++ qs)) (kept : UInt64 × Bool) :
    limitAfter kept (limitSet (rs ++ qs)) =
      (limitAfter kept (limitSet rs)).bind fun fee => limitAfter fee (limitSet qs) := by
  have whole : limitSet (rs ++ qs) = (qs.foldl feeStep (rs.foldl feeStep 0)).toUInt64 := by
    rw [limitSet, List.foldl_append]
  rcases once.lacks feeLimitTag with none | none
  · have zero : limitSet rs = 0 := by rw [limitSet, foldl_feeStep_none none]; rfl
    rw [whole, foldl_feeStep_none none, zero]
    rfl
  · have zero : limitSet qs = 0 := by rw [limitSet, foldl_feeStep_none none]; rfl
    rw [whole, foldl_feeStep_none none, zero, ← limitSet]
    cases limitAfter kept (limitSet rs) <;> rfl

theorem dataAfter_append (content : TxContent) (rs qs : List Record) :
    dataAfter content (rs ++ qs) = qs.foldl dataStep (dataAfter content rs) := List.foldl_append

/-- A transaction that passes the gate as a whole passes it at every chunk. -/
theorem gate_left {allowed : Bool} {content : TxContent} (once : Once (rs ++ qs))
    (before : allowed = true ∨ content.dataBytes = 0)
    (whole : allowed = true ∨ dataAfter content (rs ++ qs) = 0) :
    allowed = true ∨ dataAfter content rs = 0 := by
  rw [dataAfter_append] at whole
  rcases once.lacks customDataTag with none | none
  · rwa [dataAfter, foldl_dataStep_none none]
  · rwa [foldl_dataStep_none none] at whole

/-- **Two chunks are read as one**, but for the message of a contract in the first. -/
theorem chunkRead_append {allowed : Bool} {content : TxContent} (once : Once (rs ++ qs))
    (before : allowed = true ∨ content.dataBytes = 0) :
    chunkRead allowed (rs ++ qs) content =
      (chunkRead allowed rs content).bind fun read => (chunkRead allowed qs read.1).map fun read' =>
        (read'.1, if contractEntries qs = [] then read.2 else read'.2) := by
  by_cases left : rs.all Readable ∧ (allowed = true ∨ dataAfter content rs = 0)
  · have reads : (rs ++ qs).all Readable = qs.all Readable := by
      rw [List.all_append, left.1, Bool.true_and]
    rw [chunkRead, chunkRead, if_pos left, limitAfter_append once, contractStep_append once, reads,
      dataAfter_append]
    cases limitAfter (content.feeLimit, content.feeLimitSeen) (limitSet rs) with
    | none => simp
    | some fee =>
      cases contractStep rs content with
      | none => simp
      | some read =>
        have data : dataAfter (read.1.reframe (dataAfter content rs) fee.1 fee.2) qs =
          qs.foldl dataStep (dataAfter content rs) := rfl
        have kept : ((read.1.reframe (dataAfter content rs) fee.1 fee.2).feeLimit,
          (read.1.reframe (dataAfter content rs) fee.1 fee.2).feeLimitSeen) = fee := rfl
        simp only [Option.bind_some, Option.map_some]
        rw [chunkRead, contractStep_reframe, data, kept]
        by_cases right : qs.all Readable ∧ (allowed = true ∨ qs.foldl dataStep (dataAfter content rs) = 0)
        · rw [if_pos right, if_pos right]
          cases limitAfter fee (limitSet qs) with
          | none => rfl
          | some fee' => cases contractStep qs read.1 <;> rfl
        · rw [if_neg right, if_neg right, Option.map_none]
  · have whole : ¬((rs ++ qs).all Readable ∧ (allowed = true ∨ dataAfter content (rs ++ qs) = 0)) := by
      rintro ⟨reads, gate⟩
      rw [List.all_append, Bool.and_eq_true] at reads
      exact left ⟨reads.1, gate_left once before gate⟩
    rw [chunkRead, chunkRead, if_neg whole, if_neg left, Option.bind_none]

end Records

section Chunks

variable {allowed : Bool} {payload : Bytes} {rs : List Record} {content : TxContent} {msg : Msg}

theorem framed_filled (framed : Framed payload rs) (filled : rs ≠ []) : payload.length ≠ 0 := by
  cases framed with
  | nil => exact absurd rfl filled
  | cons read more =>
    have shorter := readRecord_shortens read
    omega

theorem applyFeeLimit_eq (content : TxContent) (size fee : UInt64) :
    ({ content with dataBytes := size } : TxContent).applyFeeLimit fee =
      (limitAfter (content.feeLimit, content.feeLimitSeen) fee).map fun kept =>
        content.reframe size kept.1 kept.2 := by
  unfold TxContent.applyFeeLimit limitAfter
  dsimp only
  split_ifs <;> rfl

/-- **`processTx` reads the records of a chunk.** -/
theorem processTx_chunk (framed : Framed payload rs) (filled : rs ≠ []) (once : Once rs) :
    keptOf (processTx allowed payload content msg) = chunkRead allowed rs content := by
  have whole := decodeRecords_once once (.initial content.dataBytes) fun full => absurd rfl full
  rw [processTx, if_neg (framed_filled framed filled), pbIstreamFromBuffer,
    pbDecode_framed transactionRaw_local framed]
  cases decoded : decodeRecords TransactionRaw.fields .caller rs (.initial content.dataBytes) with
  | mk done raw =>
    obtain rfl : done = rs.all Readable := by rw [← whole, decoded]
    cases readable : rs.all Readable with
    | false => simp [keptOf, chunkRead, readable]
    | true =>
      rw [readable] at decoded
      obtain rfl := decodeRecords_raw (.initial content.dataBytes) decoded
      have data : (rs.foldl rawAfter (.initial content.dataBytes)).dataBytes = dataAfter content rs :=
        foldl_dataBytes rs
      have fee : (rs.foldl rawAfter (.initial content.dataBytes)).feeLimit.toUInt64 = limitSet rs := by
        rw [foldl_feeLimit]
        rfl
      have contract : (rs.foldl rawAfter (.initial content.dataBytes)).entry = chunkContract rs :=
        foldl_entry rs rfl
      simp only [if_true, data, fee, applyFeeLimit_eq]
      cases kept : limitAfter (content.feeLimit, content.feeLimitSeen) (limitSet rs) with
      | none => simp [keptOf, chunkRead, kept]
      | some limit =>
        have size : (content.reframe (dataAfter content rs) limit.1 limit.2).dataBytes = dataAfter content rs := rfl
        simp only [Option.map_some, size]
        by_cases gate : allowed = true ∨ dataAfter content rs = 0
        · have passes : ¬((!allowed) = true ∧ dataAfter content rs ≠ 0) := by
            rcases gate with allowed | none
            · simp [allowed]
            · simp [none]
          rw [if_neg passes, chunkRead, if_pos ⟨readable, gate⟩, kept, Option.bind_some,
            ← contractStep_reframe, contractStep, ← contract]
          rfl
        · have stops : (!allowed) = true ∧ dataAfter content rs ≠ 0 := by simpa using gate
          rw [if_pos stops, chunkRead, if_neg fun both => gate both.2, keptOf]
          exact fun _ _ => by simp

variable {read : TxContent × Msg}

theorem chunkRead_gate (done : chunkRead allowed rs content = some read) :
    allowed = true ∨ read.1.dataBytes = 0 := by
  unfold chunkRead at done
  split at done
  · rename_i passes
    simp only [Option.bind_eq_some_iff, Option.map_eq_some_iff] at done
    obtain ⟨_, _, _, _, rfl⟩ := done
    exact passes.2
  · simp at done

theorem chunkRead_contract (done : chunkRead allowed rs content = some read) :
    ∃ read', contractStep rs content = some read' ∧ read.2 = read'.2 ∧
      read.1.contractType = read'.1.contractType := by
  unfold chunkRead at done
  split at done
  · simp only [Option.bind_eq_some_iff, Option.map_eq_some_iff] at done
    obtain ⟨_, _, read', found, rfl⟩ := done
    exact ⟨read', found, rfl, rfl⟩
  · simp at done

/-- A chunk without a contract leaves an empty message. -/
theorem chunkRead_none (done : chunkRead allowed rs content = some read) (none : contractEntries rs = []) :
    read.2 = default := by
  obtain ⟨read', found, msg, -⟩ := chunkRead_contract done
  rw [contractStep_none none, Option.some.injEq] at found
  rw [msg, ← found]

/-- Only a permission update leaves one that is not. -/
theorem chunkRead_plain (done : chunkRead allowed rs content = some read)
    (plain : read.1.contractType ≠ .accountPermissionUpdate) : read.2 = default := by
  obtain ⟨read', found, msg, type⟩ := chunkRead_contract done
  rw [type] at plain
  rw [msg]
  unfold contractStep keptOf at found
  split at found
  · rename_i stored stored_msg processed
    obtain rfl := Option.some.inj found
    by_cases bears : (contractRaw (chunkContract rs)).contract.hasParameter = true
    · obtain ⟨parameter, -, -, -, reads⟩ := processContract_reads bears processed
      have same := readByType_contractType (contractRaw (chunkContract rs)).contract.type
        (content.typed (contractRaw (chunkContract rs)).contract) (pbIstreamFromBuffer parameter) default
      rw [reads] at same
      have other : ContractType.ofCode (contractRaw (chunkContract rs)).contract.type ≠
        .accountPermissionUpdate := fun update => plain (same.trans update)
      unfold readByType at reads
      rw [if_neg other] at reads
      split at reads
      · simp at reads
      · exact (Prod.mk.inj (Prod.mk.inj reads).2).2.symm
    · rw [processContract_bare (by simpa using bears)] at processed
      exact (Prod.mk.inj (Prod.mk.inj processed).2).2.symm
  · simp at found

end Chunks

end TronLedger
