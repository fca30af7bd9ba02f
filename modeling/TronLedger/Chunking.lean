import TronLedger.ChunkMerge
import TronLedger.PathGrammar
import TronLedger.PermissionReview

/-!
# A transaction in chunks

A transaction is cut at the boundaries of its fields and sent in as many APDUs of INS_SIGN. What
the user is asked to sign is compared with what one APDU with the whole transaction asks.

* A `Cut` is a transaction no field of which occurs twice, in two or more chunks.
* `chunked_iff`: the two agree but for a permission update that is not in the last chunk. Its
  message is cleared with the chunk behind it.
-/

namespace TronLedger

open Nanopb

/-- One or more whole fields. -/
structure Chunk where
  payload : Bytes
  fields : List Record
  framed : Framed payload fields
  filled : fields ≠ []

def Chunk.append (a b : Chunk) : Chunk where
  payload := a.payload ++ b.payload
  fields := a.fields ++ b.fields
  framed := a.framed.append b.framed
  filled := List.append_ne_nil_of_left_ne_nil a.filled _

/-- The chunks as one. -/
def joined : List Chunk → Chunk → Chunk
  | [], last => last
  | chunk :: chunks, last => chunk.append (joined chunks last)

/-- A transaction cut into the chunks of `P1_FIRST`, `P1_MORE` and `P1_LAST`. -/
structure Cut where
  first : Chunk
  between : List Chunk
  last : Chunk
  once : Once (joined (first :: between) last).fields

def Cut.whole (cut : Cut) : Chunk := joined (cut.first :: cut.between) cut.last

/-- The fields before the last chunk. -/
def Cut.early (cut : Cut) : List Record := (cut.first :: cut.between).flatMap Chunk.fields

/-- The display buffers, but for the permission entries, which are filled from `msg`. -/
def Ui.buffers (ui : Ui) : Ui := { ui with permissionEntries := [] }

/-- What a review asks the user to sign. -/
structure Asked where
  kind : ApprovalState
  dataWarning : Bool
  ui : Ui
  content : TxContent
  msg : Msg
  hash : Buf 32
  path : Bip32Path
  deriving DecidableEq

inductive Outcome
  | refused
  | reviewed (asked : Asked)
  | signed
  deriving DecidableEq

def Review.asked (r : Review) : Asked :=
  ⟨r.infos.state, r.infos.dataWarning, r.ui.buffers, r.content, r.msg, r.hash, r.path⟩

section Sending

variable {σ κ : Type} (sdk : Sdk σ κ)

/-- What the last APDU came to. -/
def World.outcome (w : World σ κ) : Outcome :=
  match w.trace with
  | .review r :: _ => .reviewed r.asked
  | .reply _ sw :: _ => if sw = .ok then .signed else .refused
  | _ => .refused

def World.acknowledged (w : World σ κ) : Bool := w.trace.head? = some (.reply [] .ok)

/-- The chunks behind the first, as long as the one before is acknowledged. -/
def sendRest : List Chunk → Chunk → World σ κ → World σ κ
  | [], last, w => handleSign sdk P1.last 0 last.payload w
  | chunk :: chunks, last, w =>
    let w := handleSign sdk P1.more 0 chunk.payload w
    if w.acknowledged then sendRest chunks last w else w

def sendCut (path : Bytes) (cut : Cut) (w : World σ κ) : World σ κ :=
  let w := handleSign sdk P1.first 0 (path ++ cut.first.payload) w
  if w.acknowledged then sendRest sdk cut.between cut.last w else w

/-- The transaction in one APDU, of any length: one `processTx`, then the same end. -/
def sendWhole (path : Bytes) (transaction : Chunk) (w : World σ κ) : World σ κ :=
  handleSign sdk P1.sign 0 (path ++ transaction.payload) w

end Sending

/-- The transaction would be reviewed, and its contract is a permission update that is not in the
last chunk. -/
def Cut.strays (allowed : Bool) (cut : Cut) : Bool :=
  cut.whole.fields.all Readable ∧ (allowed = true ∨ dataAfter .empty cut.whole.fields = 0) ∧
    (contractEntries cut.early).any fun entry => (contractRead entry).any fun read =>
      read.1.contractType = .accountPermissionUpdate ∧ permissionEmpty read.2 = false ∧
        0 ≤ read.1.permissionId ∧ read.1.permissionId ≤ 9

section Reading

variable {allowed : Bool} {chunks : List Chunk} {last : Chunk} {content : TxContent}

/-- `processTx` on one chunk after the other. -/
def readInTurn (allowed : Bool) : List Chunk → Chunk → TxContent → Option (TxContent × Msg)
  | [], last, content => chunkRead allowed last.fields content
  | chunk :: chunks, last, content =>
    (chunkRead allowed chunk.fields content).bind fun read => readInTurn allowed chunks last read.1

/-- The content does not depend on the cut. -/
theorem readInTurn_content (once : Once (joined chunks last).fields)
    (before : allowed = true ∨ content.dataBytes = 0) :
    (chunkRead allowed (joined chunks last).fields content).map Prod.fst =
      (readInTurn allowed chunks last content).map Prod.fst := by
  induction chunks generalizing content with
  | nil => rfl
  | cons chunk chunks ih =>
    simp only [joined, Chunk.append, readInTurn] at once ⊢
    rw [chunkRead_append once before]
    cases done : chunkRead allowed chunk.fields content with
    | none => rfl
    | some read =>
      rw [Option.bind_some, Option.bind_some, ← ih once.right (chunkRead_gate done), Option.map_map]
      rfl

/-- A contract in the last chunk, or none, is read as from the whole. -/
theorem readInTurn_last (once : Once (joined chunks last).fields)
    (before : allowed = true ∨ content.dataBytes = 0)
    (none : contractEntries (chunks.flatMap Chunk.fields) = []) :
    chunkRead allowed (joined chunks last).fields content = readInTurn allowed chunks last content := by
  induction chunks generalizing content with
  | nil => rfl
  | cons chunk chunks ih =>
    simp only [joined, Chunk.append, readInTurn] at once ⊢
    rw [List.flatMap_cons, contractEntries, List.filter_append, List.append_eq_nil_iff] at none
    rw [chunkRead_append once before]
    cases done : chunkRead allowed chunk.fields content with
    | none => rfl
    | some read =>
      rw [Option.bind_some, Option.bind_some, ← ih once.right (chunkRead_gate done) none.2]
      cases rest : chunkRead allowed (joined chunks last).fields read.1 with
      | none => rfl
      | some read' =>
        rw [Option.map_some]
        split
        · rename_i bare
          rw [chunkRead_none done none.1, ← chunkRead_none rest bare]
        · rfl

/-- The message of a contract before the last chunk is lost. -/
theorem readInTurn_lost (none : contractEntries last.fields = []) {read : TxContent × Msg}
    (done : readInTurn allowed chunks last content = some read) : read.2 = default := by
  induction chunks generalizing content with
  | nil => exact chunkRead_none done none
  | cons chunk chunks ih =>
    simp only [readInTurn, Option.bind_eq_some_iff] at done
    obtain ⟨first, -, rest⟩ := done
    exact ih rest

/-- The contract of a transaction, read from its entry. -/
theorem contractStep_entry {rs : List Record} (once : Once rs) (readable : rs.all Readable = true)
    (bears : contractEntries rs ≠ []) :
    ∃ entry, contractEntries rs = [entry] ∧ contractStep rs .empty = contractRead entry := by
  have done : (decodeRecords TransactionRaw.fields .caller rs (.initial 0)).1 = true := by
    rw [decodeRecords_once once (.initial 0) fun full => absurd rfl full, readable]
  rcases decodeRecords_entries rfl (.initial 0) done with ⟨none, -⟩ | ⟨entry, decoded, single, found, contract, buffer⟩
  · exact absurd none bears
  · refine ⟨entry, single, ?_⟩
    have same : chunkContract rs = decoded := Prod.ext contract buffer
    rw [contractStep, same, contractRead, found]
    dsimp only
    generalize processContract (contractRaw decoded) .empty default = result
    obtain ⟨status, read, msg⟩ := result
    cases status <;> rfl

theorem joined_fields (chunks : List Chunk) (last : Chunk) :
    (joined chunks last).fields = chunks.flatMap Chunk.fields ++ last.fields := by
  induction chunks with
  | nil => rfl
  | cons chunk chunks ih =>
    change chunk.fields ++ (joined chunks last).fields = _
    rw [ih, List.flatMap_cons, List.append_assoc]

theorem Cut.whole_fields (cut : Cut) : cut.whole.fields = cut.early ++ cut.last.fields :=
  joined_fields _ _

/-- The whole is read with a message that the chunks lose. -/
theorem Cut.strays_iff {cut : Cut} : cut.strays allowed = true ↔ ∃ read,
    chunkRead allowed cut.whole.fields .empty = some read ∧ contractEntries cut.early ≠ [] ∧
      read.1.contractType = .accountPermissionUpdate ∧ permissionEmpty read.2 = false ∧
      0 ≤ read.1.permissionId ∧ read.1.permissionId ≤ 9 := by
  have entries : contractEntries cut.whole.fields = contractEntries cut.early ++ contractEntries cut.last.fields := by
    rw [cut.whole_fields, contractEntries, List.filter_append]
    rfl
  have fresh : ∃ limit, limitAfter (TxContent.empty.feeLimit, TxContent.empty.feeLimitSeen)
      (limitSet cut.whole.fields) = some limit := by
    unfold limitAfter
    split_ifs with zero conflict
    · exact ⟨_, rfl⟩
    · exact absurd conflict.1 (by decide)
    · exact ⟨_, rfl⟩
  obtain ⟨limit, kept⟩ := fresh
  have whole (early : contractEntries cut.early ≠ []) : contractEntries cut.whole.fields ≠ [] := by
    rw [entries]
    exact List.append_ne_nil_of_left_ne_nil early _
  simp only [Cut.strays, List.any_eq_true, Option.any_eq_true, decide_eq_true_eq]
  constructor
  · rintro ⟨readable, gate, entry, among, read, found, update, named, id⟩
    have early : contractEntries cut.early ≠ [] := List.ne_nil_of_mem among
    obtain ⟨entry', single, step⟩ := contractStep_entry cut.once readable (whole early)
    obtain rfl : entry = entry' := by
      have within : entry ∈ contractEntries cut.whole.fields := by
        rw [entries]
        exact List.mem_append_left _ among
      rw [Cut.whole, single] at within
      exact List.mem_singleton.mp within
    refine ⟨(read.1.reframe (dataAfter .empty cut.whole.fields) limit.1 limit.2, read.2), ?_, early, update, named, id⟩
    rw [chunkRead, if_pos ⟨readable, gate⟩, kept, Option.bind_some, Cut.whole, step, found, Option.map_some]
  · rintro ⟨read, done, early, update, named, id⟩
    unfold chunkRead at done
    split at done
    · rename_i passes
      obtain ⟨entry, single, step⟩ := contractStep_entry cut.once passes.1 (whole early)
      rw [kept, Option.bind_some, Cut.whole, step, Option.map_eq_some_iff] at done
      obtain ⟨found, entryRead, rfl⟩ := done
      have among : entry ∈ contractEntries cut.early := by
        obtain ⟨other, within⟩ := List.exists_mem_of_ne_nil _ early
        have same : other ∈ contractEntries cut.whole.fields := by
          rw [entries]
          exact List.mem_append_left _ within
        rw [Cut.whole, single] at same
        exact List.mem_singleton.mp same ▸ within
      exact ⟨passes.1, passes.2, entry, among, found, entryRead, update, named, id⟩
    · simp at done

theorem Cut.whole_once (cut : Cut) : Once cut.whole.fields := cut.once

theorem Cut.read_content (cut : Cut) (before : allowed = true ∨ content.dataBytes = 0) :
    (chunkRead allowed cut.whole.fields content).map Prod.fst =
      (readInTurn allowed (cut.first :: cut.between) cut.last content).map Prod.fst :=
  readInTurn_content cut.once before

/-- A contract before the last chunk is the only one. -/
theorem Cut.last_bare {cut : Cut} (early : contractEntries cut.early ≠ []) :
    contractEntries cut.last.fields = [] := by
  have once : Once (cut.early ++ cut.last.fields) := by
    rw [← cut.whole_fields]
    exact cut.whole_once
  rcases once.lacks contractTag with none | none
  · exact absurd (contractEntries_nil none) early
  · exact contractEntries_nil none

/-- The chunks leave another message than the whole only for a permission update before the last. -/
theorem Cut.lost {cut : Cut} {read read' : TxContent × Msg} (before : allowed = true ∨ content.dataBytes = 0)
    (inTurn : readInTurn allowed (cut.first :: cut.between) cut.last content = some read)
    (atOnce : chunkRead allowed cut.whole.fields content = some read') (differ : read.2 ≠ read'.2) :
    contractEntries cut.early ≠ [] ∧ read'.1.contractType = .accountPermissionUpdate ∧ read.2 = default := by
  have early : contractEntries cut.early ≠ [] := by
    intro none
    have same := readInTurn_last cut.once before none
    rw [inTurn] at same
    obtain rfl := Option.some.inj (atOnce.symm.trans same)
    exact differ rfl
  have empty := readInTurn_lost (Cut.last_bare early) inTurn
  refine ⟨early, ?_, empty⟩
  by_contra plain
  exact differ (empty.trans (chunkRead_plain atOnce plain).symm)

end Reading

section Worlds

variable {σ κ : Type} (sdk : Sdk σ κ) {w : World σ κ} {c : Chunk}

/-- A chunk has been hashed and read. -/
def World.taken (payload : Bytes) (read : TxContent × Msg) (w : World σ κ) : World σ κ :=
  World.log { w.hashTx sdk payload with app := { (w.hashTx sdk payload).app with
    txContent := read.1, msg := read.2 } } (.processTx payload .processing)

/-- The chunk was answered with an error. -/
def World.Refuses (w : World σ κ) : Prop := ∃ sw, sw ≠ Sw.ok ∧ w.trace.head? = some (.reply [] sw)

theorem World.Refuses.outcome {w : World σ κ} (refuses : w.Refuses) : w.outcome = .refused := by
  obtain ⟨sw, bad, head⟩ := refuses
  obtain ⟨older, trace⟩ := List.head?_eq_some_iff.mp head
  simp [World.outcome, trace, bad]

theorem World.Refuses.acknowledged {w : World σ κ} (refuses : w.Refuses) : w.acknowledged = false := by
  obtain ⟨sw, bad, head⟩ := refuses
  simp [World.acknowledged, head, bad]

/-- What `signParse` makes of a chunk. -/
theorem signParse_chunk (once : Once c.fields) (p1 : UInt8) :
    (∃ read, chunkRead w.app.settings.dataAllowed c.fields w.app.txContent = some read ∧
      signParse sdk p1 c.payload w =
        let w' := World.log { w with app := { w.app with txContent := read.1, msg := read.2 } }
          (.processTx c.payload .processing)
        if p1 = P1.last ∨ p1 = P1.sign then signFinalise sdk w' else w'.ioSendSw .ok) ∨
    (chunkRead w.app.settings.dataAllowed c.fields w.app.txContent = none ∧
      (signParse sdk p1 c.payload w).Refuses) := by
  have reads : keptOf (TronLedger.processTx w.app.settings.dataAllowed c.payload w.app.txContent w.app.msg) =
    chunkRead w.app.settings.dataAllowed c.fields w.app.txContent := processTx_chunk c.framed c.filled once
  unfold signParse World.processTx
  cases processed : TronLedger.processTx w.app.settings.dataAllowed c.payload w.app.txContent w.app.msg with
  | mk status kept =>
    obtain ⟨content, msg⟩ := kept
    rw [processed] at reads
    cases status with
    | processing => exact .inl ⟨(content, msg), reads.symm, rfl⟩
    | finished =>
      have empty := processTx_finished (by rw [processed])
      exact absurd (by rw [empty]; rfl) (framed_filled c.framed c.filled)
    | fault => exact .inr ⟨reads.symm, .incorrectData, by decide, rfl⟩
    | missingSettingDataAllowed =>
      refine .inr ⟨reads.symm, _, ?_, rfl⟩
      split <;> decide

/-- Outside a swap a chunk is hashed and read. -/
theorem signChunk_chunk (noSwap : w.app.calledFromSwap = false) (once : Once c.fields) (p1 : UInt8) :
    (∃ read, chunkRead w.app.settings.dataAllowed c.fields w.app.txContent = some read ∧
      signChunk sdk p1 c.payload w =
        if p1 = P1.last ∨ p1 = P1.sign then signFinalise sdk (w.taken sdk c.payload read)
        else (w.taken sdk c.payload read).ioSendSw .ok) ∨
    (chunkRead w.app.settings.dataAllowed c.fields w.app.txContent = none ∧
      (signChunk sdk p1 c.payload w).Refuses) := by
  have hashed : (w.hashTx sdk c.payload).app.calledFromSwap = false := noSwap
  simp only [signChunk, hashed, Bool.false_eq_true, if_false]
  exact signParse_chunk (w := w.hashTx sdk c.payload) sdk once p1

/-- The hash context behind the chunks. -/
def hashedChunks (chunks : List Chunk) (state : σ) : σ :=
  chunks.foldl (fun state chunk => sdk.sha256.update state chunk.payload) state

/-- The app before the end of a transaction that has been read. -/
def App.completed (app : App σ κ) (state : σ) (read : TxContent × Msg) : App σ κ :=
  { app with txContext := ⟨state, true⟩, txContent := read.1, msg := read.2 }

theorem handleSign_next (open' : w.app.txContext.initialized = true) {p1 : UInt8}
    (next : p1 = P1.more ∨ p1 = P1.last) (payload : Bytes) :
    handleSign sdk p1 0 payload w = signChunk sdk p1 payload w := by
  have notFirst : ¬(p1 = P1.first ∨ p1 = P1.sign) := by
    rcases next with rfl | rfl <;> decide
  have noName : p1 &&& 0xF0 ≠ P1.trc10Name := by rcases next with rfl | rfl <;> decide
  have known : ¬(p1 ≠ P1.more ∧ p1 ≠ P1.last) := by tauto
  simp only [handleSign, signEntry, if_neg notFirst, if_neg noName, if_neg known, open', ne_eq,
    not_true_eq_false, if_false, Bool.not_true, Bool.false_eq_true]

/-- **The chunks behind the first are read in turn**, or one of them is refused. -/
theorem sendRest_read (noSwap : w.app.calledFromSwap = false)
    (isOpen : w.app.txContext.initialized = true) {chunks : List Chunk} {last : Chunk}
    (once : Once (joined chunks last).fields) :
    (∃ read w', readInTurn w.app.settings.dataAllowed chunks last w.app.txContent = some read ∧
      sendRest sdk chunks last w = signFinalise sdk w' ∧
      w'.app = w.app.completed (hashedChunks sdk (chunks ++ [last]) w.app.txContext.sha2) read) ∨
    (readInTurn w.app.settings.dataAllowed chunks last w.app.txContent = none ∧
      (sendRest sdk chunks last w).outcome = .refused) := by
  induction chunks generalizing w with
  | nil =>
    rw [sendRest, handleSign_next sdk isOpen (.inr rfl)]
    rcases signChunk_chunk (c := last) sdk noSwap once P1.last with ⟨read, done, ends⟩ | ⟨none, refuses⟩
    · refine .inl ⟨read, w.taken sdk last.payload read, done, by rw [ends, if_pos (.inl rfl)], ?_⟩
      rw [World.taken, World.log, App.completed, ← isOpen]
      rfl
    · exact .inr ⟨none, refuses.outcome⟩
  | cons chunk chunks ih =>
    rw [sendRest, handleSign_next sdk isOpen (.inl rfl), readInTurn]
    rcases signChunk_chunk sdk noSwap once.left P1.more with ⟨read, done, goes⟩ | ⟨none, refuses⟩
    · have notLast : ¬(P1.more = P1.last ∨ P1.more = P1.sign) := by decide
      rw [goes, if_neg notLast, done]
      have acknowledged : ((w.taken sdk chunk.payload read).ioSendSw .ok).acknowledged = true := by
        simp [World.acknowledged]
      simp only [acknowledged, if_true, Option.bind_some]
      exact ih (w := (w.taken sdk chunk.payload read).ioSendSw .ok) noSwap isOpen once.right
    · simp only [refuses.acknowledged, Bool.false_eq_true, if_false, none, Option.bind_none]
      exact .inr ⟨trivial, refuses.outcome⟩

end Worlds

section Ends

variable {σ κ : Type} {ctx : RenderContext σ κ} {content : TxContent}

/-- The checks of a rendering before the `switch`. -/
theorem renderTransaction_verdict (ui : Ui) : (renderTransaction ctx content).verdict ui =
    if !ctx.settings.dataAllowed ∧ content.dataBytes ≠ 0 then (.refuse .missingSettingDataAllowed, ui)
    else if content.permissionId < 0 ∨ 9 < content.permissionId then (.refuse .incorrectData, ui)
    else if swapRefuses ctx content then (.refuse .swapCheckingFail, renderSender ctx content ui)
    else (renderContract ctx content).verdict (renderSender ctx content ui) := by
  unfold renderTransaction
  by_cases data : (!ctx.settings.dataAllowed) = true ∧ content.dataBytes ≠ 0
  · rw [if_pos data, if_pos data]
    rfl
  rw [if_neg data, if_neg data]
  by_cases id : content.permissionId < 0 ∨ 9 < content.permissionId
  · rw [if_pos id, if_pos id]
    rfl
  rw [if_neg id, if_neg id]
  by_cases swap : swapRefuses ctx content = true
  · rw [if_pos swap, if_pos swap]
    rfl
  rw [if_neg swap, if_neg swap]
  rfl

/-- The end of a permission update. -/
def permissionEnd (msg : Msg) : Verdict :=
  if permissionEmpty msg then .refuse .incorrectData else .display .permissionUpdate

variable (ctx) in
theorem renderPermissionUpdate_verdict (ui : Ui) :
    ((renderPermissionUpdate ctx).verdict ui).1 = permissionEnd ctx.msg ∧
      ((renderPermissionUpdate ctx).verdict ui).2.buffers = ui.buffers := by
  let sound (verdict : Verdict) (shown : Ui) : Prop := verdict = permissionEnd ctx.msg ∧ shown.buffers = ui.buffers
  suffices ends : wp (renderPermissionUpdate ctx) sound sound ui from verdict_of_wp ends
  simp only [renderPermissionUpdate, wp_bind, wp_ite, wp_refuse, wp_modify, wp_pure]
  refine ⟨fun empty => ⟨?_, rfl⟩, fun named => ?_⟩
  · rw [permissionEnd, if_pos (by simpa [permissionEmpty] using empty)]
  · refine wp_mono (renderPermissionEntries_ends _ 0 ui) ?_ fun _ _ stopped => stopped
    rintro entries _ rfl
    exact ⟨by rw [permissionEnd, if_neg (by simpa [permissionEmpty] using named)], rfl⟩

theorem renderVotes_residue (residue : Nat → Buf 35) (votes : List VoteEntry) (index : Nat) (total : UInt64) :
    renderVotes { ctx with residue := residue } votes index total = renderVotes ctx votes index total := by
  induction votes generalizing index total with
  | nil => rfl
  | cons vote votes ih => simp only [renderVotes, ih]

/-- Only a permission update is rendered with memory that is not initialised. -/
theorem renderContract_residue (residue : Nat → Buf 35)
    (plain : content.contractType ≠ .accountPermissionUpdate) :
    renderContract { ctx with residue := residue } content = renderContract ctx content := by
  unfold renderContract
  split <;> try rfl
  · simp only [renderVoteWitness, renderVotes_residue]
  · rename_i update
    exact absurd update plain

variable (ctx content) in
/-- What is shown does not depend on that memory, but for the permission entries. -/
theorem renderTransaction_residue (residue : Nat → Buf 35) (ui : Ui) :
    ((renderTransaction { ctx with residue := residue } content).verdict ui).1 =
        ((renderTransaction ctx content).verdict ui).1 ∧
      ((renderTransaction { ctx with residue := residue } content).verdict ui).2.buffers =
        ((renderTransaction ctx content).verdict ui).2.buffers := by
  rw [renderTransaction_verdict, renderTransaction_verdict]
  have sender : renderSender { ctx with residue := residue } content ui = renderSender ctx content ui := rfl
  have swap : swapRefuses { ctx with residue := residue } content = swapRefuses ctx content := rfl
  have settings : ({ ctx with residue := residue } : RenderContext σ κ).settings = ctx.settings := rfl
  rw [sender, swap, settings]
  split
  · exact ⟨rfl, rfl⟩
  split
  · exact ⟨rfl, rfl⟩
  split
  · exact ⟨rfl, rfl⟩
  by_cases update : content.contractType = .accountPermissionUpdate
  · have contract (ctx : RenderContext σ κ) : renderContract ctx content = renderPermissionUpdate ctx := by
      simp only [renderContract, update]
    rw [contract, contract]
    obtain ⟨verdict, shown⟩ := renderPermissionUpdate_verdict ctx (renderSender ctx content ui)
    obtain ⟨verdict', shown'⟩ := renderPermissionUpdate_verdict { ctx with residue := residue }
      (renderSender ctx content ui)
    exact ⟨by rw [verdict, verdict'], by rw [shown, shown']⟩
  · rw [renderContract_residue residue update]
    exact ⟨rfl, rfl⟩

end Ends

section Outcomes

variable {σ κ : Type} (sdk : Sdk σ κ) {w w' : World σ κ}

/-- The rendering at the end of a transaction, and the buffers it leaves. -/
def World.rendered (w : World σ κ) : Verdict × Ui :=
  (renderTransaction (renderContext sdk (w.finishHash sdk)) w.app.txContent).verdict w.app.ui

/-- What a rendering asks. -/
def World.asks (w : World σ κ) (ui : Ui) : Verdict → Outcome
  | .display kind => .reviewed ⟨kind, 0 < w.app.txContent.dataBytes, ui.buffers,
      renderedContent w.app.txContent, w.app.msg, (sdk.sha256.last w.app.txContext.sha2).1,
      w.app.transactionContext.bip32Path⟩
  | _ => .refused

/-- Outside a swap a completed transaction is reviewed or refused. -/
theorem signFinalise_outcome (noSwap : w.app.calledFromSwap = false) :
    (signFinalise sdk w).outcome = w.asks sdk (w.rendered sdk).2 (w.rendered sdk).1 := by
  have sound : Verdict.Sound (renderContext sdk (w.finishHash sdk)) w.app.txContent _ (w.rendered sdk).1
    (w.rendered sdk).2 := renderTransaction_sound _ _ w.app.ui
  have ends : signFinalise sdk w = applyVerdict sdk (w.rendered sdk).1
    (((w.finishHash sdk).setUi (w.rendered sdk).2).setContent (renderedContent w.app.txContent)) := rfl
  rw [ends]
  generalize w.rendered sdk = rendered at sound ⊢
  obtain ⟨verdict, ui⟩ := rendered
  cases verdict with
  | refuse sw => exact World.Refuses.outcome ⟨sw, sound.1, rfl⟩
  | thrown e => exact World.Refuses.outcome ⟨e, sound.1, rfl⟩
  | swapSign =>
    have swap : w.app.calledFromSwap = true := sound.2.swap
    simp [noSwap] at swap
  | display kind =>
    obtain ⟨-, -, -, own, votes⟩ := sound
    have notVerify : kind ≠ .verifyAddress := by rintro rfl; simp [ApprovalState.isTransaction] at own
    have notTyped : kind ≠ .signTip72Transaction := by rintro rfl; simp [ApprovalState.isTransaction] at own
    obtain ⟨r, shown, trace, -, same⟩ := uxFlowDisplay_spec sdk
      (((w.finishHash sdk).setUi ui).setContent (renderedContent w.app.txContent)) kind
      (0 < (renderedContent w.app.txContent).dataBytes) notVerify votes
    rw [applyVerdict]
    change World.outcome (uxFlowDisplay sdk kind (0 < (renderedContent w.app.txContent).dataBytes) _) = _
    rw [World.outcome, trace]
    simp only [World.asks, Review.asked, shown.state_eq, shown.warning_eq, shown.content_eq, shown.msg_eq,
      shown.hash_eq, shown.path_eq, same notTyped, renderedContent_dataBytes]
    rfl

/-- The outcome depends on the digest, not on when the transaction is completed. -/
theorem signFinalise_same {app : App σ κ} {state state' : σ} {read : TxContent × Msg}
    (noSwap : app.calledFromSwap = false) (same : (sdk.sha256.last state).1 = (sdk.sha256.last state').1)
    (left : w.app = app.completed state read) (right : w'.app = app.completed state' read) :
    (signFinalise sdk w).outcome = (signFinalise sdk w').outcome := by
  rw [signFinalise_outcome sdk (by rw [left]; exact noSwap), signFinalise_outcome sdk (by rw [right]; exact noSwap)]
  obtain ⟨_, trace⟩ := w
  obtain ⟨_, trace'⟩ := w'
  obtain rfl := left
  obtain rfl := right
  have context : renderContext sdk (World.finishHash sdk ⟨app.completed state' read, trace'⟩) =
      { renderContext sdk (World.finishHash sdk ⟨app.completed state read, trace⟩) with
        residue := sdk.residue trace'.length } := by
    simp only [renderContext, World.finishHash, World.setHash, App.completed, same]
  have rendered := renderTransaction_residue (renderContext sdk
    (World.finishHash sdk ⟨app.completed state read, trace⟩)) read.1 (sdk.residue trace'.length) app.ui
  rw [← context] at rendered
  obtain ⟨verdict, shown⟩ := rendered
  have sameVerdict : (World.rendered sdk ⟨app.completed state' read, trace'⟩).1 =
    (World.rendered sdk ⟨app.completed state read, trace⟩).1 := verdict
  have sameBuffers : (World.rendered sdk ⟨app.completed state' read, trace'⟩).2.buffers =
    (World.rendered sdk ⟨app.completed state read, trace⟩).2.buffers := shown
  rw [sameVerdict]
  cases (World.rendered sdk ⟨app.completed state read, trace⟩).1 with
  | display kind =>
    simp only [World.asks, sameBuffers]
    simp only [App.completed, same]
    rfl
  | _ => rfl

variable {app : App σ κ} {state : σ} {read : TxContent × Msg}

/-- The end of a permission update outside a swap. -/
theorem rendered_update (noSwap : app.calledFromSwap = false) (completed : w.app = app.completed state read)
    (gate : app.settings.dataAllowed = true ∨ read.1.dataBytes = 0)
    (update : read.1.contractType = .accountPermissionUpdate) :
    (w.rendered sdk).1 =
      if read.1.permissionId < 0 ∨ 9 < read.1.permissionId then .refuse .incorrectData
      else permissionEnd read.2 := by
  obtain ⟨_, trace⟩ := w
  obtain rfl := completed
  have passes : ¬((!app.settings.dataAllowed) = true ∧ read.1.dataBytes ≠ 0) := by
    rcases gate with allowed | none
    · simp [allowed]
    · simp [none]
  have swap : swapRefuses (renderContext sdk (World.finishHash sdk ⟨app.completed state read, trace⟩)) read.1 =
      false := by
    simp [swapRefuses, renderContext, World.finishHash, World.setHash, App.completed, noSwap]
  have contract (ctx : RenderContext σ κ) : renderContract ctx read.1 = renderPermissionUpdate ctx := by
    simp only [renderContract, update]
  change ((renderTransaction (renderContext sdk (World.finishHash sdk ⟨app.completed state read, trace⟩))
    read.1).verdict app.ui).1 = _
  have settings : (renderContext sdk (World.finishHash sdk ⟨app.completed state read, trace⟩)).settings =
    app.settings := rfl
  rw [renderTransaction_verdict, settings, if_neg passes, swap, contract]
  by_cases id : read.1.permissionId < 0 ∨ 9 < read.1.permissionId
  · rw [if_pos id, if_pos id]
  · rw [if_neg id, if_neg id]
    exact (renderPermissionUpdate_verdict _ _).1

/-- A permission update whose message was lost is refused. -/
theorem signFinalise_lost (noSwap : app.calledFromSwap = false) (completed : w.app = app.completed state read)
    (gate : app.settings.dataAllowed = true ∨ read.1.dataBytes = 0)
    (update : read.1.contractType = .accountPermissionUpdate) (lost : permissionEmpty read.2 = true) :
    (signFinalise sdk w).outcome = .refused := by
  rw [signFinalise_outcome sdk (by rw [completed]; exact noSwap),
    rendered_update sdk noSwap completed gate update, permissionEnd, if_pos lost, ite_self]
  rfl

end Outcomes

section Chunking

variable {σ κ : Type} (sdk : Sdk σ κ) {digest : Bytes → Buf 32} {w : World σ κ} {path : Bytes}
variable {words : Bip32Path}

/-- A session has been opened. -/
def World.opened (words : Bip32Path) (w : World σ κ) : World σ κ :=
  let w := (w.setPath words).initTx sdk
  w.setUi { w.app.ui with customContractField := 0 }

theorem handleSign_opens (grammar : PathGrammar path words []) {p1 : UInt8}
    (opens : p1 = P1.first ∨ p1 = P1.sign) (payload : Bytes) :
    handleSign sdk p1 0 (path ++ payload) w = signChunk sdk p1 payload (w.opened sdk words) := by
  have size : path.length = 1 + 4 * words.length := by
    rw [grammar.shape, List.append_nil, List.length_cons, words_length]
    omega
  have read : readBip32Path (path ++ payload) w.app.transactionContext.bip32Path = (words, some path.length) := by
    refine (readBip32Path_iff _ _ _ _).mpr ⟨payload, ⟨grammar.least, grammar.most, grammar.tron, ?_⟩, size⟩
    rw [grammar.shape, List.append_nil, List.cons_append]
  simp only [handleSign, signEntry, if_pos opens, signOpen, read, List.drop_left, ne_eq, not_true_eq_false,
    if_false]
  rfl

/-- **The chunks of a cut are read in turn**, or one of them is refused. -/
theorem sendCut_read (grammar : PathGrammar path words []) (noSwap : w.app.calledFromSwap = false) (cut : Cut) :
    (∃ read w', readInTurn w.app.settings.dataAllowed (cut.first :: cut.between) cut.last .empty = some read ∧
      sendCut sdk path cut w = signFinalise sdk w' ∧
      w'.app = (w.opened sdk words).app.completed
        (hashedChunks sdk (cut.first :: cut.between ++ [cut.last]) sdk.sha256.init) read) ∨
    (readInTurn w.app.settings.dataAllowed (cut.first :: cut.between) cut.last .empty = none ∧
      (sendCut sdk path cut w).outcome = .refused) := by
  have once : Once (cut.first.fields ++ (joined cut.between cut.last).fields) := cut.once
  have notLast : ¬(P1.first = P1.last ∨ P1.first = P1.sign) := by decide
  rw [sendCut, handleSign_opens sdk grammar (.inl rfl), readInTurn]
  rcases signChunk_chunk (w := w.opened sdk words) sdk noSwap once.left P1.first with
    ⟨read, done, goes⟩ | ⟨none, refuses⟩
  · change chunkRead w.app.settings.dataAllowed cut.first.fields .empty = some read at done
    have acknowledged : (((w.opened sdk words).taken sdk cut.first.payload read).ioSendSw .ok).acknowledged = true := by
      simp [World.acknowledged]
    rw [goes, if_neg notLast, done]
    simp only [acknowledged, if_true, Option.bind_some]
    exact sendRest_read (w := ((w.opened sdk words).taken sdk cut.first.payload read).ioSendSw .ok) sdk noSwap
      rfl once.right
  · change chunkRead w.app.settings.dataAllowed cut.first.fields .empty = Option.none at none
    simp only [refuses.acknowledged, Bool.false_eq_true, if_false, none, Option.bind_none]
    exact .inr ⟨trivial, refuses.outcome⟩

theorem joined_payload (chunks : List Chunk) (last : Chunk) :
    (joined chunks last).payload = ((chunks ++ [last]).map Chunk.payload).flatten := by
  induction chunks with
  | nil => simp [joined]
  | cons chunk chunks ih =>
    change chunk.payload ++ (joined chunks last).payload = _
    rw [ih]
    rfl

/-- The digest does not depend on the cut. -/
theorem hashedChunks_digest (ok : sdk.sha256.Correct digest) (cut : Cut) :
    (sdk.sha256.last (hashedChunks sdk (cut.first :: cut.between ++ [cut.last]) sdk.sha256.init)).1 =
      (sdk.sha256.last (hashedChunks sdk [cut.whole] sdk.sha256.init)).1 := by
  have absorbs (chunks : List Chunk) : hashedChunks sdk chunks sdk.sha256.init =
      sdk.sha256.absorb (chunks.map Chunk.payload) := by
    rw [hashedChunks, StreamHash.absorb, List.foldl_map]
  rw [absorbs, absorbs, ok, ok, Cut.whole, List.map_singleton, List.flatten_singleton, joined_payload]

theorem sendWhole_read (grammar : PathGrammar path words []) (noSwap : w.app.calledFromSwap = false) (cut : Cut) :
    (∃ read w', chunkRead w.app.settings.dataAllowed cut.whole.fields .empty = some read ∧
      sendWhole sdk path cut.whole w = signFinalise sdk w' ∧
      w'.app = (w.opened sdk words).app.completed (hashedChunks sdk [cut.whole] sdk.sha256.init) read) ∨
    (chunkRead w.app.settings.dataAllowed cut.whole.fields .empty = none ∧
      (sendWhole sdk path cut.whole w).outcome = .refused) := by
  rw [sendWhole, handleSign_opens sdk grammar (.inr rfl)]
  rcases signChunk_chunk (w := w.opened sdk words) sdk noSwap cut.whole_once P1.sign with
    ⟨read, done, ends⟩ | ⟨none, refuses⟩
  · exact .inl ⟨read, _, done, by rw [ends, if_pos (.inr rfl)], rfl⟩
  · exact .inr ⟨none, refuses.outcome⟩

/-- In a swap a second chunk exits the app. -/
theorem sendRest_swap (swap : w.app.calledFromSwap = true) (ready : w.app.swapResponseReady = true)
    (isOpen : w.app.txContext.initialized = true) (chunks : List Chunk) (last : Chunk) :
    (sendRest sdk chunks last w).outcome = .refused := by
  have exits (p1 : UInt8) (payload : Bytes) (next : p1 = P1.more ∨ p1 = P1.last) :
      handleSign sdk p1 0 payload w = (w.hashTx sdk payload).osSchedExit := by
    have hashed : (w.hashTx sdk payload).app.calledFromSwap = true := swap
    have answered : (w.hashTx sdk payload).app.swapResponseReady = true := ready
    rw [handleSign_next sdk isOpen next]
    simp only [signChunk, hashed, answered, if_true]
  cases chunks with
  | nil => simp [sendRest, exits P1.last _ (.inr rfl), World.outcome]
  | cons chunk chunks => simp [sendRest, exits P1.more _ (.inl rfl), World.acknowledged, World.outcome]

theorem sendCut_swap (grammar : PathGrammar path words []) (swap : w.app.calledFromSwap = true) (cut : Cut) :
    (sendCut sdk path cut w).outcome = .refused := by
  have once : Once (cut.first.fields ++ (joined cut.between cut.last).fields) := cut.once
  have notLast : ¬(P1.first = P1.last ∨ P1.first = P1.sign) := by decide
  rw [sendCut, handleSign_opens sdk grammar (.inl rfl)]
  have hashed : (World.hashTx sdk (w.opened sdk words) cut.first.payload).app.calledFromSwap = true := swap
  simp only [signChunk, hashed, if_true]
  cases ready : (World.hashTx sdk (w.opened sdk words) cut.first.payload).app.swapResponseReady with
  | true => simp [World.acknowledged, World.outcome]
  | false =>
    simp only [Bool.false_eq_true, if_false]
    rcases signParse_chunk (w := (World.hashTx sdk (w.opened sdk words) cut.first.payload).setSwapResponseReady) sdk
      once.left P1.first with ⟨read, -, goes⟩ | ⟨-, refuses⟩
    · rw [goes]
      simp only [if_neg notLast]
      split
      · refine sendRest_swap sdk ?_ ?_ ?_ cut.between cut.last
        · exact swap
        · rfl
        · rfl
      · rename_i unanswered
        simp [World.acknowledged] at unanswered
    · simp only [refuses.acknowledged, Bool.false_eq_true, if_false, refuses.outcome]

variable {sdk}

/-- A cut that does not stray comes to the same. -/
theorem sendCut_same (ok : sdk.sha256.Correct digest) (grammar : PathGrammar path words [])
    (noSwap : w.app.calledFromSwap = false) {cut : Cut} (kept : cut.strays w.app.settings.dataAllowed = false) :
    (sendCut sdk path cut w).outcome = (sendWhole sdk path cut.whole w).outcome := by
  have fresh : w.app.settings.dataAllowed = true ∨ TxContent.empty.dataBytes = 0 := .inr rfl
  have openedNoSwap : (w.opened sdk words).app.calledFromSwap = false := noSwap
  have sameContent := cut.read_content fresh
  rcases sendCut_read sdk grammar noSwap cut with ⟨read, v, inTurn, ends, app⟩ | ⟨inTurn, refused⟩ <;>
  rcases sendWhole_read sdk grammar noSwap cut with ⟨read', v', atOnce, ends', app'⟩ | ⟨atOnce, refused'⟩ <;>
  rw [inTurn, atOnce] at sameContent
  · rw [ends, ends']
    have sameRead : read'.1 = read.1 := by simpa using sameContent
    have gate : w.app.settings.dataAllowed = true ∨ read.1.dataBytes = 0 := by
      rw [← sameRead]
      exact chunkRead_gate atOnce
    by_cases same : read.2 = read'.2
    · obtain rfl : read = read' := Prod.ext sameRead.symm same
      exact signFinalise_same sdk openedNoSwap (hashedChunks_digest sdk ok cut) app app'
    · obtain ⟨early, update, empty⟩ := Cut.lost fresh inTurn atOnce same
      -- both are refused
      rw [signFinalise_lost sdk openedNoSwap app gate (sameRead ▸ update) (by rw [empty]; rfl),
        signFinalise_outcome sdk (by rw [app']; exact noSwap),
        rendered_update sdk openedNoSwap app' (chunkRead_gate atOnce) update]
      by_cases id : read'.1.permissionId < 0 ∨ 9 < read'.1.permissionId
      · rw [if_pos id]
        rfl
      · rw [if_neg id, permissionEnd]
        cases named : permissionEmpty read'.2 with
        | true => rfl
        | false =>
          rw [not_or, Int32.not_lt, Int32.not_lt] at id
          have strays := Cut.strays_iff.mpr ⟨read', atOnce, early, update, named, id⟩
          rw [kept] at strays
          simp at strays
  · simp at sameContent
  · simp at sameContent
  · rw [refused, refused']

/-- A cut that strays is refused, where the whole is reviewed. -/
theorem sendCut_strays (grammar : PathGrammar path words []) (noSwap : w.app.calledFromSwap = false) {cut : Cut}
    (strays : cut.strays w.app.settings.dataAllowed = true) :
    (sendCut sdk path cut w).outcome = .refused ∧ (sendWhole sdk path cut.whole w).outcome ≠ .refused := by
  obtain ⟨read', atOnce, early, update, named, least, most⟩ := Cut.strays_iff.mp strays
  have fresh : w.app.settings.dataAllowed = true ∨ TxContent.empty.dataBytes = 0 := .inr rfl
  have openedNoSwap : (w.opened sdk words).app.calledFromSwap = false := noSwap
  have sameContent := cut.read_content fresh
  constructor
  · rcases sendCut_read sdk grammar noSwap cut with ⟨read, v, inTurn, ends, app⟩ | ⟨-, refused⟩
    · rw [inTurn, atOnce] at sameContent
      have sameRead : read'.1 = read.1 := by simpa using sameContent
      have empty := readInTurn_lost (Cut.last_bare early) inTurn
      rw [ends]
      exact signFinalise_lost sdk openedNoSwap app (sameRead ▸ chunkRead_gate atOnce) (sameRead ▸ update)
        (by rw [empty]; rfl)
    · exact refused
  · rcases sendWhole_read sdk grammar noSwap cut with ⟨read, v, done, ends, app⟩ | ⟨none, -⟩
    · obtain rfl := Option.some.inj (done.symm.trans atOnce)
      rw [ends, signFinalise_outcome sdk (by rw [app]; exact noSwap),
        rendered_update sdk openedNoSwap app (chunkRead_gate atOnce) update, if_neg, permissionEnd, named]
      · simp [World.asks]
      · rw [not_or, Int32.not_lt, Int32.not_lt]
        exact ⟨least, most⟩
    · rw [atOnce] at none
      simp at none

/-- **A cut does not matter unless it strays**; in a swap it is refused. -/
theorem chunked_iff (ok : sdk.sha256.Correct digest) (grammar : PathGrammar path words []) (cut : Cut) :
    (w.app.calledFromSwap = false →
      ((sendCut sdk path cut w).outcome = (sendWhole sdk path cut.whole w).outcome ↔
        cut.strays w.app.settings.dataAllowed = false)) ∧
    (w.app.calledFromSwap = true → (sendCut sdk path cut w).outcome = .refused) := by
  refine ⟨fun noSwap => ?_, fun swap => sendCut_swap sdk grammar swap cut⟩
  constructor
  · intro same
    by_contra strays
    rw [Bool.not_eq_false] at strays
    obtain ⟨refused, reviewed⟩ := sendCut_strays grammar noSwap strays
    exact reviewed (same ▸ refused)
  · exact sendCut_same ok grammar noSwap

end Chunking

/-- A chunk of the bytes, when they are fields. -/
def Chunk.parse (payload : Bytes) (parses : (records payload).any (· ≠ []) = true) : Chunk where
  payload := payload
  fields := recordsOf payload
  framed := by
    obtain ⟨rs, found, -⟩ := (Option.any_eq_true _ _).mp parses
    rw [recordsOf, found]
    exact records_eq_some.mp found
  filled := by
    obtain ⟨rs, found, filled⟩ := (Option.any_eq_true _ _).mp parses
    rw [recordsOf, found]
    exact of_decide_eq_true filled

theorem sampleTransfer_parses : (records sampleTransfer).any (· ≠ []) = true := by decide +kernel

theorem ownerUpdate_parses : (records (contractField 46 (ownerUpdate 1))).any (· ≠ []) = true := by decide +kernel

/-- The timestamp of a transaction. -/
def timestampField : Bytes := [0x70, 1]

theorem timestampField_parses : (records timestampField).any (· ≠ []) = true := by decide

theorem transferCut_once : Once (joined [.parse sampleTransfer sampleTransfer_parses]
    (.parse timestampField timestampField_parses)).fields := by decide +kernel

theorem updateCut_once : Once (joined [.parse (contractField 46 (ownerUpdate 1)) ownerUpdate_parses]
    (.parse timestampField timestampField_parses)).fields := by decide +kernel

/-- A transfer, and the timestamp in a chunk of its own. -/
def transferCut : Cut where
  first := .parse sampleTransfer sampleTransfer_parses
  between := []
  last := .parse timestampField timestampField_parses
  once := transferCut_once

/-- A permission update, and the timestamp in a chunk of its own. -/
def updateCut : Cut where
  first := .parse (contractField 46 (ownerUpdate 1)) ownerUpdate_parses
  between := []
  last := .parse timestampField timestampField_parses
  once := updateCut_once

/-- The whole update is reviewed, its chunks are refused. -/
theorem update_lost : (sendWhole device (pathBytes 0) updateCut.whole (boot device deviceBoot)).outcome ≠ .refused ∧
    (sendCut device (pathBytes 0) updateCut (boot device deviceBoot)).outcome = .refused := by
  decide +kernel

theorem pathBytes_grammar : PathGrammar (pathBytes 0) [0x8000002c, 0x800000c3, 0x80000000] [] where
  least := by decide
  most := by decide
  tron := rfl
  shape := by decide

theorem chunked_iff_transfer : (sendCut device (pathBytes 0) transferCut (boot device deviceBoot)).outcome =
    (sendWhole device (pathBytes 0) transferCut.whole (boot device deviceBoot)).outcome :=
  ((chunked_iff device_sha256 pathBytes_grammar transferCut).1 rfl).mpr (by decide +kernel)

end TronLedger
