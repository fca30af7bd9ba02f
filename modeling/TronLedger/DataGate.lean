import TronLedger.SessionRule
import TronLedger.Device

/-!
# The custom data of a transaction

A review of a transaction with custom data warns of it, and there is none while the setting
is off, as long as no personal message clears the counter that remembers the data.

* `dataApart` is the condition on the steps.
-/

namespace TronLedger

open Nanopb

/-- A review of a transaction with custom data warns of it, and a setting allows it. -/
def DataGate (settings : Settings) : Effect → List Effect → Prop
  | .review r, older => (lastCommand older).any Command.isSign = true →
    customData (sessionRecords older) ≠ [] →
      r.infos.dataWarning = true ∧ settings.dataAllowed = true
  | .signature _ _, older => (lastCommand older).any Command.isSign = true →
    customData (sessionRecords older) ≠ [] → settings.dataAllowed = true
  | _, _ => True

section

variable {σ κ : Type}

/-- An APDU of a personal message gets as far as the counter and leaves it at zero: it announces no
bytes, or carries all that are expected. -/
def Session.clearsCounter (s : Session σ κ) (c : Command) : Bool :=
  if s.writesPath c then
    match (readBip32Path c.data s.path).2 with
    | none => false
    | some n =>
      let announced := beNat ((c.data.drop n).take 4)
      4 ≤ (c.data.drop n).length ∧
        (announced = 0 ∨ (c.p2 = 0 ∧ announced = ((c.data.drop n).drop 4).length))
  else
    s.settings.signByHash ∧ !s.calledFromSwap ∧ c.p1 = P1.more ∧ s.personal.initialized ∧ c.p2 = 0 ∧
      s.txContent.dataBytes = UInt64.ofNat c.data.length

/-- While a session has custom data, no personal message clears the counter; and the setting
does not change while a session is open. -/
def dataApart (w : World σ κ) : Event → Bool
  | .apdu c => !(c.isMessage && w.session.txContext.initialized &&
      customData (sessionRecords w.trace) ≠ [] && w.session.clearsCounter c)
  | .toggleSetting .dataAllowed => !w.session.txContext.initialized
  | _ => true

/-- The counter remembers the custom data of the session. -/
def DataLive (settings : Settings) (_ : TxContext σ) (content : TxContent) (_ : Msg)
    (log : List Effect) : Prop :=
  (∃ rss, List.Forall₂ Framed (sessionPayloads log) rss) ∧
    (customData (sessionRecords log) ≠ [] → content.dataBytes ≠ 0 ∧ settings.dataAllowed = true)

def DataAsked (settings : Settings) (_ : Buf 32) (log : List Effect) : Prop :=
  customData (sessionRecords log) ≠ [] → settings.dataAllowed = true

end

/-- A delimited content is no longer than its 32-bit size. -/
theorem content_size {bs content rest : Bytes}
    (read : pbMakeStringSubstream bs = some (content, rest)) : content.length < 2 ^ 32 := by
  simp only [pbMakeStringSubstream] at read
  split at read
  · simp at read
  · rename_i size _ _
    have := size.toNat_lt
    simp only [pbRead] at read
    split_ifs at read
    simp only [Option.some.injEq, Prod.mk.injEq] at read
    rw [← read.1, List.length_take]
    omega

theorem ofNat_length_ne_zero {bs : Bytes} (long : 0 < bs.length) (short : bs.length < 2 ^ 32) :
    UInt64.ofNat bs.length ≠ 0 := by
  intro zero
  have value := congrArg UInt64.toNat zero
  simp only [UInt64.toNat_ofNat', UInt64.toNat_zero] at value
  omega

/-- A record keeps the counter behind the custom data. -/
theorem dataStep_remembers {r : Record} {data : Bytes} {size : UInt64}
    (before : data ≠ [] → size ≠ 0) (carries : customStep data r ≠ []) : dataStep size r ≠ 0 := by
  by_cases number : r.number = customDataTag
  · by_cases string : r.wireType = .string
    · simp only [customStep, number, string, and_self, if_true, Record.content] at carries
      simp only [dataStep, number, if_true, callbackBytes, string]
      cases read : pbMakeStringSubstream r.body with
      | none => simp [read] at carries
      | some found =>
        exact ofNat_length_ne_zero (List.length_pos_iff.mpr (by simpa [read] using carries))
          (content_size read)
    · simp only [customStep, string, and_false, if_false] at carries
      simp only [dataStep, number, if_true, callbackBytes, if_neg string]
      cases read : readRawValue r.wireType r.body with
      | none => exact before carries
      | some found =>
        obtain ⟨long, short⟩ := readRawValue_length read
        exact ofNat_length_ne_zero long (Nat.lt_of_le_of_lt short (by decide))
  · simp only [customStep, number, false_and, if_false] at carries
    simp only [dataStep, number, if_false]
    exact before carries

theorem foldl_remembers (rs : List Record) {data : Bytes} {size : UInt64}
    (before : data ≠ [] → size ≠ 0) (some : rs.foldl customStep data ≠ []) :
    rs.foldl dataStep size ≠ 0 := by
  induction rs generalizing data size with
  | nil => exact before some
  | cons r rs ih => exact ih (fun step => dataStep_remembers before step) some

/-- The counter behind an accepted chunk is the fold of its records. -/
theorem accepted_dataBytes {allowed : Bool} {payload : Bytes} {content content' : TxContent}
    {msg msg' : Msg} {status : ParserStatus} (accepts : status.accepts = true)
    (processed : processTx allowed payload content msg = (status, content', msg')) :
    ∃ rs, Framed payload rs ∧ content'.dataBytes = rs.foldl dataStep content.dataBytes ∧
      (allowed = true ∨ content'.dataBytes = 0 ∨ rs = []) := by
  rcases processTx_accepts processed accepts with rfl | ⟨rfl, rfl, rfl, rfl⟩
  · obtain ⟨rs, fee, seen, framed, accepted, ends⟩ := processTx_processing processed
    have counted : content'.dataBytes = rs.foldl dataStep content.dataBytes := by
      rcases ends with ⟨-, -, rfl⟩ | ⟨entry, decoded, -, -, -, -, read⟩
      · rfl
      · rw [processContract_reframe] at read
        rw [← (Prod.mk.inj (Prod.mk.inj read).2).1]
        rfl
    exact ⟨rs, framed, counted, accepted.data.imp id fun zero => .inl (counted.trans zero)⟩
  · exact ⟨[], .nil, rfl, .inr (.inr rfl)⟩

section

variable {σ κ : Type} {sdk : Sdk σ κ} {version : AppVersion} {s s' : Session σ κ} {c : Command}
  {news log : List Effect}

/-- What the rule asks of the custom data. -/
theorem dataRules (sdk : Sdk σ κ) : SessionRules sdk DataLive DataAsked DataGate where
  opens settings msg log := by
    refine ⟨⟨[], .nil⟩, fun data => ?_⟩
    simp [sessionRecords, sessionPayloads, sessionChunks, records, recordsWithin, customData] at data
  silent entry silent live := by
    simp only [DataLive, sessionPayloads_silent silent, sessionRecords_silent silent]
    exact live
  metadata _ step live := by
    have change := step.change
    unfold MetadataChange at change
    rw [change]
    exact live
  chunk payload status content' msg' _ live processed accepts := by
    obtain ⟨⟨rss, framed⟩, remembers⟩ := live
    obtain ⟨rs, more, counted, gate⟩ := accepted_dataBytes accepts processed
    obtain ⟨framed', appended⟩ := sessionRecords_chunk framed more
    refine ⟨⟨_, framed'⟩, fun data => ?_⟩
    rw [appended, customData, List.foldl_append] at data
    have nonzero : content'.dataBytes ≠ 0 := by
      rw [counted]
      exact foldl_remembers rs (fun before => (remembers before).1) data
    rcases gate with allowed | zero | rfl
    · exact ⟨nonzero, allowed⟩
    · exact absurd zero nonzero
    · exact ⟨nonzero, (remembers data).2⟩
  thrown {s log} _ live := by
    refine ⟨live.1, fun data => ?_⟩
    rw [Session.finished, renderedContent_dataBytes]
    exact live.2 data
  review {s log r kind} live _ _ _ _ _ shown := by
    refine ⟨fun _ data => ⟨?_, (live.2 data).2⟩, fun data => ?_⟩
    · rw [shown.warning_eq, decide_eq_true_eq]
      exact UInt64.pos_iff_ne_zero.mpr (live.2 data).1
    · rw [sessionRecords_silent rfl] at data
      exact (live.2 data).2
  swapAccepted _ _ := trivial
  swapSigned path live _ _ data := by
    rw [sessionRecords_silent rfl] at data
    exact (live.2 data).2
  signature path asked _ data := asked data
  plain settings entry log plain := by
    cases entry with
    | review | signature => simp [Effect.isPlain] at plain
    | _ => trivial
  other settings entry log notSign := by
    cases entry with
    | review | signature =>
      intro own
      rw [notSign] at own
      simp at own
    | _ => trivial

/-- A personal message brings the counter to zero only as `clearsCounter` says. -/
theorem messageMove_counter (moved : MessageMove sdk c s news s')
    (keeps : s.clearsCounter c = false) (counts : s.txContent.dataBytes ≠ 0) :
    s'.txContent.dataBytes ≠ 0 := by
  cases moved with
  | refused | badOpening => exact counts
  | enters entry chunk =>
    rename_i first news v content
    -- what is expected when the bytes arrive
    obtain ⟨some, short, carried⟩ : v.txContent.dataBytes ≠ 0 ∧ content.length < 256 ∧
        (c.p2 = 0 → v.txContent.dataBytes ≠ UInt64.ofNat content.length) := by
      have whole := c.short
      cases entry with
      | opens n length writes read long announced =>
        simp only [Session.clearsCounter, writes, if_true, read, long, true_and, decide_eq_false_iff_not,
          not_or, not_and] at keeps
        have small : beNat ((c.data.drop n).take 4) < 2 ^ 32 :=
          Nat.lt_of_lt_of_le (beNat_lt _)
            (Nat.pow_le_pow_right (n := 256) (j := 4) (by decide) (List.length_take_le _ _))
        have value : length.toUInt64.toNat = beNat ((c.data.drop n).take 4) := by
          rw [announced, UInt32.toNat_toUInt64, UInt32.toNat_ofNat']
          omega
        have sized : ((c.data.drop n).drop 4).length < 256 := by
          simp only [List.length_drop]
          omega
        refine ⟨fun zero => keeps.1 ?_, sized, fun p2 same => keeps.2 p2 ?_⟩
        · rw [← value, show length.toUInt64 = 0 from zero]
          rfl
        · rw [← value, show length.toUInt64 = _ from same, UInt64.toNat_ofNat']
          omega
      | continues more writes live taken =>
        simp only [Session.clearsCounter, writes, taken, Bool.false_eq_true, if_false, Bool.not_false,
          decide_eq_false_iff_not, not_and, true_implies] at keeps
        exact ⟨counts, whole, keeps more live⟩
    have absorbed (p2 : c.p2 = 0) (fits : UInt64.ofNat content.length ≤ v.txContent.dataBytes) :
        (v.absorbed sdk content).txContent.dataBytes ≠ 0 := by
      intro zero
      refine carried p2 (UInt64.toNat_inj.mp ?_)
      have value := congrArg UInt64.toNat zero
      rw [Session.absorbed, UInt64.toNat_sub_of_le _ _ fits, UInt64.toNat_zero] at value
      have := UInt64.le_iff_toNat_le.mp fits
      omega
    cases chunk with
    | badP2 | tooLong => exact some
    | absorbs right fits => exact absorbed right fits
    | completes right fits _ ends => cases ends <;> exact absorbed right fits

theorem messageMove_settings (moved : MessageMove sdk c s news s') : s'.settings = s.settings := by
  cases moved with
  | refused | badOpening => rfl
  | enters entry chunk =>
    cases chunk with
    | completes _ _ _ ends => cases ends <;> cases entry <;> rfl
    | _ => cases entry <;> rfl

theorem dataApart_keeps (sdk : Sdk σ κ) : GuardKeeps sdk DataLive (dataApart (σ := σ) (κ := κ)) where
  message {w c news s'} apart own moved isOpen live := by
    refine ⟨live.1, fun data => ?_⟩
    have guarded : w.session.clearsCounter c = false := by
      simpa [dataApart, own, isOpen, data] using apart
    rw [messageMove_settings moved]
    exact ⟨messageMove_counter moved guarded (live.2 data).1, (live.2 data).2⟩
  toggle {w setting} apart isOpen live := by
    cases setting with
    | dataAllowed => simp [dataApart, isOpen] at apart
    | customContract | signByHash => exact live

/-- **In every step of a run, a review of a transaction with custom data warns of it and is
started, and the transaction signed, only under the setting, when no personal message clears
the counter that remembers the data.** -/
theorem data_gated {b : Boot} {es : List Event} {w w' : World σ κ} {e : Event}
    (run : AppRun sdk version dataApart b es w) (apart : dataApart w e = true)
    (stepped : step sdk version w e = some w') :
    ∃ news, w'.trace = news ++ w.trace ∧ AlwaysOver (DataGate w.session.settings) news w.trace := by
  have inv := ((dataRules sdk).run (dataApart_keeps sdk) run).1
  obtain ⟨news, trace, -, atop⟩ := (dataRules sdk).guarded (dataApart_keeps sdk) inv apart stepped
  exact ⟨news, trace, atop⟩

end

/-- A transfer with two bytes of custom data, and a personal message of no bytes that carries
one. -/
def forgottenData : List Event := [
  command Ins.sign P1.first 0 (pathBytes 0 ++ sampleTransfer ++ [0x52, 2, 0x68, 0x69]),
  command Ins.signPersonalMessage P1.first 0 (pathBytes 0 ++ [0, 0, 0, 0, 0x68])]

/-- The message is refused, and the review that follows warns of nothing. -/
theorem data_forgotten : ∃ w w' news, AppRun device deviceVersion anyStep deviceBoot forgottenData w ∧
    step device deviceVersion w (command Ins.sign P1.last 0 [0x70, 1]) = some w' ∧
      w'.trace = news ++ w.trace ∧ ¬AlwaysOver (DataGate w.session.settings) news w.trace := by
  obtain ⟨w, run, found⟩ := Run.exists_of_exec (step device deviceVersion) anyStep
    (boot device deviceBoot) forgottenData
    (fun w => (step device deviceVersion w (command Ins.sign P1.last 0 [0x70, 1])).any fun w' =>
      (lastReview w'.trace).any fun found => found.2.length ≥ w.trace.length &&
        !found.1.infos.dataWarning && (lastCommand found.2).any Command.isSign &&
        customData (sessionRecords found.2) ≠ [])
    (by decide +kernel)
  rw [Option.any_eq_true] at found
  obtain ⟨w', stepped, found⟩ := found
  rw [Option.any_eq_true] at found
  obtain ⟨⟨r, older⟩, reviewed, found⟩ := found
  obtain ⟨-, news, trace, -⟩ := step_moves device deviceVersion w stepped
  refine ⟨w, w', news, run, stepped, trace, fun atop => ?_⟩
  simp only [Bool.and_eq_true, Bool.not_eq_true', decide_eq_true_eq] at found
  have top := trace.symm.trans (lastReview_eq reviewed)
  cases news with
  | nil =>
    rw [List.nil_append] at top
    have longer := found.1.1.1
    simp [top] at longer
  | cons entry news =>
    obtain ⟨rfl, rfl⟩ := List.cons.inj top
    have warned := (atop.1 found.1.2 found.2).1
    simp [found.1.1.2] at warned

/-- A message of four bytes of which two are still expected keeps the counter above zero, and the
review warns of the data. -/
theorem data_remembered : ∃ w w' news,
    AppRun device deviceVersion dataApart deviceBoot [
      command Ins.sign P1.first 0 (pathBytes 0 ++ sampleTransfer ++ [0x52, 2, 0x68, 0x69]),
      command Ins.signPersonalMessage P1.first 0 (pathBytes 0 ++ [0, 0, 0, 4, 0x74, 0x72])] w ∧
      step device deviceVersion w (command Ins.sign P1.last 0 [0x70, 1]) = some w' ∧
      w'.trace = news ++ w.trace ∧ AlwaysOver (DataGate w.session.settings) news w.trace ∧
      ∃ r, .review r ∈ news ∧ r.infos.dataWarning = true := by
  obtain ⟨w, run, found⟩ := Run.exists_of_exec (step device deviceVersion) dataApart
    (boot device deviceBoot)
    ([command Ins.sign P1.first 0 (pathBytes 0 ++ sampleTransfer ++ [0x52, 2, 0x68, 0x69]),
      command Ins.signPersonalMessage P1.first 0 (pathBytes 0 ++ [0, 0, 0, 4, 0x74, 0x72])])
    (fun w => dataApart w (command Ins.sign P1.last 0 [0x70, 1]) &&
      (step device deviceVersion w (command Ins.sign P1.last 0 [0x70, 1])).any fun w' =>
        (lastReview w'.trace).any fun found => found.2.length ≥ w.trace.length && found.1.infos.dataWarning)
    (by decide +kernel)
  simp only [Bool.and_eq_true, Option.any_eq_true, decide_eq_true_eq] at found
  obtain ⟨apart, w', stepped, ⟨r, older⟩, reviewed, longer, warned⟩ := found
  obtain ⟨news, trace, atop⟩ := data_gated run apart stepped
  refine ⟨w, w', news, run, stepped, trace, atop, r, ?_, warned⟩
  have top := trace.symm.trans (lastReview_eq reviewed)
  cases news with
  | nil =>
    rw [List.nil_append] at top
    simp [top] at longer
  | cons entry news =>
    obtain ⟨rfl, -⟩ := List.cons.inj top
    exact List.mem_cons_self

end TronLedger
