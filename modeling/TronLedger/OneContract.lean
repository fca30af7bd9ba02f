import TronLedger.SessionContract

/-!
# One contract for each signed transaction

The parser limits the entries that carry a parameter to one. An entry without a parameter is
hashed and skipped, so that a transaction has exactly the contract shown when all of its
entries carry one.
-/

namespace TronLedger

open Nanopb

/-- The payloads of a session are one transaction with one contract entry, from which `content`
with `msg` is decoded. -/
def OneContract (log : List Effect) (content : TxContent) (msg : Msg) : Prop :=
  Framed (sessionPayloads log).flatten (sessionRecords log) ∧
    ∃ entry read, contractEntries (sessionRecords log) = [entry] ∧ ReadFrom entry content read ∧
      (content.contractType = .accountPermissionUpdate → msg = read)

/-- Every contract entry of the session carries a parameter. -/
def AllBear (log : List Effect) : Prop :=
  (contractEntries (sessionRecords log)).all bearsParameter = true

/-- What is shown, or accepted in a swap, is the one contract of the session exactly when every
entry of the session carries a parameter. -/
def OneContractIff : Effect → List Effect → Prop
  | .review r, older => (lastCommand older).any Command.isSign = true →
    ((∃ content, r.content = renderedContent content ∧ OneContract older content r.msg) ↔
      AllBear older)
  | .swapAccepted shown _, older => (lastCommand older).any Command.isSign = true →
    ((∃ content msg, shown = renderedContent content ∧ OneContract older content msg) ↔
      AllBear older)
  | _, _ => True

section

variable {σ κ : Type} {sdk : Sdk σ κ} {version : AppVersion} {log : List Effect} {content shown : TxContent} {msg msg' : Msg}

/-- A session with one entry shows that entry. -/
theorem ContractOf.allBear (of : ContractOf log content msg)
    (one : OneContract log shown msg') : AllBear log := by
  obtain ⟨-, entry, -, only, -⟩ := one
  obtain ⟨bearing, -, single, -⟩ := of.entry
  rw [only] at single
  have bears : bearsParameter entry = true := by
    by_contra bare
    simp [bare] at single
  simp [AllBear, only, bears]

/-- One entry carries a parameter; it is the only one when every entry does. -/
theorem ContractOf.oneContract (of : ContractOf log content msg) (all : AllBear log) :
    OneContract log content msg := by
  obtain ⟨rss, framed⟩ := of.framed
  obtain ⟨entry, read, single, from_entry, permission⟩ := of.entry
  refine ⟨?_, entry, read, ?_, from_entry, permission⟩
  · have whole := framed_flatten framed
    rw [sessionRecords_eq whole]
    exact whole
  · rw [← single]
    exact (List.filter_eq_self.mpr fun e among => List.all_eq_true.mp all e among).symm

theorem ShowsSession.oneContractIff {settings : Settings} {entry : Effect}
    (shows : ShowsSession sdk settings entry log) : OneContractIff entry log := by
  cases entry with
  | review r =>
    intro own
    obtain ⟨s, -, -, contract, -, shown⟩ := shows own
    refine ⟨fun ⟨content, _, one⟩ => contract.allBear one, fun all => ⟨s.txContent, shown.content_eq, ?_⟩⟩
    rw [shown.msg_eq]
    exact contract.oneContract all
  | swapAccepted shown ui =>
    intro own
    obtain ⟨s, -, contract, -, rfl⟩ := shows own
    exact ⟨fun ⟨content, msg, _, one⟩ => contract.allBear one,
      fun all => ⟨s.txContent, s.msg, rfl, contract.oneContract all⟩⟩
  | _ => trivial

/-- **At every review of a run, the transaction has one contract, the one shown, exactly when
every contract entry carries a parameter.** -/
theorem one_contract_iff {b : Boot} {es : List Event} {w : World σ κ}
    (run : AppRun sdk version anyStep b es w) : Always OneContractIff w.trace := by
  refine run.showsSession.mono fun entry older shows => ?_
  obtain ⟨settings, shows⟩ := shows
  exact shows.oneContractIff

end

/-- A transfer, and behind it a contract entry of no bytes. -/
def secondEntry : List Event := [
  command Ins.sign P1.first 0 (pathBytes 0 ++ sampleTransfer) sampleTransfer_short,
  command Ins.sign P1.last 0 (delimitedField 11 [])]

/-- The second entry is hashed and signed, and only the transfer is shown. -/
theorem second_entry_signed : ∃ w r older,
    AppRun device deviceVersion anyStep deviceBoot secondEntry w ∧ w.trace = .review r :: older ∧
      (lastCommand older).any Command.isSign = true ∧
      (contractEntries (sessionRecords older)).length = 2 := by
  obtain ⟨w, r, older, run, trace, found⟩ := exists_review anyStep secondEntry
    (fun _ older => (lastCommand older).any Command.isSign &&
      (contractEntries (sessionRecords older)).length = 2) (by decide +kernel)
  rw [Bool.and_eq_true] at found
  exact ⟨w, r, older, run, trace, found.1, by simpa using found.2⟩

/-- A transfer on its own is shown as the one contract of the transaction. -/
theorem one_contract_transfer : ∃ w r older, AppRun device deviceVersion anyStep deviceBoot
    [command Ins.sign P1.sign 0 (pathBytes 0 ++ sampleTransfer)] w ∧ w.trace = .review r :: older ∧
      ∃ content, r.content = renderedContent content ∧ OneContract older content r.msg := by
  obtain ⟨w, r, older, run, trace, found⟩ := exists_review anyStep
    [command Ins.sign P1.sign 0 (pathBytes 0 ++ sampleTransfer)]
    (fun _ older => (lastCommand older).any Command.isSign &&
      (contractEntries (sessionRecords older)).all bearsParameter) (by decide +kernel)
  rw [Bool.and_eq_true] at found
  have shown := one_contract_iff run
  rw [trace] at shown
  exact ⟨w, r, older, run, trace, (shown.1 found.1).mpr found.2⟩

end TronLedger
