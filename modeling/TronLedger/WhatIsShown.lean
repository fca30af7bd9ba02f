import TronLedger.ShownLines
import TronLedger.SwapPayment
import TronLedger.TransactionEnd

/-!
# What the user sees

A review of INS_SIGN shows the lines of its transaction, in every run and whatever was shown
before it.
-/

namespace TronLedger

open Nanopb

section Names

variable {content : TxContent} {name : Bytes} {i : Fin 2}

/-- A name that was copied into its slot ends there. -/
theorem nameEnds_of_strcpy {before : Buf 67} (stored : content.tokenNames.get i = before.strcpy 0 name)
    (nonzero : ∀ c ∈ name, c ≠ 0) (short : name.length < 67)
    (length : name.length ≤ (content.tokenNamesLength.get i).toNat) : content.NameEnds i := by
  have text : content.tokenName i = name := by
    rw [TxContent.tokenName, stored]
    exact Buf.str_strcpy before 0 name nonzero (by omega)
  exact ⟨by rw [text]; exact length, by rw [text]; exact short⟩

theorem ContractOf.named {log : List Effect} {msg : Msg} (of : ContractOf log content msg)
    (type : content.contractType = .transfer ∨ (content.contractType = .triggerSmart ∧
      (content.trc20Method = 1 ∨ content.trc20Method = 2))) : content.NameEnds 0 := by
  rcases type with type | ⟨type, known⟩
  · have reader : contractReader content.contractType = some transferContract := by
      rw [type]
      rfl
    obtain ⟨contract, parameter, stored, named, carried, read, code, -, fixed, same⟩ := of.reads reader
    obtain rfl : named = stored := fixed (by rw [type]; rfl)
    obtain ⟨-, length, before, name⟩ := transferContract_destination read
    have trx : (ascii "TRX").length = 3 := by decide
    refine @nameEnds_of_strcpy _ (ascii "TRX") _ before ?_ (by decide +kernel) (by decide) ?_
    · rw [same]
      exact name
    · rw [same]
      change _ ≤ named.tokenNamesLength.first.toNat
      rw [length, trx]
      decide
  · obtain ⟨method, called⟩ : ∃ method : TokenMethod, content.trc20Method = method.code :=
      known.elim (fun transfer => ⟨.transfer, transfer⟩) fun approve => ⟨.approve, approve⟩
    obtain ⟨contract, parameter, -, -, -, -, token⟩ := of.call type
    obtain ⟨entry, word, word', call, stores⟩ := token method called
    obtain ⟨short, nonzero⟩ := ticker_short call.listed
    obtain ⟨before, name⟩ := stores.name
    refine nameEnds_of_strcpy name nonzero (by omega) ?_
    change _ ≤ content.tokenNamesLength.first.toNat
    rw [stores.length, UInt8.toNat_ofNat', Nat.mod_eq_of_lt (by omega)]
    omega

/-- The message of a permission update is as its parameter encodes it. -/
theorem ContractOf.sized {log : List Effect} {msg : Msg} (of : ContractOf log content msg)
    (type : content.contractType = .accountPermissionUpdate) : msg.Sized := by
  obtain ⟨contract, parameter, stored, named, read, -, code, found, -, -, -, same⟩ := of.stored
  rw [same type, update_read (code.trans type) found]
  exact decodedUpdate_sized parameter

end Names

section Runs

variable {σ κ : Type} {sdk : Sdk σ κ} {version : AppVersion} {b : Boot} {es : List Event} {w w' : World σ κ}
  {c : Command} {guard : World σ κ → Event → Bool}

/-- What is known of a review that INS_SIGN starts. -/
structure Shows (sdk : Sdk σ κ) (contacts : List Contact) (r : Review) : Prop where
  presentable : Presentable r.content r.msg
  lines : (∀ a ∈ shownAddresses r.content r.msg, a.bytes.head? = some 0x41) →
    r.lines = screenLines sdk contacts r.content r.msg r.hash

theorem Reviewed.lines {older : List Effect} {r : Review} (encodes : sdk.EncodesBase58) (formats : sdk.FormatsHex)
    (reviewed : Reviewed sdk w r older) (presentable : Presentable r.content r.msg)
    (mainnet : ∀ a ∈ shownAddresses r.content r.msg, a.bytes.head? = some 0x41) :
    r.lines = screenLines sdk w.app.contacts r.content r.msg r.hash := by
  obtain ⟨-, ⟨before, called, validated, time, ⟨buffer, mark, clear⟩, shows⟩, ready⟩ := reviewed
  have lines := shows.lines encodes formats (by rw [clear]) (by rw [clear]) (by rw [clear]) presentable mainnet
  dsimp only at lines
  rw [lines_eq ready, lines]

/-- **In every run, a review of INS_SIGN shows the lines of its transaction.** -/
theorem AppRun.shows (encodes : sdk.EncodesBase58) (formats : sdk.FormatsHex) (run : AppRun sdk version guard b es w)
    (stepped : step sdk version w (.apdu c) = some w') (own : c.isSign = true) :
    ∃ news, w'.trace = news ++ w.trace ∧
      AlwaysOver (fun entry _ => ∀ r, entry = .review r → Shows sdk w.app.contacts r) news w.trace := by
  obtain ⟨news, trace, reviewed⟩ := AppRun.reviews sdk run stepped own
  obtain ⟨news₁, trace₁, fees⟩ := run.feeShown stepped
  obtain rfl : news₁ = news := List.append_cancel_right (trace₁.symm.trans trace)
  obtain ⟨news₂, trace₂, names⟩ := measuredRule.shown run stepped
  obtain rfl : news₂ = news₁ := List.append_cancel_right (trace₂.symm.trans trace)
  have last := step_reviewed sdk w stepped own trace
  refine ⟨news₂, trace, (((reviewed.and fees).and names).and last).mono ?_⟩
  rintro entry older ⟨⟨⟨reviewed, fee⟩, names⟩, last⟩ r rfl
  have reviewed := reviewed r rfl
  have last := last r rfl
  obtain ⟨content, content_eq, of⟩ := reviewed.of
  have type : content.contractType = r.content.contractType := by rw [content_eq, renderedContent_type]
  have presentable : Presentable r.content r.msg := by
    refine ⟨names last, (fee last).2.2, fun known => ?_, fun update => of.sized (type.trans update)⟩
    have kept : r.content = content := by
      rw [content_eq, renderedContent, if_neg]
      rw [type]
      rcases known with known | ⟨known, -⟩ <;> simp [known]
    rw [kept] at known ⊢
    exact of.named known
  exact ⟨presentable, fun mainnet => reviewed.lines encodes formats presentable mainnet⟩

/-- **Every review of INS_SIGN shows the lines of its transaction, line by line, whatever happened
before it.** -/
theorem review_lines (encodes : sdk.EncodesBase58) (formats : sdk.FormatsHex) (run : AppRun sdk version guard b es w)
    (stepped : step sdk version w (.apdu c) = some w') (own : c.isSign = true) :
    w.Reviews w' fun r => (∀ a ∈ shownAddresses r.content r.msg, a.bytes.head? = some 0x41) →
      r.lines = screenLines sdk w.app.contacts r.content r.msg r.hash := by
  obtain ⟨news, trace, shows⟩ := AppRun.shows encodes formats run stepped own
  refine ⟨news, trace, fun r among => ?_⟩
  obtain ⟨newer, older, -, shows⟩ := shows.at_mem among
  exact (shows r rfl).lines

end Runs

/-- A transfer of 1.5 TRX, behind a rejected transfer of a token. -/
theorem review_lines_after_rejection : ∃ w w' r,
    AppRun device deviceVersion anyStep deviceBoot
      [command Ins.sign P1.sign 0 sampleTokenTransfer (by decide +kernel), .answer false] w ∧
    step device deviceVersion w (command Ins.sign P1.sign 0 (pathBytes 0 ++ sampleTransfer)) = some w' ∧
    w'.trace.head? = some (.review r) ∧ r.lines =
      [textLine "Amount" (ascii "1.5"), textLine "Token" (ascii "TRX"),
        textLine "To" (base58Check device (Buf.ofBytes 21 (sampleAccount 2))),
        textLine "From" (base58Check device (Buf.ofBytes 21 (sampleAccount 1)))] := by
  obtain ⟨w, run, found⟩ := Run.exists_of_exec (step device deviceVersion) anyStep (boot device deviceBoot)
    [command Ins.sign P1.sign 0 sampleTokenTransfer (by decide +kernel), .answer false]
    (fun w => w.app.contacts = [] &&
      (step device deviceVersion w (command Ins.sign P1.sign 0 (pathBytes 0 ++ sampleTransfer))).any fun w' =>
        (lastReview w'.trace).any fun found => w.trace.length ≤ found.2.length &&
          (shownAddresses found.1.content found.1.msg).all (fun a => a.bytes.head? = some 0x41) &&
          screenLines device [] found.1.content found.1.msg found.1.hash =
            [textLine "Amount" (ascii "1.5"), textLine "Token" (ascii "TRX"),
              textLine "To" (base58Check device (Buf.ofBytes 21 (sampleAccount 2))),
              textLine "From" (base58Check device (Buf.ofBytes 21 (sampleAccount 1)))]) (by decide +kernel)
  simp only [Bool.and_eq_true, decide_eq_true_eq, Option.any_eq_true] at found
  obtain ⟨unlabelled, w', stepped, ⟨r, older⟩, last, ⟨length, mainnet⟩, lines⟩ := found
  have trace : w'.trace = .review r :: older := lastReview_eq last
  obtain ⟨news, trace', shows⟩ := review_lines (fun _ _ => rfl) device_formatsHex run stepped (by decide)
  have among : .review r ∈ news := by
    cases news with
    | nil =>
      have same := congrArg List.length (trace'.symm.trans trace)
      simp only [List.nil_append, List.length_cons] at same
      dsimp only at length
      omega
    | cons entry news =>
      obtain ⟨rfl, -⟩ := List.cons.inj (trace'.symm.trans trace)
      exact List.mem_cons_self
  refine ⟨w, w', r, run, stepped, by rw [trace]; rfl, ?_⟩
  rw [← lines, ← unlabelled]
  apply shows r among
  simpa using mainnet

end TronLedger
