import TronLedger.Moves
import TronLedger.AddressReview

/-!
# The digest of a personal message

The hash shown for a personal message, and signed, is the Keccak digest of the header, the
decimal length and the message, as long as the length prints unsigned and every further chunk
finds the counter of the expected bytes as the message left it.

* `openMessage` reads the message under way from the log.
* `messageApart` is the condition on the steps.
-/

namespace TronLedger

/-- The length announced for the message under way, and the bytes accepted for it. -/
def openMessage : List Effect → Option (UInt32 × Bytes)
  | [] => none
  | .messageStart length :: _ => some (length, [])
  | .messageBytes content :: older =>
    (openMessage older).map fun (length, message) => (length, message ++ content)
  | _ :: older => openMessage older

/-- `hash` is the digest of the message under way, which is complete. -/
def DigestOf (keccak : Bytes → Buf 32) (hash : Buf 32) (log : List Effect) : Prop :=
  ∃ length message, openMessage log = some (length, message) ∧ message.length = length.toNat ∧
    hash = keccak (signMagic ++ decimal length.toNat ++ message)

/-- What the message under way lacks. -/
def lacking (log : List Effect) : Option Nat :=
  (openMessage log).map fun (length, message) => length.toNat - message.length

/-- The line of the message hash shows the hash of the review. -/
def Review.ShowsHash {σ κ : Type} (sdk : Sdk σ κ) (r : Review) : Prop :=
  ∃ f ∈ r.infos.fields, f.item = .text (ascii "Message hash") ∧
    f.value.shown r.ui = sdk.hexText r.hash.bytes

/-- The hash of a personal message on screen, and the one signed for it, is its digest. -/
def Digested {σ κ : Type} (sdk : Sdk σ κ) (keccak : Bytes → Buf 32) : Effect → List Effect → Prop
  | .review r, older => r.infos.state = .signPersonalMessage → DigestOf keccak r.hash older ∧ r.ShowsHash sdk
  | .signature _ hash, older =>
    (lastCommand older).any Command.isMessage = true → DigestOf keccak hash older
  | _, _ => True

/-- The length the first APDU of a message announces. -/
def Command.announced (c : Command) : Option UInt32 :=
  match (readBip32Path c.data []).2 with
  | none => none
  | some n =>
    if 4 ≤ (c.data.drop n).length then some (UInt32.ofNat (beNat ((c.data.drop n).take 4))) else none

section

variable {σ κ : Type}

/-- An APDU that brings more bytes of the message that is open. -/
def Session.bringsMore (s : Session σ κ) (c : Command) : Bool :=
  s.settings.signByHash ∧ !s.calledFromSwap ∧ c.p1 = P1.more ∧ s.personal.initialized ∧ c.p2 = 0

/-- A message announces a length below `2 ^ 31`; and more bytes of it find the counter
`txContent.dataBytes` at what the message lacks. -/
def messageApart (w : World σ κ) : Event → Bool
  | .apdu c => !c.isMessage ||
      if w.session.writesPath c then c.announced.all (·.toNat < 2 ^ 31)
      else !w.session.bringsMore c || lacking w.trace = some w.session.txContent.dataBytes.toNat
  | _ => true

end

theorem personalLength_eq {length : UInt32} (small : length.toNat < 2 ^ 31) :
    personalLength length = decimal length.toNat := by
  have value : length.toInt32.toInt = length.toNat :=
    BitVec.toInt_eq_toNat_of_lt (x := length.toBitVec) (by simp; omega)
  have short : (decimal length.toNat).length ≤ 10 := by
    have := (Nat.length_toDigits_le_iff (b := 10) (n := length.toNat) (k := 10)
      (by decide) (by decide)).mpr (by omega)
    simpa [decimal, ascii] using this
  rw [personalLength, value, signedDecimal, if_neg (by omega), Int.natAbs_natCast,
    List.take_of_length_le short]

section

variable {σ κ : Type} {sdk : Sdk σ κ} {version : AppVersion} {keccak : Bytes → Buf 32}
  {s s' : Session σ κ} {c : Command} {news log : List Effect}

/-- The message under way is the one in the hash context. -/
def MessageOpen (sdk : Sdk σ κ) (s : Session σ κ) (log : List Effect) : Prop :=
  ∃ length chunks, openMessage log = some (length, chunks.flatten) ∧ length.toNat < 2 ^ 31 ∧
    s.personal.sha3 = sdk.keccak256.absorb ([signMagic, personalLength length] ++ chunks) ∧
    chunks.flatten.length ≤ length.toNat

/-- The invariant of the personal messages. -/
structure MessageInv (sdk : Sdk σ κ) (keccak : Bytes → Buf 32) (s : Session σ κ)
    (log : List Effect) : Prop where
  digests : Always (Digested sdk keccak) log
  live : s.personal.initialized = true → MessageOpen sdk s log
  asked : s.pending = some .signPersonalMessage → DigestOf keccak s.hash log
  kind : s.pending.isSome = true → (lastCommand log).any Command.isMessage = true →
    s.pending = some .signPersonalMessage

/-- Entries that are not about a personal message. -/
def Effect.apart : Effect → Bool
  | .messageStart _ | .messageBytes _ | .apdu _ => false
  | .review r => r.infos.state ≠ .signPersonalMessage
  | _ => true

theorem openMessage_append (apart : ∀ entry ∈ news, entry.apart = true) :
    openMessage (news ++ log) = openMessage log := by
  induction news with
  | nil => rfl
  | cons entry news ih =>
    have rest := ih fun e h => apart e (List.mem_cons_of_mem _ h)
    cases entry with
    | messageStart | messageBytes => simpa [Effect.apart] using apart _ List.mem_cons_self
    | _ => exact rest

theorem lastCommand_append (apart : ∀ entry ∈ news, entry.apart = true) :
    lastCommand (news ++ log) = lastCommand log := by
  induction news with
  | nil => rfl
  | cons entry news ih =>
    have rest := ih fun e h => apart e (List.mem_cons_of_mem _ h)
    cases entry with
    | apdu => simpa [Effect.apart] using apart _ List.mem_cons_self
    | _ => exact rest

theorem digests_append (apart : ∀ entry ∈ news, entry.apart = true)
    (signs : ∀ path hash, .signature path hash ∈ news →
      (lastCommand log).any Command.isMessage = true → DigestOf keccak hash log)
    (all : Always (Digested sdk keccak) log) : Always (Digested sdk keccak) (news ++ log) := by
  induction news with
  | nil => exact all
  | cons entry news ih =>
    have apart' : ∀ e ∈ news, e.apart = true := fun e h => apart e (List.mem_cons_of_mem _ h)
    refine ⟨?_, ih apart' fun p hash h => signs p hash (List.mem_cons_of_mem _ h)⟩
    change Digested sdk keccak entry (news ++ log)
    cases entry with
    | review r =>
      have other := apart _ List.mem_cons_self
      intro same
      simp [Effect.apart, same] at other
    | signature path hash =>
      intro message
      rw [lastCommand_append apart'] at message
      obtain ⟨length, m, under, whole⟩ := signs path hash List.mem_cons_self message
      exact ⟨length, m, by rw [openMessage_append apart', under], whole⟩
    | _ => trivial

theorem apart_of_fromSign {entry : Effect} (h : entry.fromSign = true) : entry.apart = true := by
  cases entry with
  | review r =>
    simp only [Effect.fromSign] at h
    simp only [Effect.apart, decide_eq_true_eq]
    intro same
    rw [same] at h
    simp [ApprovalState.isTransaction] at h
  | _ => simp_all [Effect.fromSign, Effect.apart]

theorem apart_of_fromOther {entry : Effect} (h : entry.fromOther = true) : entry.apart = true := by
  cases entry with
  | review r =>
    simp only [Effect.fromOther] at h
    simp only [Effect.apart, decide_eq_true_eq]
    intro same
    rw [same] at h
    simp [ApprovalState.isOther] at h
  | _ => simp_all [Effect.fromOther, Effect.apart]

theorem apart_of_fromAnswer {entry : Effect} (h : entry.fromAnswer = true) :
    entry.apart = true := by
  cases entry <;> simp_all [Effect.fromAnswer, Effect.apart]

theorem MessageInv.received (inv : MessageInv sdk keccak s log) (idle : s.pending = none) :
    MessageInv sdk keccak s (.apdu c :: log) where
  digests := ⟨trivial, inv.digests⟩
  live := inv.live
  asked := by simp [idle]
  kind := by simp [idle]

/-- A move apart from the personal messages keeps the invariant. -/
theorem MessageInv.apart (inv : MessageInv sdk keccak s log)
    (apart : ∀ entry ∈ news, entry.apart = true) (personal : s'.personal = s.personal)
    (signs : ∀ path hash, .signature path hash ∈ news →
      (lastCommand log).any Command.isMessage = true → DigestOf keccak hash log)
    (pending : s'.pending = none ∨ (s'.pending ≠ some .signPersonalMessage ∧
      (lastCommand log).any Command.isMessage = false)) :
    MessageInv sdk keccak s' (news ++ log) where
  digests := digests_append apart signs inv.digests
  live isLive := by
    rw [personal] at isLive
    obtain ⟨length, chunks, under, small, absorbed, within⟩ := inv.live isLive
    exact ⟨length, chunks, by rw [openMessage_append apart, under], small, by rw [personal, absorbed], within⟩
  asked same := by
    rcases pending with none | ⟨other, -⟩
    · simp [none] at same
    · exact absurd same other
  kind asks message := by
    rw [lastCommand_append apart] at message
    rcases pending with none | ⟨-, other⟩
    · simp [none] at asks
    · simp [other] at message

section Moves

theorem signMove_pending (moved : SignMove sdk c s news s') :
    s'.personal = s.personal ∧
      (s'.pending = s.pending ∨ s'.pending ≠ some .signPersonalMessage) := by
  have ended {v v' : Session σ κ} {rest : List Effect} (ends : SignEnd sdk v rest v') :
      v'.personal = v.personal ∧
        (v'.pending = v.pending ∨ v'.pending ≠ some .signPersonalMessage) := by
    cases ends with
    | reviewing kind r noSwap own =>
      refine ⟨rfl, .inr ?_⟩
      simp only [ne_eq, Option.some.injEq]
      rintro rfl
      simp [ApprovalState.isTransaction] at own
    | _ => exact ⟨rfl, .inl rfl⟩
  have parsed {v v' : Session σ κ} {rest : List Effect} {payload : Bytes}
      (parse : SignParse sdk c payload v rest v') : v'.personal = v.personal ∧
        (v'.pending = v.pending ∨ v'.pending ≠ some .signPersonalMessage) := by
    cases parse with
    | finalises _ ends =>
      have kept := ended ends
      exact kept
    | _ => exact ⟨rfl, .inl rfl⟩
  cases moved with
  | early => exact ⟨rfl, .inl rfl⟩
  | enters _ entry chunk =>
    rename_i v payload
    obtain ⟨personal, pending⟩ : s'.personal = v.personal ∧
        (s'.pending = v.pending ∨ s'.pending ≠ some .signPersonalMessage) := by
      cases chunk with
      | parses _ _ parse =>
        have kept := parsed parse
        exact kept
      | swapParses _ _ _ parse =>
        have kept := parsed parse
        exact kept
      | _ => exact ⟨rfl, .inl rfl⟩
    cases entry <;> exact ⟨personal, pending⟩

/-- The bytes of an APDU are too few for its length to wrap. -/
theorem content_length {content : Bytes} (short : content.length ≤ c.data.length) :
    (UInt64.ofNat content.length).toNat = content.length := by
  have := c.short
  exact UInt64.toNat_ofNat_of_lt' (by simp only [UInt64.size]; omega)

/-- Message bytes that fit are part of the message under way, which then lacks as many less. -/
theorem MessageOpen.absorbs {content : Bytes} (opened : MessageOpen sdk s log)
    (counted : lacking log = some s.txContent.dataBytes.toNat) (short : content.length ≤ c.data.length)
    (fits : UInt64.ofNat content.length ≤ s.txContent.dataBytes) :
    MessageOpen sdk (s.absorbed sdk content) (.messageBytes content :: log) ∧
      lacking (.messageBytes content :: log) = some (s.absorbed sdk content).txContent.dataBytes.toNat := by
  obtain ⟨length, chunks, under, small, absorbed, within⟩ := opened
  have left : length.toNat - chunks.flatten.length = s.txContent.dataBytes.toNat := by
    rw [lacking, under, Option.map_some, Option.some.injEq] at counted
    exact counted
  have counter : (s.absorbed sdk content).txContent.dataBytes.toNat =
      s.txContent.dataBytes.toNat - content.length := by
    rw [Session.absorbed, UInt64.toNat_sub_of_le _ _ fits, content_length short]
  have room : content.length ≤ s.txContent.dataBytes.toNat := by
    rw [← content_length short]
    exact UInt64.le_iff_toNat_le.mp fits
  have flat : (chunks ++ [content]).flatten = chunks.flatten ++ content := by simp
  have longer : openMessage (.messageBytes content :: log) = some (length, (chunks ++ [content]).flatten) := by
    rw [openMessage, under, flat]
    rfl
  refine ⟨⟨length, chunks ++ [content], longer, small, ?_, ?_⟩, ?_⟩
  · simp only [Session.absorbed, absorbed, ← List.append_assoc, StreamHash.absorb_snoc]
  · rw [flat, List.length_append]
    omega
  · have less : length.toNat - (chunks.flatten ++ content).length = s.txContent.dataBytes.toNat - content.length := by
      rw [List.length_append]
      omega
    rw [lacking, longer, flat, counter, ← less]
    rfl

/-- The hash of a message that lacks nothing is its digest. -/
theorem MessageOpen.digest (opened : MessageOpen sdk s log) (ok : sdk.keccak256.Correct keccak)
    (done : lacking log = some 0) : DigestOf keccak (s.digested sdk).hash log := by
  obtain ⟨length, chunks, under, small, absorbed, within⟩ := opened
  have left : length.toNat - chunks.flatten.length = 0 := by
    rw [lacking, under, Option.map_some, Option.some.injEq] at done
    exact done
  refine ⟨length, chunks.flatten, under, by omega, ?_⟩
  simp only [Session.digested, Session.personalCleared, absorbed]
  rw [ok, ← personalLength_eq small]
  simp

/-- A digest that is written is on the line of the message hash. -/
theorem showsHash_of_written (formats : sdk.FormatsHex) {r : Review}
    (shown : ReviewOf s .signPersonalMessage false r)
    (written : ∃ old, r.ui.fullContract = sdk.putHex old 0 s.hash.bytes 67) : r.ShowsHash sdk := by
  obtain ⟨old, written⟩ := written
  obtain ⟨f, among, item, value⟩ := prepareTxInfos_displays shown.ready
    (f := field "Message hash" .fullContract) (by simp [reviewFields])
  refine ⟨f, among, item, ?_⟩
  rw [value, shown.hash_eq]
  change r.ui.fullContract.str 0 = _
  rw [written]
  exact formats.put_str old 0 _ (by rw [Buf.size]; decide) (by decide)

theorem messageEntry_keeps {first : List Effect} {v : Session σ κ} {content : Bytes}
    (inv : MessageInv sdk keccak s log) (idle : s.pending = none)
    (small : s.writesPath c = true → c.announced.all (·.toNat < 2 ^ 31) = true)
    (counted : s.writesPath c = false → s.bringsMore c = true → lacking log = some s.txContent.dataBytes.toNat)
    (entry : MessageEntry sdk c s first v content) :
    MessageInv sdk keccak v (first ++ log) ∧ v.pending = none ∧ MessageOpen sdk v (first ++ log) ∧
      (c.p2 = 0 → lacking (first ++ log) = some v.txContent.dataBytes.toNat) ∧
      content.length ≤ c.data.length ∧ lastCommand (first ++ log) = lastCommand log := by
  cases entry with
  | opens n length writes read long announced =>
    have less : length.toNat < 2 ^ 31 := by
      have same : c.announced = some length := by
        simp only [Command.announced, readBip32Path_accepted read [], read, announced, if_pos long]
      simpa [same] using small writes
    have opened : MessageOpen sdk
        { s with
          path := s.pathWritten c
          txContent := { s.txContent with dataBytes := length.toUInt64 }
          personal := ⟨sdk.keccak256.absorb [signMagic, personalLength length], true⟩ }
        (.messageStart length :: log) := ⟨length, [], rfl, less, rfl, by simp⟩
    refine ⟨⟨⟨trivial, inv.digests⟩, fun _ => opened, ?_, ?_⟩, idle, opened, fun _ => ?_, by simp, rfl⟩
    · simp [idle]
    · simp [idle]
    · simp [lacking, openMessage]
  | continues more keeps live taken =>
    refine ⟨inv, idle, inv.live live, fun right => ?_, Nat.le_refl _, rfl⟩
    exact counted keeps (by simp [Session.bringsMore, more, live, taken, right])

/-- An APDU of a personal message keeps the invariant. -/
theorem messageMove_digests (inv : MessageInv sdk keccak s log) (ok : sdk.keccak256.Correct keccak)
    (formats : sdk.FormatsHex) (idle : s.pending = none)
    (small : s.writesPath c = true → c.announced.all (·.toNat < 2 ^ 31) = true)
    (counted : s.writesPath c = false → s.bringsMore c = true → lacking log = some s.txContent.dataBytes.toNat)
    (moved : MessageMove sdk c s news s') : MessageInv sdk keccak s' (news ++ log) := by
  cases moved with
  | refused =>
    exact inv.apart (by simp [Effect.apart]) rfl (by simp) (.inl idle)
  | badOpening =>
    refine ⟨⟨trivial, inv.digests⟩, ?_, ?_, ?_⟩ <;> simp [Session.personalCleared, idle]
  | enters entry chunk =>
    rename_i first news v content
    obtain ⟨inv, idle, opened, counted, short, last⟩ := messageEntry_keeps inv idle small counted entry
    rw [List.append_assoc]
    generalize first ++ log = log' at *
    cases chunk with
    | badP2 =>
      exact inv.apart (by simp [Effect.apart]) rfl (by simp) (.inl idle)
    | tooLong =>
      refine ⟨⟨trivial, inv.digests⟩, ?_, ?_, ?_⟩ <;> simp [Session.personalCleared, idle]
    | absorbs right fits _ =>
      refine ⟨⟨trivial, trivial, inv.digests⟩, fun _ => (opened.absorbs (counted right) short fits).1, ?_, ?_⟩ <;>
        simp [Session.absorbed, idle]
    | completes right fits done ends =>
      obtain ⟨opened, counted⟩ := opened.absorbs (counted right) short fits
      rw [done] at counted
      have digest := opened.digest ok counted
      cases ends with
      | failed =>
        refine ⟨⟨trivial, trivial, inv.digests⟩, ?_, ?_, ?_⟩ <;>
          simp [Session.digested, Session.personalCleared, Session.absorbed, idle]
      | reviewing r shown written =>
        refine ⟨⟨fun _ => ⟨?_, showsHash_of_written formats shown written⟩, trivial, inv.digests⟩, ?_, fun _ => digest,
          fun _ _ => rfl⟩
        · rw [shown.hash_eq]
          exact digest
        · simp [Session.digested, Session.personalCleared]

/-- The answer to a review signs a message with the hash of its review. -/
theorem answerMove_signs {state : ApprovalState} (asked : s.pending = some state)
    (inv : MessageInv sdk keccak s log)
    (moved : AnswerMove sdk { s with pending := none } state news s') (path : Bip32Path)
    (hash : Buf 32) (signs : .signature path hash ∈ news)
    (message : (lastCommand log).any Command.isMessage = true) : DigestOf keccak hash log := by
  have kind := inv.kind (by simp [asked]) message
  have digest := inv.asked kind
  obtain rfl : state = .signPersonalMessage := Option.some.inj (asked.symm.trans kind)
  cases moved with
  | messageSigned data =>
    obtain ⟨-, rfl⟩ : path = s.path ∧ hash = s.hash := by simpa using signs
    exact digest
  | sharedTyped _ _ _ typed => simp at typed
  | signed _ own => simp [ApprovalState.isTransaction] at own
  | shared | messageFailed | closed => simp at signs

theorem answerMove_kept {state : ApprovalState} (moved : AnswerMove sdk s state news s') :
    s'.personal = s.personal ∧ s'.pending = s.pending := by
  cases moved <;> exact ⟨rfl, rfl⟩

/-- An APDU outside both protocols keeps the invariant. -/
theorem otherMove_keepsMessage (notMessage : c.isMessage = true → s.calledFromSwap = true)
    (inv : MessageInv sdk keccak s log) (idle : s.pending = none)
    (last : lastCommand log = some c) (moved : OtherMove c s news s') :
    MessageInv sdk keccak s' (news ++ log) := by
  have apart := fun entry h => apart_of_fromOther (otherMove_news moved entry h)
  have away (noSwap : s.calledFromSwap = false) :
      (lastCommand log).any Command.isMessage = false := by
    rw [last, Option.any_some, Bool.eq_false_iff]
    intro message
    simp [notMessage message] at noSwap
  obtain ⟨hash, ends⟩ := moved
  cases ends with
  | replied => exact inv.apart apart rfl (by simp) (.inl idle)
  | reviewing kind r noSwap other =>
    refine inv.apart apart rfl (by simp) (.inr ⟨?_, away noSwap⟩)
    simp only [ne_eq, Option.some.injEq]
    rintro rfl
    simp [ApprovalState.isOther] at other
  | verifying noSwap =>
    exact inv.apart apart rfl (by simp) (.inr ⟨by simp, away noSwap⟩)

end Moves

theorem MessageInv.start (b : Boot) : MessageInv sdk keccak (boot sdk b).session [] where
  digests := trivial
  live := by simp [boot, World.session]
  asked := by simp [boot, World.session]
  kind := by simp [boot, World.session]

/-- **The hash of a personal message, shown and signed, is the digest of the whole message, in
every run in which its length is below `2 ^ 31` and more bytes of it find the counter as it left it.** -/
theorem messages_digested (ok : sdk.keccak256.Correct keccak) (formats : sdk.FormatsHex) {b : Boot} {es : List Event}
    {w : World σ κ} (run : AppRun sdk version messageApart b es w) :
    Always (Digested sdk keccak) w.trace := by
  suffices MessageInv sdk keccak w.session w.trace from this.digests
  refine AppRun.preserves sdk version w (MessageInv.start b) ?_ run
  intro w e w' news inv guarded stepped moved
  generalize w'.session = s' at moved ⊢
  cases moved with
  | apdu c idle moved =>
    rw [List.append_assoc]
    have inv := inv.received (c := c) idle
    cases moved with
    | sign own moved =>
      obtain ⟨personal, pending⟩ := signMove_pending moved
      have notMessage := isSign_not_isMessage own
      refine inv.apart (fun entry h => apart_of_fromSign (signMove_news moved entry h)) personal ?_ ?_
      · simp [lastCommand, notMessage]
      · rcases pending with same | other
        · exact .inl (same.trans idle)
        · exact .inr ⟨other, by simp [lastCommand, notMessage]⟩
    | message own _ moved =>
      refine messageMove_digests inv ok formats idle (fun writes => ?_) (fun keeps more => ?_) moved
      · simpa [messageApart, own, writes] using guarded
      · change lacking w.trace = _
        simpa [messageApart, own, keeps, more] using guarded
    | other _ notMessage moved => exact otherMove_keepsMessage notMessage inv idle rfl moved
  | answer confirm asked moved =>
    obtain ⟨personal, pending⟩ := answerMove_kept moved
    exact inv.apart (fun entry h => apart_of_fromAnswer (answerMove_news moved entry h)) personal
      (answerMove_signs asked inv moved) (.inl pending)
  | badFrame idle => exact inv.apart (by simp [Effect.apart]) rfl (by simp) (.inl idle)
  | toggleSetting idle => exact inv.apart (by simp) rfl (by simp) (.inl idle)
  | setContacts idle => exact inv.apart (by simp) rfl (by simp) (.inl idle)
  | ioReset idle => exact inv.apart (by simp [Effect.apart]) rfl (by simp) (.inl idle)

end

/-- A message of five bytes, and after two of them the first APDU of a transaction. -/
def interruptedMessage : List Event := [
  command Ins.signPersonalMessage P1.first 0 (pathBytes 0 ++ [0, 0, 0, 5, 0x68, 0x69]),
  command Ins.sign P1.first 0 (pathBytes 0),
  command Ins.signPersonalMessage P1.more 0 []]

/-- The transaction clears the counter, and the hash of two bytes is shown for five. -/
theorem truncated_message_reviewed : ∃ w,
    AppRun device deviceVersion anyStep deviceBoot interruptedMessage w ∧
      device.keccak256.Correct Keccak.hash ∧ ¬Always (Digested device Keccak.hash) w.trace := by
  obtain ⟨w, r, older, run, trace, found⟩ := exists_review anyStep interruptedMessage
    (fun r older => r.infos.state = .signPersonalMessage &&
      (openMessage older).all fun found => found.2.length ≠ found.1.toNat) (by decide +kernel)
  refine ⟨w, run, device_keccak256, fun all => ?_⟩
  rw [trace] at all
  simp only [Bool.and_eq_true, decide_eq_true_eq] at found
  obtain ⟨⟨length, message, under, whole, -⟩, -⟩ := all.1 found.1
  rw [under] at found
  simp [whole] at found

/-- A message in two chunks; the first APDU of a transaction clears the counter of another before
it, and a public key is read out between the chunks. -/
def messageBetween : List Event := [
  command Ins.signPersonalMessage P1.first 0 (pathBytes 0 ++ [0, 0, 0, 5, 0x68, 0x69]),
  command Ins.sign P1.first 0 (pathBytes 0),
  command Ins.signPersonalMessage P1.first 0 (pathBytes 0 ++ [0, 0, 0, 4, 0x6c, 0x65]),
  command Ins.getPublicKey 0 0 (pathBytes 9),
  command Ins.signPersonalMessage P1.more 0 [0x6f, 0x6e],
  .answer true]

theorem messages_digested_between : ∃ w,
    AppRun device deviceVersion messageApart deviceBoot messageBetween w ∧ (signatures w.trace).length = 1 ∧
      Always (Digested device Keccak.hash) w.trace := by
  obtain ⟨w, run, signed⟩ := Run.exists_of_exec (step device deviceVersion) messageApart (boot device deviceBoot)
    messageBetween (fun w => (signatures w.trace).length = 1) (by decide +kernel)
  exact ⟨w, run, by simpa using signed, messages_digested device_keccak256 device_formatsHex run⟩

end TronLedger
