import TronLedger.AddressText
import TronLedger.Device

/-!
# The addresses of a review

Every address a review of INS_SIGN shows, with the buffer it was rendered into as the step
found it.

* `ContractShows.sender`, `.toAddress` and their like say which text a buffer ends with.
* `addressLines` lists the addresses of a review.
-/

namespace TronLedger

/-- The string a field points to. -/
def Slot.shown (ui : Ui) : Slot → Bytes
  | .text s => s
  | .apduBuffer off => ui.apduBuffer.str off
  | .fullContract => ui.fullContract.str 0
  | .toAddress => ui.toAddress.str 0
  | .fromAddress => ui.fromAddress.str 0
  | .trc20Action => ui.trc20Action.str 0
  | .trc20ActionSendAllow => ui.trc20ActionSendAllow.str 0
  | .fullHash => ui.fullHash.str 0
  | .maxFee => ui.strings.str 122
  | .strings off => ui.strings.str off

/-- Some field of the review shows the slot, as its label or as its value. -/
def TxInfos.Displays (infos : TxInfos) (slot : Slot) : Prop :=
  ∃ f ∈ infos.fields, f.item = slot ∨ f.value = slot

/-- The service goes right above the recipient, or nowhere. -/
theorem insertKnownServiceLabel_cases {service : Option Bytes} {fields shown : List TagValue}
    (inserted : insertKnownServiceLabel service fields = some shown) :
    shown = fields ∨ ∃ label before address after, service = some label ∧
      fields = before ++ address :: after ∧ address.value = .toAddress ∧
      shown = before ++ ⟨.text (ascii "Service"), .text label, none⟩ :: address :: after := by
  cases service with
  | none => exact .inl (Option.some.inj inserted).symm
  | some label =>
    simp only [insertKnownServiceLabel] at inserted
    rw [List.span_eq_takeWhile_dropWhile] at inserted
    split at inserted
    · exact .inl (Option.some.inj inserted).symm
    · rename_i before address after parts
      split at inserted
      · simp at inserted
      obtain ⟨rfl, dropped⟩ := Prod.mk.inj parts
      have stops := List.head?_dropWhile_not (fun f : TagValue => decide (f.value ≠ .toAddress)) fields
      have whole := List.takeWhile_append_dropWhile
        (p := fun f : TagValue => decide (f.value ≠ .toAddress)) (l := fields)
      rw [dropped] at stops whole
      exact .inr ⟨label, _, address, after, rfl, whole.symm, by simpa using stops,
        (Option.some.inj inserted).symm⟩

/-- The fields of a review: those of its kind and the service, with the contacts in. -/
theorem prepareTxInfos_fields {state : ApprovalState} {dataWarning : Bool} {type : ContractType}
    {ui : Ui} {infos : TxInfos} (ready : prepareTxInfos state dataWarning type ui = .ready infos) :
    ∃ fields, insertKnownServiceLabel ui.recipientService (reviewFields state type ui) = some fields ∧
      infos.fields = applyAddressBookAliases ui fields := by
  simp only [prepareTxInfos] at ready
  split at ready
  · simp at ready
  split at ready
  · simp at ready
  rename_i fields inserted
  obtain rfl := Prepared.ready.inj ready
  exact ⟨fields, inserted, rfl⟩

/-- Contact aliases and the service label leave every field in the review. -/
theorem prepareTxInfos_displays {state : ApprovalState} {dataWarning : Bool} {type : ContractType}
    {ui : Ui} {infos : TxInfos} (ready : prepareTxInfos state dataWarning type ui = .ready infos)
    {f : TagValue} (among : f ∈ reviewFields state type ui) :
    ∃ g ∈ infos.fields, g.item = f.item ∧ g.value = f.value := by
  obtain ⟨fields, inserted, shown⟩ := prepareTxInfos_fields ready
  have kept : f ∈ fields := by
    rcases insertKnownServiceLabel_cases inserted with rfl | ⟨label, before, address, after, -, whole, -, rfl⟩
    · exact among
    · rw [whole] at among
      simp only [List.mem_append, List.mem_cons] at among ⊢
      tauto
  rw [shown]
  refine ⟨_, List.mem_map_of_mem kept, ?_⟩
  split_ifs <;> exact ⟨rfl, rfl⟩

section

variable {σ κ : Type}

/-- An address of a review: the buffer it was rendered into, as it was from the address on, the
slot that shows it, and the text around it. -/
structure AddressLine where
  address : Address
  old : Bytes
  slot : Slot
  lead : Bytes
  trail : Bytes

/-- The line shows the Base58Check text of its address. -/
def AddressLine.Exact (sdk : Sdk σ κ) (l : AddressLine) (ui : Ui) : Prop :=
  l.slot.shown ui = l.lead ++ base58Check sdk l.address ++ l.trail

/-- The prefix of the sender line: the permission, where it is not the owner's. -/
def permissionPrefix (content : TxContent) : Bytes :=
  if 0 < content.permissionId then ascii "P" ++ signedDecimal content.permissionId.toInt ++ ascii " - "
  else []

/-- The prefix is written before the address goes behind it. -/
def senderLine (old : Ui) (content : TxContent) : AddressLine where
  address := content.account
  old := if 0 < content.permissionId then
    ((old.fromAddress.strlcpy 0 (permissionPrefix content) 6).bytes.drop 5)
    else old.fromAddress.bytes
  slot := .fromAddress
  lead := permissionPrefix content
  trail := []

/-- The address behind `toAddress`, in the reviews that show one there. -/
def recipientShown (state : ApprovalState) (content : TxContent) : Option Address :=
  match state with
  | .transfer | .delegateResourceTransaction | .undelegateResourceTransaction => some content.destination
  | .freezeAssetTransaction | .unfreezeAssetTransaction => some (receiverOrOwner content)
  | .freezeAssetV2Transaction | .unfreezeAssetV2Transaction => some content.account
  | _ => none

def recipientLines (old : Ui) (r : Review) : List AddressLine :=
  match recipientShown r.infos.state r.content with
  | none => []
  | some address => [⟨address, old.toAddress.bytes, .toAddress, [], []⟩]

def contractLines (old : Ui) (r : Review) : List AddressLine :=
  if r.infos.state = .customContract then
    [⟨r.content.contractAddress, old.fullContract.bytes, .fullContract, [], []⟩]
  else []

variable (sdk : Sdk σ κ)

/-- The votes are rendered into one buffer, one after the other. -/
def voteLines : List VoteEntry → Nat → Buf 67 → List AddressLine
  | [], _, _ => []
  | vote :: votes, index, fullContract =>
    ⟨vote.address, fullContract.bytes, .apduBuffer (voteSlot index 0), [], []⟩ ::
      voteLines votes (index + 1) (getBase58FromAddress sdk vote.address fullContract 0)

/-- The keys of a permission are rendered into one buffer, one after the other. -/
def keyLines : List Key → Buf 35 → List Bytes → List AddressLine
  | key :: keys, address, line :: lines =>
    ⟨key.address, address.bytes, .text line, [],
        ascii " (weight " ++ signedDecimal key.weight.toInt ++ ascii ")"⟩ ::
      keyLines keys (getBase58FromAddress sdk key.address address 0) lines
  | _, _, _ => []

/-- The keys of every permission of an update. -/
def permissionLines (residue : Nat → Buf 35) :
    List (Option Permission) → List (Option PermissionEntry) → Nat → List AddressLine
  | some perm :: perms, some entry :: entries, index =>
    keyLines sdk (perm.keys.take 3) (residue index) entry.keys ++
      permissionLines residue perms entries (index + 1)
  | _ :: perms, _ :: entries, index => permissionLines residue perms entries (index + 1)
  | _, _, _ => []

/-- The addresses of a review that is rendered over `old`. -/
def addressLines (old : Ui) (residue : Nat → Buf 35) (r : Review) : List AddressLine :=
  senderLine old r.content :: recipientLines old r ++ contractLines old r ++
    (if r.infos.state = .witnessVoteTransaction then
      voteLines sdk r.content.votes.entries 0 old.fullContract else []) ++
    (if r.infos.state = .permissionUpdate then
      permissionLines sdk residue (permissionUpdateSlots r.msg) r.ui.permissionEntries 0 else [])

section Frames

variable {ctx : RenderContext σ κ} {content : TxContent} {ui shown : Ui} {kind : ApprovalState}

theorem putVotes_sender (votes : List VoteEntry) (index : Nat) :
    (Ui.putVotes ctx votes index ui).fromAddress = ui.fromAddress ∧
      (Ui.putVotes ctx votes index ui).senderContact = ui.senderContact := by
  induction votes generalizing index ui with
  | nil => exact ⟨rfl, rfl⟩
  | cons vote votes ih => exact ih (index + 1)

theorem putCallValue_sender (ui : Ui) : (Ui.putCallValue content ui).fromAddress = ui.fromAddress ∧
    (Ui.putCallValue content ui).senderContact = ui.senderContact := by
  unfold Ui.putCallValue
  split_ifs <;> exact ⟨rfl, rfl⟩

/-- No contract writes the sender line, or who the sender is. -/
theorem ContractShows.sender (shows : ContractShows ctx content ui kind shown) :
    shown.fromAddress = ui.fromAddress ∧ shown.senderContact = ui.senderContact := by
  unfold ContractShows at shows
  split at shows
  case h_3 =>
    split at shows
    · obtain ⟨text, before, -, before_eq, shown_eq⟩ := shows.shown_eq
      have same : shown.fromAddress = before.fromAddress ∧ shown.senderContact = before.senderContact := by
        rw [shown_eq]
        exact ⟨rfl, rfl⟩
      rw [same.1, same.2, before_eq]
      split_ifs <;> exact ⟨rfl, rfl⟩
    · rw [shows.shown_eq]
      exact putCallValue_sender (Ui.putCall ctx content (Ui.putAction (ascii "To") ui))
  case h_5 | h_6 =>
    obtain ⟨detail, -, shown_eq⟩ := shows.shown_eq
    rw [shown_eq]
    exact ⟨rfl, rfl⟩
  case h_8 =>
    rw [shows.shown_eq]
    exact putVotes_sender _ 0
  case h_17 =>
    obtain ⟨entries, -, shown_eq⟩ := shows.shown_eq
    rw [shown_eq]
    exact ⟨rfl, rfl⟩
  case h_18 => exact shows.elim
  case h_19 =>
    obtain ⟨name, -, shown_eq⟩ := shows.shown_eq
    rw [shown_eq]
    exact ⟨rfl, rfl⟩
  all_goals
    rw [shows.shown_eq]
    exact ⟨rfl, rfl⟩

/-- The recipient of a review is rendered over what `toAddress` held. -/
theorem ContractShows.toAddress (shows : ContractShows ctx content ui kind shown) {address : Address}
    (recipient : recipientShown kind content = some address) :
    shown.toAddress = getBase58FromAddress ctx.sdk address ui.toAddress 0 := by
  unfold ContractShows at shows
  split at shows
  case h_3 =>
    split at shows
    · obtain ⟨text, before, -, before_eq, shown_eq⟩ := shows.shown_eq
      rw [shows.kind_eq] at recipient
      obtain rfl := Option.some.inj recipient
      have same : shown.toAddress =
          getBase58FromAddress ctx.sdk content.destination before.toAddress 0 := by rw [shown_eq]; rfl
      rw [same, before_eq]
      split_ifs <;> rfl
    · rw [shows.kind_eq] at recipient
      simp [recipientShown] at recipient
  case h_18 => exact shows.elim
  all_goals
    rw [shows.kind_eq] at recipient
    simp only [recipientShown, Option.some.injEq, reduceCtorEq] at recipient
  all_goals
    subst recipient
    rw [shows.shown_eq]
    rfl

/-- The contract of a call is rendered over what `fullContract` held. -/
theorem ContractShows.fullContract (shows : ContractShows ctx content ui kind shown)
    (call : kind = .customContract) :
    shown.fullContract = getBase58FromAddress ctx.sdk content.contractAddress ui.fullContract 0 := by
  unfold ContractShows at shows
  split at shows
  case h_3 =>
    split at shows
    · rw [shows.kind_eq] at call
      simp at call
    · have same : shown.fullContract =
          (Ui.putCallValue content (Ui.putCall ctx content (Ui.putAction (ascii "To") ui))).fullContract := by
        rw [shows.shown_eq]
        rfl
      rw [same]
      unfold Ui.putCallValue
      split_ifs <;> rfl
  case h_18 => exact shows.elim
  all_goals
    rw [shows.kind_eq] at call
    simp at call

end Frames

section Votes

variable {ctx : RenderContext σ κ} {ui : Ui}

/-- A text of `print_amount` leaves room for its terminator. -/
theorem amountShown_length (amount : UInt64) (outlen sun : Nat) :
    (amountShown amount outlen sun).length ≤ outlen - 2 := by
  unfold amountShown fitted
  split
  · simp
  · split
    · omega
    · simp

/-- The slots of a vote lie apart, and inside the APDU buffer. -/
theorem putVote_elsewhere (index : Nat) (vote : VoteEntry) {p : Nat} (few : index < 5)
    (elsewhere : p < voteSlot index 0 ∨ voteSlot (index + 1) 0 ≤ p) :
    (Ui.putVote ctx index vote ui).apduBuffer.bytes[p]? = ui.apduBuffer.bytes[p]? := by
  have amount := amountShown_length vote.count.toUInt64 15 0
  simp only [voteSlot] at elsewhere
  simp only [Ui.putVote, Ui.putApdu, Buf.strcpy, voteSlot, voteAmount]
  have zeros : (List.replicate 50 (0 : UInt8)).length = 50 := List.length_replicate
  generalize getBase58FromAddress ctx.sdk vote.address ui.fullContract 0 = fullContract
  have text : (fullContract.bytes.take 35).length = 35 := by simp [fullContract.size]
  have last : (amountShown vote.count.toUInt64 15 0 ++ [0]).length ≤ 14 := by simp; omega
  rcases elsewhere with before | behind
  · rw [Buf.getElem?_write_of_lt _ _ (by omega) (by omega),
      Buf.getElem?_write_of_lt _ _ (by omega) (by omega),
      Buf.getElem?_write_of_lt _ _ (by omega) (by omega)]
  · rw [Buf.getElem?_write_of_ge _ _ (by omega) (by omega),
      Buf.getElem?_write_of_ge _ _ (by omega) (by omega),
      Buf.getElem?_write_of_ge _ _ (by omega) (by omega)]

/-- The address slot of a vote holds what was rendered. -/
theorem putVote_address (index : Nat) (vote : VoteEntry) (few : index < 5) :
    ∀ i ≤ 34, (Ui.putVote ctx index vote ui).apduBuffer.bytes[voteSlot index 0 + i]? =
      (getBase58FromAddress ctx.sdk vote.address ui.fullContract 0).bytes[0 + i]? := by
  intro i small
  have amount := amountShown_length vote.count.toUInt64 15 0
  simp only [Ui.putVote, Ui.putApdu, Buf.strcpy, voteSlot, voteAmount]
  generalize getBase58FromAddress ctx.sdk vote.address ui.fullContract 0 = fullContract
  have text : (fullContract.bytes.take 35).length = 35 := by simp [fullContract.size]
  have last : (amountShown vote.count.toUInt64 15 0 ++ [0]).length ≤ 14 := by simp; omega
  rw [Buf.getElem?_write_of_lt _ _ (by omega) (by omega),
    Buf.getElem?_write_inside _ _ (by omega) (by omega), List.getElem?_take_of_lt (by omega), Nat.zero_add]

/-- The count slot of a vote holds the text of its count. -/
theorem putVote_count (index : Nat) (vote : VoteEntry) (few : index < 5) :
    ∀ i ≤ (amountShown vote.count.toUInt64 15 0).length,
      (Ui.putVote ctx index vote ui).apduBuffer.bytes[voteSlot index voteAmount + i]? =
        (amountShown vote.count.toUInt64 15 0 ++ [0])[i]? := by
  intro i small
  have amount := amountShown_length vote.count.toUInt64 15 0
  simp only [Ui.putVote, Ui.putApdu, Buf.strcpy, voteSlot, voteAmount]
  have last : (amountShown vote.count.toUInt64 15 0 ++ [0]).length ≤ 14 := by simp; omega
  exact Buf.getElem?_write_inside _ _ (by omega) (by simp; omega)

/-- The slots of the votes before stay. -/
theorem putVotes_before (votes : List VoteEntry) (index : Nat) {p : Nat}
    (few : index + votes.length ≤ 5) (before : p < voteSlot index 0) :
    (Ui.putVotes ctx votes index ui).apduBuffer.bytes[p]? = ui.apduBuffer.bytes[p]? := by
  induction votes generalizing index ui with
  | nil => rfl
  | cons vote votes ih =>
    rw [List.length_cons] at few
    simp only [voteSlot] at before ih
    rw [Ui.putVotes, ih (index + 1) (by omega) (by omega),
      putVote_elsewhere index vote (by omega) (.inl (by simp only [voteSlot]; omega))]

variable (ui) in
/-- **The addresses of the votes.** -/
theorem voteLines_iff (encodes : ctx.sdk.EncodesBase58) (votes : List VoteEntry) (index : Nat)
    (few : index + votes.length ≤ 5) {shown : Ui}
    (slots : shown.apduBuffer = (Ui.putVotes ctx votes index ui).apduBuffer) :
    ∀ l ∈ voteLines ctx.sdk votes index ui.fullContract,
      l.Exact ctx.sdk shown ↔ AddressFits ctx.sdk l.address l.old := by
  induction votes generalizing index ui with
  | nil => simp [voteLines]
  | cons vote votes ih =>
    rw [List.length_cons] at few
    intro l among
    rcases List.mem_cons.mp among with rfl | later
    · have agree : ∀ i ≤ 34, (getBase58FromAddress ctx.sdk vote.address ui.fullContract 0).bytes[0 + i]? =
          shown.apduBuffer.bytes[voteSlot index 0 + i]? := by
        intro i small
        have inside : voteSlot index 0 + i < voteSlot (index + 1) 0 := by
          simp only [voteSlot]
          omega
        rw [slots, Ui.putVotes, putVotes_before votes (index + 1) (by omega) inside,
          putVote_address index vote (by omega) i small]
      have nul := getBase58FromAddress_nul ctx.sdk vote.address ui.fullContract
        (show 0 + 35 ≤ 67 by decide)
      have text := Buf.str_congr _ shown.apduBuffer 0 (voteSlot index 0) agree nul
      have exact := getBase58FromAddress_str encodes vote.address ui.fullContract
        (show 0 + 35 ≤ 67 by decide)
      simp only [AddressLine.Exact, Slot.shown, text, List.nil_append, List.append_nil]
      exact exact
    · exact ih (Ui.putVote ctx index vote ui) (index + 1) (by omega) slots l later

/-- The lines of the keys of a permission. -/
theorem keyLines_iff (encodes : ctx.sdk.EncodesBase58) (keys : List Key) (address : Buf 35)
    {lines : List Bytes} (filled : permissionKeyLines ctx keys address = some lines) (shown : Ui) :
    ∀ l ∈ keyLines ctx.sdk keys address lines,
      l.Exact ctx.sdk shown ↔ AddressFits ctx.sdk l.address l.old := by
  induction keys generalizing address lines with
  | nil => simp [keyLines]
  | cons key keys ih =>
    simp only [permissionKeyLines] at filled
    split at filled
    · simp at filled
    split at filled
    · simp at filled
    rename_i rest found
    obtain rfl := Option.some.inj filled
    intro l among
    rcases List.mem_cons.mp among with rfl | later
    · have exact := getBase58FromAddress_str encodes key.address address (show 0 + 35 ≤ 35 by decide)
      rw [List.drop_zero] at exact
      simp only [AddressLine.Exact, Slot.shown, List.nil_append, ← exact]
      constructor
      · intro same
        rw [List.append_assoc, List.append_assoc] at same
        exact List.append_cancel_right same
      · intro same
        simp only [same, List.append_assoc]
    · exact ih _ found l later

theorem permissionLines_iff (encodes : ctx.sdk.EncodesBase58) (slots : List (Option Permission))
    (entries : List (Option PermissionEntry)) (index : Nat) (shown : Ui)
    (filled : slots.mapIdx (fun i slot => slot.map (permissionEntry ctx (index + i))) =
      entries.map fun entry => entry.map some) :
    ∀ l ∈ permissionLines ctx.sdk ctx.residue slots entries index,
      l.Exact ctx.sdk shown ↔ AddressFits ctx.sdk l.address l.old := by
  induction slots generalizing entries index with
  | nil => simp [permissionLines]
  | cons slot slots ih =>
    cases entries with
    | nil => simp [List.mapIdx_cons] at filled
    | cons entry entries =>
      have shift : (fun i (slot : Option Permission) => slot.map (permissionEntry ctx (index + (i + 1)))) =
          fun i slot => slot.map (permissionEntry ctx (index + 1 + i)) := by
        funext i slot
        rw [Nat.add_assoc, Nat.add_comm 1 i]
      rw [List.mapIdx_cons, shift, List.map_cons, List.cons.injEq] at filled
      have rest := ih entries (index + 1) filled.2
      cases slot with
      | none =>
        simp only [permissionLines]
        exact rest
      | some perm =>
        cases entry with
        | none => simp at filled
        | some entry =>
          intro l among
          simp only [permissionLines, List.mem_append] at among
          rcases among with own | later
          · have found : permissionEntry ctx index perm = some entry := by simpa using filled.1
            unfold permissionEntry at found
            split at found
            · simp at found
            · rename_i lines keys
              obtain rfl := Option.some.inj found
              exact keyLines_iff encodes _ _ keys shown l own
          · exact rest l later

end Votes

section Fields

variable {state : ApprovalState} {type : ContractType} {ui : Ui}

theorem sender_field (own : state.isTransaction = true) :
    ∃ f ∈ reviewFields state type ui, f.value = .fromAddress := by
  cases state with
  | verifyAddress | signPersonalMessage | sharedEcdhSecret | signTip72Transaction =>
    simp [ApprovalState.isTransaction] at own
  | undelegateResourceTransaction => exact ⟨field "To" .fromAddress, by simp [reviewFields], rfl⟩
  | _ => exact ⟨field "From" .fromAddress, by simp [reviewFields], rfl⟩

theorem recipient_field {content : TxContent} {address : Address}
    (recipient : recipientShown state content = some address) :
    ∃ f ∈ reviewFields state type ui, f.value = .toAddress := by
  cases state <;> simp [reviewFields, field, recipientShown] at recipient ⊢

/-- The line of each vote. -/
theorem voteLines_mem (votes : List VoteEntry) (index : Nat) (fullContract : Buf 67) :
    (∀ l ∈ voteLines sdk votes index fullContract, ∃ i, ∃ inside : i < votes.length,
      l.address = votes[i].address ∧ l.slot = .apduBuffer (voteSlot (index + i) 0) ∧ l.lead = [] ∧
        l.trail = []) ∧
    ∀ i, (inside : i < votes.length) → ∃ l ∈ voteLines sdk votes index fullContract,
      l.address = votes[i].address ∧ l.slot = .apduBuffer (voteSlot (index + i) 0) ∧ l.lead = [] ∧
        l.trail = [] := by
  induction votes generalizing index fullContract with
  | nil => simp [voteLines]
  | cons vote votes ih =>
    obtain ⟨line, vote_line⟩ := ih (index + 1) (getBase58FromAddress sdk vote.address fullContract 0)
    have shift (i : Nat) : index + 1 + i = index + (i + 1) := by omega
    constructor
    · intro l among
      rcases List.mem_cons.mp among with rfl | later
      · exact ⟨0, by simp, rfl, rfl, rfl, rfl⟩
      · obtain ⟨i, inside, address, slot, around⟩ := line l later
        rw [shift] at slot
        exact ⟨i + 1, by simpa using inside, address, slot, around⟩
    · intro i inside
      cases i with
      | zero => exact ⟨_, List.mem_cons_self, rfl, rfl, rfl, rfl⟩
      | succ i =>
        obtain ⟨l, later, address, slot, around⟩ := vote_line i (by simpa using inside)
        rw [shift] at slot
        exact ⟨l, List.mem_cons_of_mem _ later, address, slot, around⟩

theorem vote_field {i : Nat} (inside : i < ui.votesCount) :
    ∃ f ∈ reviewFields .witnessVoteTransaction type ui, f.item = .apduBuffer (voteSlot i 0) ∧
      f.value = .apduBuffer (voteSlot i voteAmount) := by
  refine ⟨⟨.apduBuffer (voteSlot i 0), .apduBuffer (voteSlot i voteAmount), none⟩, ?_, rfl, rfl⟩
  simp only [reviewFields, List.mem_append, List.mem_map, List.mem_range]
  exact .inl ⟨i, inside, rfl⟩

theorem keyLines_slot (keys : List Key) (address : Buf 35) (lines : List Bytes) :
    ∀ l ∈ keyLines sdk keys address lines, ∃ line ∈ lines, l.slot = .text line := by
  induction keys generalizing address lines with
  | nil => simp [keyLines]
  | cons key keys ih =>
    cases lines with
    | nil => simp [keyLines]
    | cons line lines =>
      intro l among
      rcases List.mem_cons.mp among with rfl | later
      · exact ⟨line, List.mem_cons_self, rfl⟩
      · obtain ⟨line', found, slot⟩ := ih _ lines l later
        exact ⟨line', List.mem_cons_of_mem _ found, slot⟩

theorem permissionLines_slot (residue : Nat → Buf 35) (slots : List (Option Permission))
    (entries : List (Option PermissionEntry)) (index : Nat) :
    ∀ l ∈ permissionLines sdk residue slots entries index, ∃ entry, some entry ∈ entries ∧
      ∃ line ∈ entry.keys, l.slot = .text line := by
  induction slots generalizing entries index with
  | nil => simp [permissionLines]
  | cons slot slots ih =>
    cases entries with
    | nil => simp [permissionLines]
    | cons entry entries =>
      have rest (l : AddressLine) (later : l ∈ permissionLines sdk residue slots entries (index + 1)) :
          ∃ e, some e ∈ entry :: entries ∧ ∃ line ∈ e.keys, l.slot = .text line := by
        obtain ⟨e, found, line⟩ := ih entries (index + 1) l later
        exact ⟨e, List.mem_cons_of_mem _ found, line⟩
      intro l among
      cases slot with
      | none => exact rest l among
      | some perm =>
        cases entry with
        | none => exact rest l among
        | some entry =>
          rcases List.mem_append.mp among with own | later
          · exact ⟨entry, List.mem_cons_self, keyLines_slot sdk _ _ _ l own⟩
          · exact rest l later

variable (type) in
theorem key_field {entry : PermissionEntry} {line : Bytes} (shown : some entry ∈ ui.permissionEntries)
    (key : line ∈ entry.keys) : ∃ f ∈ reviewFields .permissionUpdate type ui, f.value = .text line := by
  obtain ⟨e, inside, at_e⟩ := List.getElem_of_mem shown
  obtain ⟨k, inside', at_k⟩ := List.getElem_of_mem key
  refine ⟨⟨.text (ascii (permissionName e ++ " Key ") ++ decimal (k + 1)), .text line, none⟩, ?_, rfl⟩
  simp only [reviewFields, List.mem_cons, permissionUpdateFields, List.mem_flatMap]
  refine .inr ⟨(some entry, e), ?_, ?_⟩
  · rw [List.mk_mem_zipIdx_iff_getElem?, List.getElem?_eq_getElem inside, at_e]
  · simp only [permissionFields, List.mem_append, List.mem_map]
    refine .inl (.inr ⟨(line, k), ?_, rfl⟩)
    rw [List.mk_mem_zipIdx_iff_getElem?, List.getElem?_eq_getElem inside', at_k]

end Fields

section Whole

variable {sdk : Sdk σ κ} {ctx : RenderContext σ κ} {content : TxContent} {before : Ui}

theorem permissionPrefix_length (low : 0 < content.permissionId) (high : content.permissionId ≤ 9) :
    (permissionPrefix content).length = 5 ∧ ∀ c ∈ permissionPrefix content, c ≠ 0 := by
  obtain ⟨n, small, same⟩ : ∃ n : Nat, n < 9 ∧ content.permissionId.toInt = (n : Int) + 1 := by
    have lo : 0 < content.permissionId.toInt := Int32.lt_iff_toInt_lt.mp low
    have hi : content.permissionId.toInt ≤ 9 := Int32.le_iff_toInt_le.mp high
    exact ⟨content.permissionId.toInt.toNat - 1, by omega, by omega⟩
  rw [permissionPrefix, if_pos low, same]
  clear same low high
  revert n
  decide +kernel

/-- The sender line, with the permission in front of it. -/
theorem senderLine_iff (encodes : ctx.sdk.EncodesBase58) (high : content.permissionId ≤ 9) {shown : Ui}
    (sender : shown.fromAddress = (renderSender ctx content before).fromAddress) :
    (senderLine before content).Exact ctx.sdk shown ↔
      AddressFits ctx.sdk content.account (senderLine before content).old := by
  by_cases low : 0 < content.permissionId
  · obtain ⟨five, nonzero⟩ := permissionPrefix_length low high
    have written : shown.fromAddress = getBase58FromAddress ctx.sdk content.account
        (before.fromAddress.strlcpy 0 (permissionPrefix content) 6) 5 := by
      rw [sender, renderSender, if_pos low, permissionPrefix, if_pos low]
    have head : ∀ i < (permissionPrefix content).length,
        shown.fromAddress.bytes[0 + i]? = (permissionPrefix content)[i]? := by
      intro i inside
      have text : (permissionPrefix content).take 5 = permissionPrefix content :=
        List.take_of_length_le (by omega)
      rw [written, getBase58FromAddress_before encodes _ _ (by decide) (by omega), Buf.strlcpy, text,
        Buf.getElem?_write_inside _ _ (by simp [five]) (by simp; omega), List.getElem?_append_left inside]
    have exact := getBase58FromAddress_str encodes content.account
      (before.fromAddress.strlcpy 0 (permissionPrefix content) 6) (show 5 + 35 ≤ 40 by decide)
    rw [← written] at exact
    simp only [AddressLine.Exact, senderLine, Slot.shown, if_pos low, List.append_nil]
    rw [Buf.str_append _ 0 nonzero head, five, ← exact]
    exact ⟨List.append_cancel_left, fun same => by rw [same]⟩
  · have written : shown.fromAddress =
        getBase58FromAddress ctx.sdk content.account before.fromAddress 0 := by
      rw [sender, renderSender, if_neg low]
    have exact := getBase58FromAddress_str encodes content.account before.fromAddress
      (show 0 + 35 ≤ 40 by decide)
    simp only [AddressLine.Exact, senderLine, Slot.shown, permissionPrefix, if_neg low, List.append_nil,
      List.nil_append, written]
    exact exact

/-- Only the amount differs in what a vote review leaves of the transaction. -/
theorem renderedContent_amount (content : TxContent) :
    renderedContent content = { content with amount := (renderedContent content).amount } := by
  unfold renderedContent
  split <;> rfl

theorem votesCount_putVotes (votes : List VoteEntry) (index : Nat) (ui : Ui) :
    (Ui.putVotes ctx votes index ui).votesCount = ui.votesCount := by
  induction votes generalizing index ui with
  | nil => rfl
  | cons vote votes ih => exact ih (index + 1) _

variable {ui shown : Ui} {kind : ApprovalState}

theorem ContractShows.own (shows : ContractShows ctx content ui kind shown) :
    kind.isTransaction = true := by
  unfold ContractShows at shows
  split at shows
  case h_3 => split at shows <;> rw [shows.kind_eq] <;> rfl
  case h_18 => exact shows.elim
  all_goals
    rw [shows.kind_eq]
    rfl

theorem ContractShows.votes (shows : ContractShows ctx content ui kind shown)
    (vote : kind = .witnessVoteTransaction) : VotesShow ctx content ui kind shown := by
  unfold ContractShows at shows
  split at shows
  case h_8 => exact shows
  case h_3 =>
    split at shows <;> rw [shows.kind_eq] at vote <;> simp at vote
  case h_18 => exact shows.elim
  all_goals
    rw [shows.kind_eq] at vote
    simp at vote

theorem ContractShows.permissions (shows : ContractShows ctx content ui kind shown)
    (update : kind = .permissionUpdate) : PermissionShows ctx ui kind shown := by
  unfold ContractShows at shows
  split at shows
  case h_17 => exact shows
  case h_3 =>
    split at shows <;> rw [shows.kind_eq] at update <;> simp at update
  case h_18 => exact shows.elim
  all_goals
    rw [shows.kind_eq] at update
    simp at update

/-- The lines of a review rendered over `before` are exact where their texts fit. -/
theorem addressLines_iff (encodes : ctx.sdk.EncodesBase58) {r : Review} (msg : r.msg = ctx.msg)
    (content_eq : r.content = renderedContent content)
    (shows : TransactionShows ctx content before r.infos.state r.ui) :
    ∀ l ∈ addressLines ctx.sdk before ctx.residue r,
      l.Exact ctx.sdk r.ui ↔ AddressFits ctx.sdk l.address l.old := by
  have same := renderedContent_amount content
  rw [← content_eq] at same
  have sender : senderLine before r.content = senderLine before content := by rw [same]; rfl
  have recipient : recipientShown r.infos.state r.content = recipientShown r.infos.state content := by
    rw [same]
    cases r.infos.state <;> rfl
  have contract : r.content.contractAddress = content.contractAddress := by rw [same]
  have votes : r.content.votes = content.votes := by rw [same]
  intro l among
  simp only [addressLines, List.mem_cons, List.mem_append] at among
  rcases among with (((rfl | among) | among) | among) | among
  · rw [sender]
    exact senderLine_iff encodes shows.permission.2 shows.contract.sender.1
  · unfold recipientLines at among
    rw [recipient] at among
    split at among
    · simp at among
    rename_i address found
    obtain rfl := List.mem_singleton.mp among
    have exact := getBase58FromAddress_str encodes address before.toAddress (show 0 + 35 ≤ 35 by decide)
    have shown := shows.contract.toAddress found
    have unwritten : (renderSender ctx content before).toAddress = before.toAddress := by
      unfold renderSender
      split <;> rfl
    rw [unwritten] at shown
    simp only [AddressLine.Exact, Slot.shown, List.nil_append, List.append_nil, shown]
    exact exact
  · unfold contractLines at among
    split at among
    · rename_i call
      obtain rfl := List.mem_singleton.mp among
      have exact := getBase58FromAddress_str encodes content.contractAddress before.fullContract
        (show 0 + 35 ≤ 67 by decide)
      have shown := shows.contract.fullContract call
      have unwritten : (renderSender ctx content before).fullContract = before.fullContract := by
        unfold renderSender
        split <;> rfl
      rw [unwritten] at shown
      simp only [AddressLine.Exact, Slot.shown, List.nil_append, List.append_nil, shown, contract]
      exact exact
    · simp at among
  · split at among
    · rename_i vote
      have unwritten : (renderSender ctx content before).fullContract = before.fullContract := by
        unfold renderSender
        split <;> rfl
      rw [votes, ← unwritten] at among
      have shown := (shows.contract.votes vote).shown_eq
      refine voteLines_iff ({ renderSender ctx content before with
        apduBuffer := (renderSender ctx content before).apduBuffer.write 0 (List.replicate 200 0)
        votesCount := content.votes.entries.length }) encodes content.votes.entries 0 ?_ ?_ l among
      · simpa using content.votes.bounded
      · rw [shown]
        rfl
    · simp at among
  · split at among
    · rename_i update
      obtain ⟨entries, filled, shown⟩ := (shows.contract.permissions update).shown_eq
      rw [msg, shown] at among
      exact permissionLines_iff encodes _ entries 0 r.ui (by simpa using filled) l among
    · simp at among

/-- Every line is a field of the review. -/
theorem addressLines_displayed {r : Review} {residue : Nat → Buf 35}
    (ready : prepareTxInfos r.infos.state r.infos.dataWarning r.content.contractType r.ui =
      .ready r.infos)
    (content_eq : r.content = renderedContent content)
    (shows : TransactionShows ctx content before r.infos.state r.ui) :
    ∀ l ∈ addressLines sdk before residue r, r.infos.Displays l.slot := by
  have value {slot : Slot} (field : ∃ f ∈ reviewFields r.infos.state r.content.contractType r.ui,
      f.value = slot) : r.infos.Displays slot := by
    obtain ⟨f, among, same⟩ := field
    obtain ⟨g, shown, -, kept⟩ := prepareTxInfos_displays ready among
    exact ⟨g, shown, .inr (kept.trans same)⟩
  have votes : r.content.votes = content.votes := by rw [content_eq, renderedContent_amount]
  intro l among
  simp only [addressLines, List.mem_cons, List.mem_append] at among
  rcases among with (((rfl | among) | among) | among) | among
  · exact value (sender_field shows.contract.own)
  · unfold recipientLines at among
    split at among
    · simp at among
    · rename_i address found
      obtain rfl := List.mem_singleton.mp among
      exact value (recipient_field found)
  · unfold contractLines at among
    split at among
    · rename_i call
      obtain rfl := List.mem_singleton.mp among
      exact value ⟨field "Contract" .fullContract, by simp [reviewFields, call], rfl⟩
    · simp at among
  · split at among
    · rename_i vote
      obtain ⟨i, inside, -, slot, -⟩ := (voteLines_mem sdk _ _ _).1 l among
      have count : r.ui.votesCount = content.votes.entries.length := by
        rw [(shows.contract.votes vote).shown_eq]
        exact votesCount_putVotes _ _ _
      rw [Nat.zero_add] at slot
      rw [votes, ← count] at inside
      obtain ⟨f, among, item, -⟩ := vote_field inside
      rw [← vote] at among
      obtain ⟨g, shown, kept, -⟩ := prepareTxInfos_displays ready among
      exact ⟨g, shown, .inl (kept.trans (item.trans slot.symm))⟩
    · simp at among
  · split at among
    · rename_i update
      obtain ⟨entry, found, line, key, slot⟩ := permissionLines_slot sdk _ _ _ _ l among
      have field := key_field r.content.contractType found key
      rw [← update, ← slot] at field
      exact value field
    · simp at among

end Whole

/-- **Every address line of a review of INS_SIGN is the Base58Check text of its address, and of no
other, exactly when that text fits the terminator.** -/
theorem address_shown_iff {sdk : Sdk σ κ} (encodes : sdk.EncodesBase58) {version : AppVersion}
    {w w' : World σ κ} {c : Command} (own : c.isSign = true)
    (stepped : step sdk version w (.apdu c) = some w') :
    w.Reviews w' fun r => ∃ time, ∀ l ∈ addressLines sdk w.app.ui (sdk.residue time) r,
      r.infos.Displays l.slot ∧ (l.Exact sdk r.ui ↔ AddressFits sdk l.address l.old) ∧
        (l.Exact sdk r.ui → ∀ other, other ≠ l.address →
          l.slot.shown r.ui ≠ l.lead ++ base58Check sdk other ++ l.trail) := by
  refine (step_reviews sdk w own stepped).mono ?_
  rintro r ⟨before, ⟨apduBuffer, mark, rfl⟩, ⟨⟨content, called, validated, time, shows, content_eq⟩, ready⟩⟩
  refine ⟨time, fun l among => ⟨?_, ?_, fun exact other distinct same => ?_⟩⟩
  · exact addressLines_displayed ready content_eq shows l among
  · exact addressLines_iff encodes rfl content_eq shows l among
  · have texts := exact.symm.trans same
    rw [List.append_assoc, List.append_assoc] at texts
    exact distinct (base58Check_inj (List.append_cancel_right (List.append_cancel_left texts))).symm

end

/-- A transfer to an address whose Base58Check text has 35 characters. -/
def longTextTransfer : Bytes :=
  contractField 1 (delimitedField 1 (sampleAccount 1) ++
    delimitedField 2 (0xff :: List.replicate 20 0) ++ [0x18, 1])

/-- Behind a rejected review, the recipient of the next one is the address shown before. -/
theorem stale_recipient_shown : ∃ w w' r,
    AppRun device deviceVersion anyStep deviceBoot
      [command Ins.sign P1.sign 0 (pathBytes 0 ++ sampleTransfer), .answer false] w ∧
    step device deviceVersion w (command Ins.sign P1.sign 0 (pathBytes 0 ++ longTextTransfer)) = some w' ∧
    w'.trace.head? = some (.review r) ∧ r.content.destination.bytes = 0xff :: List.replicate 20 0 ∧
    Slot.toAddress.shown r.ui = base58Check device (Buf.ofBytes 21 (sampleAccount 2)) ∧
    Slot.toAddress.shown r.ui ≠ base58Check device r.content.destination := by
  obtain ⟨w, w', r, older, run, stepped, trace, found⟩ := exists_review_step anyStep
    [command Ins.sign P1.sign 0 (pathBytes 0 ++ sampleTransfer), .answer false]
    (command Ins.sign P1.sign 0 (pathBytes 0 ++ longTextTransfer))
    (fun r _ => r.content.destination.bytes = 0xff :: List.replicate 20 0 &&
      Slot.toAddress.shown r.ui = base58Check device (Buf.ofBytes 21 (sampleAccount 2)) &&
      Slot.toAddress.shown r.ui ≠ base58Check device r.content.destination) (by decide +kernel)
  simp only [Bool.and_eq_true, decide_eq_true_eq] at found
  exact ⟨w, w', r, run, stepped, by rw [trace]; rfl, found.1.1, found.1.2, found.2⟩

/-- A transfer between accounts of the main net shows their texts. -/
theorem address_shown_iff_transfer : ∃ w',
    step device deviceVersion (boot device deviceBoot)
      (command Ins.sign P1.sign 0 (pathBytes 0 ++ sampleTransfer)) = some w' ∧
    (boot device deviceBoot).Reviews w' fun r => ∃ time,
      ∀ l ∈ addressLines device (boot device deviceBoot).app.ui (device.residue time) r,
        r.infos.Displays l.slot ∧ (l.Exact device r.ui ↔ AddressFits device l.address l.old) ∧
          (l.Exact device r.ui → ∀ other, other ≠ l.address →
            l.slot.shown r.ui ≠ l.lead ++ base58Check device other ++ l.trail) := by
  have runs : (step device deviceVersion (boot device deviceBoot)
      (command Ins.sign P1.sign 0 (pathBytes 0 ++ sampleTransfer))).isSome = true := by decide +kernel
  obtain ⟨w', stepped⟩ := Option.isSome_iff_exists.mp runs
  exact ⟨w', stepped, address_shown_iff (fun _ _ => rfl) (by decide) stepped⟩

end TronLedger
