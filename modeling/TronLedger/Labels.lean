import TronLedger.AddressBook
import TronLedger.AddressReview

/-!
# The labels of a review

A contact is shown in place of an address, and a service above one. Both were looked up when the
address was rendered, and the review finds the address again by its buffer.

* `Ui.LabelsOwn`: the buffers end with the addresses their labels were looked up for.
* `reviewed_labels`: a review that is started over such buffers labels no other address.
-/

namespace TronLedger

section

variable {σ κ : Type} (sdk : Sdk σ κ)

/-- A field has the text of `address`: as its value or, where it shows a contact, in its extension. -/
def TagValue.Renders (ui : Ui) (f : TagValue) (address : Address) : Prop :=
  f.value.shown ui = base58Check sdk address

/-- A field has the text of one address only. -/
theorem renders_iff {sdk : Sdk σ κ} {ui : Ui} {f : TagValue} {address : Address}
    (text : f.value.shown ui = base58Check sdk address) (other : Address) :
    f.Renders sdk ui other ↔ other = address := by
  constructor
  · intro renders
    exact base58Check_inj (renders.symm.trans text)
  · rintro rfl
    exact text

/-- The labels of a review were looked up for exactly the addresses at the fields they stand at. -/
structure Review.LabelsOwn (contacts : List Contact) (r : Review) : Prop where
  contact : ∀ f ∈ r.infos.fields, ∀ c, f.contact = some c → ∃ address,
    (∀ other, f.Renders sdk r.ui other ↔ other = address) ∧ getAddressBookContact contacts address = some c
  service : ∀ i f, r.infos.fields[i]? = some f → f.item = .text (ascii "Service") →
    ∃ g address label, r.infos.fields[i + 1]? = some g ∧
      (∀ other, g.Renders sdk r.ui other ↔ other = address) ∧ f.value = .text label ∧
      getKnownServiceLabel address = some label

/-- A label goes with a buffer: what was looked up is the address whose text the buffer holds. -/
def Attached {n : Nat} {L : Type} (lookup : Address → Option L) (buffer : Buf n) (label : Option L) : Prop :=
  ∀ found, label = some found → ∃ address, buffer.str 0 = base58Check sdk address ∧ lookup address = some found

/-- Every label goes with the buffer it is attached to. -/
structure Ui.LabelsOwn (contacts : List Contact) (ui : Ui) : Prop where
  recipient : Attached sdk (getAddressBookContact contacts) ui.toAddress ui.recipientContact
  service : Attached sdk getKnownServiceLabel ui.toAddress ui.recipientService
  sender : Attached sdk (getAddressBookContact contacts) ui.fromAddress ui.senderContact

/-- What every callback that stores an address checks of it, or derives it with. -/
def Mainnet (contacts : List Contact) : Prop := ∀ c ∈ contacts, c.identifier.bytes.head? = some 0x41

section Lookups

variable {sdk} {n : Nat} {L : Type} {lookup : Address → Option L} {contacts : List Contact}

theorem attached_none (lookup : Address → Option L) (buffer : Buf n) : Attached sdk lookup buffer none := by
  intro found label
  simp at label

/-- What is looked up for an address of the main net goes with the buffer it is rendered into. -/
theorem attached_rendered (encodes : sdk.EncodesBase58)
    (mainnet : ∀ address found, lookup address = some found → address.bytes.head? = some 0x41)
    (raw : Address) (old : Buf n) (room : 35 ≤ n) :
    Attached sdk lookup (getBase58FromAddress sdk raw old 0) (lookup raw) := by
  intro found label
  have fits := (base58Check_mainnet (mainnet raw found label) : (base58Check sdk raw).length = 34)
  exact ⟨raw, (getBase58FromAddress_str encodes raw old (by omega)).mpr (.inl fits), label⟩

theorem contact_mainnet (mainnet : Mainnet contacts) (address : Address) (c : Contact)
    (found : getAddressBookContact contacts address = some c) : address.bytes.head? = some 0x41 := by
  obtain ⟨among, rfl⟩ := getAddressBookContact_mem found
  exact mainnet c among

theorem tronifyAddresses_mainnet : ∀ address ∈ tronifyAddresses, address.bytes.head? = some 0x41 := by
  decide +kernel

theorem service_mainnet (address : Address) (label : Bytes) (found : getKnownServiceLabel address = some label) :
    address.bytes.head? = some 0x41 := by
  obtain ⟨service, known, -⟩ := Option.map_eq_some_iff.mp found
  have among := List.mem_of_find?_eq_some known
  have listed : address ∈ service.1 := by simpa using List.find?_some known
  rw [knownServices, List.mem_singleton] at among
  rw [among] at listed
  exact tronifyAddresses_mainnet address listed

end Lookups

section Fields

variable {state : ApprovalState} {dataWarning : Bool} {type : ContractType} {ui : Ui} {infos : TxInfos}

theorem permissionName_head (e : Nat) (what : String) (rest : Bytes) :
    ascii (permissionName e ++ what) ++ rest ≠ ascii "Service" := by
  intro same
  have first := congrArg List.head? same
  unfold permissionName at first
  split at first <;> simp [ascii] at first

/-- The fields of a permission have names of their own. -/
theorem permissionFields_plain (e : Nat) (entry : PermissionEntry) :
    ∀ f ∈ permissionFields e entry, f.contact = none ∧ f.item ≠ .text (ascii "Service") := by
  intro f among
  simp only [permissionFields, List.mem_append, List.mem_singleton, List.mem_map] at among
  rcases among with (rfl | ⟨⟨key, k⟩, -, rfl⟩) | rfl
  · exact ⟨rfl, fun same => permissionName_head e _ [] (by simpa using same)⟩
  · exact ⟨rfl, fun same => permissionName_head e _ _ (Slot.text.inj same)⟩
  · exact ⟨rfl, fun same => permissionName_head e _ [] (by simpa using same)⟩

/-- No field of a review comes with a contact, or is named like the service. -/
theorem reviewFields_plain (state : ApprovalState) (type : ContractType) (ui : Ui) :
    ∀ f ∈ reviewFields state type ui, f.contact = none ∧ f.item ≠ .text (ascii "Service") := by
  cases state with
  | permissionUpdate =>
    intro f among
    simp only [reviewFields, List.mem_cons, permissionUpdateFields, List.mem_flatMap] at among
    rcases among with rfl | ⟨⟨entry, e⟩, -, among⟩
    · exact ⟨rfl, by decide⟩
    · cases entry with
      | none => simp at among
      | some entry => exact permissionFields_plain e entry f among
  | witnessVoteTransaction =>
    intro f among
    simp only [reviewFields, List.mem_append, List.mem_map, List.mem_cons, List.not_mem_nil,
      or_false] at among
    rcases among with ⟨i, -, rfl⟩ | rfl | rfl
    · exact ⟨rfl, by simp⟩
    · exact ⟨rfl, by decide⟩
    · exact ⟨rfl, by decide⟩
  | transfer =>
    simp only [reviewFields]
    split <;> decide
  | _ =>
    simp only [reviewFields]
    decide

/-- A contact that is shown is the recipient's or the sender's, at their buffer. -/
theorem prepareTxInfos_contact (ready : prepareTxInfos state dataWarning type ui = .ready infos)
    {f : TagValue} (among : f ∈ infos.fields) {c : Contact} (contact : f.contact = some c) :
    (f.value = .toAddress ∧ ui.recipientContact = some c) ∨
      (f.value = .fromAddress ∧ ui.senderContact = some c) := by
  obtain ⟨fields, inserted, shown⟩ := prepareTxInfos_fields ready
  rw [shown] at among
  obtain ⟨g, own, rfl⟩ := List.mem_map.mp among
  have plain : g.contact = none := by
    have kept (h : g ∈ reviewFields state type ui) := (reviewFields_plain state type ui g h).1
    rcases insertKnownServiceLabel_cases inserted with rfl | ⟨label, before, address, after, -, whole, -, rfl⟩
    · exact kept own
    · rw [whole] at kept
      simp only [List.mem_append, List.mem_cons] at own kept
      rcases own with own | rfl | own
      · exact kept (.inl own)
      · rfl
      · exact kept (.inr own)
  split_ifs at contact with recipient sender
  · exact .inl ⟨by rw [if_pos recipient]; exact recipient.2, contact⟩
  · exact .inr ⟨by rw [if_neg recipient, if_pos sender]; exact sender.2, contact⟩
  · rw [plain] at contact
    simp at contact

/-- A service that is shown is the recipient's, and stands right above their buffer. -/
theorem prepareTxInfos_service (ready : prepareTxInfos state dataWarning type ui = .ready infos)
    {i : Nat} {f : TagValue} (at_i : infos.fields[i]? = some f) (service : f.item = .text (ascii "Service")) :
    ∃ g label, infos.fields[i + 1]? = some g ∧ g.value = .toAddress ∧ f.value = .text label ∧
      ui.recipientService = some label := by
  obtain ⟨fields, inserted, shown⟩ := prepareTxInfos_fields ready
  rw [shown, applyAddressBookAliases, List.getElem?_map, Option.map_eq_some_iff] at at_i
  obtain ⟨own, at_i, rfl⟩ := at_i
  have named : own.item = .text (ascii "Service") := by
    split_ifs at service <;> exact service
  have other (h : own ∈ reviewFields state type ui) : False := (reviewFields_plain state type ui own h).2 named
  rcases insertKnownServiceLabel_cases inserted with rfl | ⟨label, before, address, after, known, whole, slot, rfl⟩
  · exact (other (List.mem_of_getElem? at_i)).elim
  rw [whole] at other
  rcases Nat.lt_trichotomy i before.length with less | rfl | more
  · rw [List.getElem?_append_left less] at at_i
    exact (other (List.mem_append_left _ (List.mem_of_getElem? at_i))).elim
  · rw [List.getElem?_append_right le_rfl, Nat.sub_self, List.getElem?_cons_zero] at at_i
    obtain rfl := Option.some.inj at_i
    have next : ∃ g, infos.fields[before.length + 1]? = some g ∧ g.value = .toAddress := by
      rw [shown, applyAddressBookAliases, List.getElem?_map,
        List.getElem?_append_right (Nat.le_add_right before.length 1), Nat.add_sub_cancel_left]
      refine ⟨_, rfl, ?_⟩
      dsimp only
      split_ifs <;> exact slot
    obtain ⟨g, at_next, recipient⟩ := next
    exact ⟨g, label, at_next, recipient, by simp, known⟩
  · obtain ⟨k, rfl⟩ : ∃ k, i = before.length + (k + 1) := ⟨i - before.length - 1, by omega⟩
    rw [List.getElem?_append_right (Nat.le_add_right _ _), Nat.add_sub_cancel_left,
      List.getElem?_cons_succ] at at_i
    exact (other (List.mem_append_right _ (List.mem_of_getElem? at_i))).elim

/-- **A review over buffers that hold what their labels were looked up for labels no other address.** -/
theorem reviewed_labels {contacts : List Contact} {r : Review} (own : r.ui.LabelsOwn sdk contacts)
    (ready : prepareTxInfos state dataWarning type r.ui = .ready r.infos) : r.LabelsOwn sdk contacts where
  contact f among c contact := by
    rcases prepareTxInfos_contact ready among contact with ⟨slot, label⟩ | ⟨slot, label⟩
    · obtain ⟨address, text, found⟩ := own.recipient c label
      exact ⟨address, renders_iff (by rw [slot]; exact text), found⟩
    · obtain ⟨address, text, found⟩ := own.sender c label
      exact ⟨address, renders_iff (by rw [slot]; exact text), found⟩
  service i f at_i service := by
    obtain ⟨g, label, next, slot, value, known⟩ := prepareTxInfos_service ready at_i service
    obtain ⟨address, text, found⟩ := own.service label known
    exact ⟨g, address, label, next, renders_iff (by rw [slot]; exact text), value, found⟩

end Fields

section Rendering

variable {ctx : RenderContext σ κ} {content : TxContent} {ui shown : Ui} {kind : ApprovalState}

/-- What a rendering leaves of the recipient's labels: those `ui` had, or those of the address it
renders. -/
inductive RecipientLabels (ctx : RenderContext σ κ) (ui shown : Ui) : Prop
  | kept (contact : shown.recipientContact = ui.recipientContact)
      (service : shown.recipientService = ui.recipientService)
  | looked (raw : Address) (old : Buf 35) (text : shown.toAddress = getBase58FromAddress ctx.sdk raw old 0)
      (contact : shown.recipientContact = getAddressBookContact ctx.contacts raw)
      (service : shown.recipientService = getKnownServiceLabel raw)

theorem putVotes_labels (ctx : RenderContext σ κ) (ui : Ui) (votes : List VoteEntry) (index : Nat) :
    (Ui.putVotes ctx votes index ui).recipientContact = ui.recipientContact ∧
      (Ui.putVotes ctx votes index ui).recipientService = ui.recipientService := by
  induction votes generalizing index ui with
  | nil => exact ⟨rfl, rfl⟩
  | cons vote votes ih => exact ih _ (index + 1)

theorem putCallValue_labels (content : TxContent) (ui : Ui) :
    (Ui.putCallValue content ui).recipientContact = ui.recipientContact ∧
      (Ui.putCallValue content ui).recipientService = ui.recipientService := by
  unfold Ui.putCallValue
  split_ifs <;> exact ⟨rfl, rfl⟩

/-- Where `toAddress` holds anything but the address that is looked up, nothing is looked up. -/
theorem ContractShows.recipientLabels (shows : ContractShows ctx content ui kind shown) :
    RecipientLabels ctx ui shown := by
  unfold ContractShows at shows
  split at shows
  case h_1 | h_2 | h_9 | h_10 | h_11 | h_12 | h_13 | h_14 | h_15 | h_16 =>
    rw [shows.shown_eq]
    exact .looked _ _ rfl rfl rfl
  case h_3 =>
    split at shows
    · obtain ⟨text, before, -, -, shown_eq⟩ := shows.shown_eq
      rw [shown_eq]
      exact .looked content.destination _ rfl rfl rfl
    · obtain ⟨contact, service⟩ := putCallValue_labels content
        (Ui.putCall ctx content (Ui.putAction (ascii "To") ui))
      rw [shows.shown_eq]
      exact .kept contact service
  case h_4 | h_7 =>
    rw [shows.shown_eq]
    exact .kept rfl rfl
  case h_5 | h_6 =>
    obtain ⟨detail, -, shown_eq⟩ := shows.shown_eq
    rw [shown_eq]
    exact .kept rfl rfl
  case h_8 =>
    obtain ⟨contact, service⟩ := putVotes_labels ctx { ui with
      apduBuffer := ui.apduBuffer.write 0 (List.replicate 200 0)
      votesCount := content.votes.entries.length } content.votes.entries 0
    rw [shows.shown_eq]
    exact .kept contact service
  case h_17 =>
    obtain ⟨entries, -, shown_eq⟩ := shows.shown_eq
    rw [shown_eq]
    exact .kept rfl rfl
  case h_18 => exact shows.elim
  case h_19 =>
    obtain ⟨name, -, shown_eq⟩ := shows.shown_eq
    rw [shown_eq]
    exact .kept rfl rfl

/-- Nothing is looked up. -/
structure Ui.Unlabelled (ui : Ui) : Prop where
  recipient : ui.recipientContact = none
  sender : ui.senderContact = none
  service : ui.recipientService = none

variable {contacts : List Contact}

variable {sdk} in
theorem Ui.Unlabelled.own (clear : ui.Unlabelled) : ui.LabelsOwn sdk contacts where
  recipient := by rw [clear.recipient]; exact attached_none _ _
  service := by rw [clear.service]; exact attached_none _ _
  sender := by rw [clear.sender]; exact attached_none _ _

/-- The sender is looked up where the line shows nothing but their address. -/
theorem renderSender_labels (encodes : ctx.sdk.EncodesBase58) (mainnet : Mainnet ctx.contacts)
    (clear : ui.Unlabelled) :
    Attached ctx.sdk (getAddressBookContact ctx.contacts) (renderSender ctx content ui).fromAddress
      (renderSender ctx content ui).senderContact := by
  unfold renderSender
  split
  · simp only [clear.sender]
    exact attached_none _ _
  · exact attached_rendered encodes (contact_mainnet mainnet) content.account ui.fromAddress (by decide)

/-- **A transaction that is rendered over buffers without labels leaves its own labels in them.** -/
theorem TransactionShows.labelsOwn (encodes : ctx.sdk.EncodesBase58) (mainnet : Mainnet ctx.contacts)
    (clear : ui.Unlabelled) (shows : TransactionShows ctx content ui kind shown) :
    shown.LabelsOwn ctx.sdk ctx.contacts := by
  obtain ⟨text, contact⟩ := shows.contract.sender
  have sender : Attached ctx.sdk (getAddressBookContact ctx.contacts) shown.fromAddress shown.senderContact := by
    rw [text, contact]
    exact renderSender_labels encodes mainnet clear
  have unset : (renderSender ctx content ui).recipientContact = none ∧
      (renderSender ctx content ui).recipientService = none := by
    unfold renderSender
    split <;> exact ⟨clear.recipient, clear.service⟩
  cases shows.contract.recipientLabels with
  | kept contact service =>
    rw [unset.1] at contact
    rw [unset.2] at service
    exact ⟨by rw [contact]; exact attached_none _ _, by rw [service]; exact attached_none _ _, sender⟩
  | looked raw old text contact service =>
    refine ⟨?_, ?_, sender⟩
    · rw [text, contact]
      exact attached_rendered encodes (contact_mainnet mainnet) raw old le_rfl
    · rw [text, service]
      exact attached_rendered encodes service_mainnet raw old le_rfl

end Rendering

end

end TronLedger
