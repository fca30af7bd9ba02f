import TronLedger.Swap
import TronLedger.Device
import TronLedger.Lib.KeyedList
import TronLedger.Lib.Run

/-!
# The list of contacts

`handle_contacts.c` and the callbacks of `handle_identity.c` and `handle_ledger_account.c` that change
the list. A callback that gets a NULL pointer does nothing.

* `step_keeps_iff`: which operations keep the entries apart.
* `contacts_apart`: a run of such operations keeps every address in one entry of its kind.
-/

namespace TronLedger

/-- `identity_t`: the family is only compared with `FAMILY_TRON`. -/
structure Identity where
  familyTron : Bool
  contactName : Bytes
  scope : Bytes
  identifier : Bytes

/-- `ledger_account_t` -/
structure LedgerAccount where
  familyTron : Bool
  accountName : Bytes
  bip32Path : Bip32Path

/-- `CONTACT_NAME_LENGTH` and `SCOPE_LENGTH` of the SDK -/
structure ContactLengths where
  contactName : Nat
  scope : Nat

/-- Entries are told apart by their kind and their address. -/
def Contact.key (c : Contact) : Bool × Address := (c.ledgerAccount, c.identifier)

section Operations

variable {σ κ : Type} (sdk : Sdk σ κ) (lengths : ContactLengths) (contacts : List Contact)

def isValidTronIdentifier (id : Identity) : Bool :=
  id.familyTron && id.identifier.length = 21 && id.identifier.head? = some 0x41

/-- The first `ADDRESS_SIZE` bytes of the identifier. -/
def Identity.address (id : Identity) : Address := Buf.ofBytes 21 id.identifier

/-- `derive_tron_address` -/
def deriveTronAddress (path : Bip32Path) : Option Address :=
  (sdk.derivePublicKey path).map fun key => getAddressFromPublicKey sdk key.1.bytes

/-- `update_contact_name`: every identity of that name. -/
def updateContactName (oldName newName : Bytes) : List Contact :=
  contacts.map fun node =>
    if node.ledgerAccount = false ∧ strncmpEq node.contactName oldName lengths.contactName = true then
      { node with contactName := (cstr newName).take (lengths.contactName - 1) }
    else node

/-- `update_contact_identifier` -/
def updateContactIdentifier (oldAddr newAddr : Address) : List Contact :=
  modifyFirst (fun node => node.ledgerAccount = false ∧ node.identifier = oldAddr)
    (fun node => { node with identifier := newAddr }) contacts

/-- `update_contact_scope` -/
def updateContactScope (addr : Address) (newScope : Bytes) : List Contact :=
  modifyFirst (fun node => node.ledgerAccount = false ∧ node.identifier = addr)
    (fun node => { node with scope := (cstr newScope).take (lengths.scope - 1) }) contacts

/-- `update_ledger_account_contact_name` -/
def updateLedgerAccountContactName (addr : Address) (newName : Bytes) : List Contact :=
  modifyFirst (fun node => node.ledgerAccount = true ∧ node.identifier = addr)
    (fun node => { node with contactName := (cstr newName).take (lengths.contactName - 1) }) contacts

/-- `handle_provide_identity`; `allocated` is the verdict of the allocation. -/
def handleProvideIdentity (contact : Identity) (allocated : Bool) : Bool × List Contact :=
  if !isValidTronIdentifier contact then (false, contacts)
  else if (getAddressBookContact contacts contact.address).isSome then (true, contacts)
  else if !allocated then (false, contacts)
  else (true, contacts ++ [{
    ledgerAccount := false
    contactName := (cstr contact.contactName).take (lengths.contactName - 1)
    scope := (cstr contact.scope).take (lengths.scope - 1)
    identifier := contact.address }])

/-- `handle_provide_ledger_account`: an identity that is found first does not count. -/
def handleProvideLedgerAccount (account : LedgerAccount) (allocated : Bool) : Bool × List Contact :=
  if !account.familyTron then (false, contacts)
  else
    match deriveTronAddress sdk account.bip32Path with
    | none => (false, contacts)
    | some address =>
      if (getAddressBookContact contacts address).any (·.ledgerAccount) then (true, contacts)
      else if !allocated then (false, contacts)
      else (true, contacts ++ [{
        ledgerAccount := true
        contactName := (cstr account.accountName).take (lengths.contactName - 1)
        scope := []
        identifier := address }])

/-- The callbacks that change the list, with their verdicts dropped. -/
inductive ContactOp
  | provideIdentity (contact : Identity) (allocated : Bool)
  | provideLedgerAccount (account : LedgerAccount) (allocated : Bool)
  | editContactName (oldName newName : Bytes)
  | editIdentifier (oldAddr newAddr : Address)
  | editScope (addr : Address) (newScope : Bytes)
  | editLedgerAccountName (addr : Address) (newName : Bytes)

def ContactOp.apply : ContactOp → List Contact
  | .provideIdentity contact allocated => (handleProvideIdentity lengths contacts contact allocated).2
  | .provideLedgerAccount account allocated => (handleProvideLedgerAccount sdk lengths contacts account allocated).2
  | .editContactName oldName newName => updateContactName lengths contacts oldName newName
  | .editIdentifier oldAddr newAddr => updateContactIdentifier contacts oldAddr newAddr
  | .editScope addr newScope => updateContactScope lengths contacts addr newScope
  | .editLedgerAccountName addr newName => updateLedgerAccountContactName lengths contacts addr newName

end Operations

section Rules

variable {σ κ : Type} (sdk : Sdk σ κ) (lengths : ContactLengths) (contacts : List Contact)

/-- What is provided is in the list. -/
def ContactOp.Held : ContactOp → Prop
  | .provideIdentity contact _ => isValidTronIdentifier contact ∧ (false, contact.address) ∈ contacts.map Contact.key
  | .provideLedgerAccount account _ =>
    ∃ address, deriveTronAddress sdk account.bip32Path = some address ∧ (true, address) ∈ contacts.map Contact.key
  | _ => False

/-- An edit in place is that of every entry of its kind and address. -/
def ContactOp.EditsOnly : ContactOp → Prop
  | .editIdentifier oldAddr newAddr => updateContactIdentifier contacts oldAddr newAddr =
      contacts.map fun node => if node.key = (false, oldAddr) then { node with identifier := newAddr } else node
  | .editScope addr newScope => updateContactScope lengths contacts addr newScope =
      contacts.map fun node => if node.key = (false, addr) then
        { node with scope := (cstr newScope).take (lengths.scope - 1) } else node
  | .editLedgerAccountName addr newName => updateLedgerAccountContactName lengths contacts addr newName =
      contacts.map fun node => if node.key = (true, addr) then
        { node with contactName := (cstr newName).take (lengths.contactName - 1) } else node
  | _ => True

/-- What is asked of one operation. -/
structure ContactOp.Sound (op : ContactOp) : Prop where
  unique : Keyed Contact.key (op.apply sdk lengths contacts)
  held : op.Held sdk contacts → op.apply sdk lengths contacts = contacts
  only : op.EditsOnly lengths contacts

/-- No identity is renamed to the address of another, and no account is provided whose own entry
stands behind an identity with its address. -/
def ContactOp.keepsApart : ContactOp → Bool
  | .provideLedgerAccount account allocated =>
    match deriveTronAddress sdk account.bip32Path with
    | none => true
    | some address => !account.familyTron || !allocated || decide ((true, address) ∉ contacts.map Contact.key) ||
        (getAddressBookContact contacts address).any (·.ledgerAccount)
  | .editIdentifier oldAddr newAddr =>
    decide ((false, oldAddr) ∉ contacts.map Contact.key) || decide (newAddr = oldAddr) ||
      decide ((false, newAddr) ∉ contacts.map Contact.key)
  | _ => true

end Rules

section Steps

variable {σ κ : Type} {sdk : Sdk σ κ} {lengths : ContactLengths} {contacts : List Contact}

theorem key_matches (kind : Bool) (addr : Address) :
    (fun node : Contact => decide (node.ledgerAccount = kind ∧ node.identifier = addr)) =
      fun node => decide (node.key = (kind, addr)) := by
  funext node
  simp [Contact.key]

theorem key_mem_iff (kind : Bool) (addr : Address) :
    (kind, addr) ∈ contacts.map Contact.key ↔ ∃ c ∈ contacts, c.ledgerAccount = kind ∧ c.identifier = addr := by
  simp [Contact.key]

/-- A contact that is found is in the list, with the address it was looked up for. -/
theorem getAddressBookContact_mem {addr : Address} {c : Contact} (found : getAddressBookContact contacts addr = some c) :
    c ∈ contacts ∧ c.identifier = addr :=
  ⟨List.mem_of_find?_eq_some found, by simpa using List.find?_some found⟩

theorem getAddressBookContact_none {addr : Address} (none : getAddressBookContact contacts addr = none) (kind : Bool) :
    (kind, addr) ∉ contacts.map Contact.key := by
  intro among
  obtain ⟨c, inside, -, same⟩ := (key_mem_iff _ _).mp among
  exact List.find?_eq_none.mp none c inside (decide_eq_true same)

/-- The edits that keep the keys. -/
theorem editsOnly_of_keyed (apart : Keyed Contact.key contacts) (op : ContactOp) : op.EditsOnly lengths contacts := by
  cases op with
  | provideIdentity | provideLedgerAccount | editContactName => trivial
  | editIdentifier oldAddr newAddr =>
    rw [ContactOp.EditsOnly, updateContactIdentifier, key_matches, apart.modifyFirst_eq_map]
  | editScope addr newScope =>
    rw [ContactOp.EditsOnly, updateContactScope, key_matches, apart.modifyFirst_eq_map]
  | editLedgerAccountName addr newName =>
    rw [ContactOp.EditsOnly, updateLedgerAccountContactName, key_matches, apart.modifyFirst_eq_map]

/-- An identity is provided where no entry has its address. -/
theorem provideIdentity_sound (apart : Keyed Contact.key contacts) (contact : Identity) (allocated : Bool) :
    (ContactOp.provideIdentity contact allocated).Sound sdk lengths contacts := by
  cases found : getAddressBookContact contacts contact.address with
  | some entry =>
    have kept : (ContactOp.provideIdentity contact allocated).apply sdk lengths contacts = contacts := by
      simp only [ContactOp.apply, handleProvideIdentity, found, Option.isSome_some, if_true]
      split <;> rfl
    exact ⟨by rw [kept]; exact apart, fun _ => kept, trivial⟩
  | none =>
    have fresh := getAddressBookContact_none found false
    refine ⟨?_, fun held => absurd held.2 fresh, trivial⟩
    simp only [ContactOp.apply, handleProvideIdentity, found, Option.isSome_none, Bool.false_eq_true, if_false]
    split_ifs
    · exact apart
    · exact apart
    · exact apart.push fresh

/-- An account that is provided, as its entries are found. -/
theorem provideLedgerAccount_sound_iff (apart : Keyed Contact.key contacts) (account : LedgerAccount)
    (allocated : Bool) :
    (ContactOp.provideLedgerAccount account allocated).Sound sdk lengths contacts ↔
      (ContactOp.provideLedgerAccount account allocated).keepsApart sdk contacts = true := by
  have unchanged (kept : (ContactOp.provideLedgerAccount account allocated).apply sdk lengths contacts = contacts) :
      (ContactOp.provideLedgerAccount account allocated).Sound sdk lengths contacts :=
    ⟨by rw [kept]; exact apart, fun _ => kept, trivial⟩
  cases derived : deriveTronAddress sdk account.bip32Path with
  | none =>
    refine iff_of_true (unchanged ?_) (by simp [ContactOp.keepsApart, derived])
    simp only [ContactOp.apply, handleProvideLedgerAccount, derived, ite_self]
  | some address =>
    by_cases family : account.familyTron = true
    swap
    · refine iff_of_true (unchanged ?_) (by simp [ContactOp.keepsApart, derived, family])
      simp [ContactOp.apply, handleProvideLedgerAccount, family]
    by_cases found : (getAddressBookContact contacts address).any (·.ledgerAccount) = true
    · refine iff_of_true (unchanged ?_) (by simp [ContactOp.keepsApart, derived, found])
      simp [ContactOp.apply, handleProvideLedgerAccount, family, derived, found]
    by_cases room : allocated = true
    swap
    · refine iff_of_true (unchanged ?_) (by simp [ContactOp.keepsApart, derived, room])
      simp [ContactOp.apply, handleProvideLedgerAccount, family, derived, found, room]
    have pushed : (ContactOp.provideLedgerAccount account allocated).apply sdk lengths contacts = contacts ++ [{
        ledgerAccount := true
        contactName := (cstr account.accountName).take (lengths.contactName - 1)
        scope := []
        identifier := address }] := by
      simp [ContactOp.apply, handleProvideLedgerAccount, family, derived, found, room]
    by_cases among : (true, address) ∈ contacts.map Contact.key
    · refine iff_of_false ?_ (by simp [ContactOp.keepsApart, derived, family, room, among, found])
      intro sound
      have unique := sound.unique
      rw [pushed] at unique
      exact not_keyed_push among unique
    · refine iff_of_true ⟨?_, ?_, trivial⟩ (by simp [ContactOp.keepsApart, derived, among])
      · rw [pushed]
        exact apart.push among
      · rintro ⟨other, same, inside⟩
        rw [Option.some.inj (derived.symm.trans same)] at among
        exact absurd inside among

theorem editIdentifier_sound_iff (apart : Keyed Contact.key contacts) (oldAddr newAddr : Address) :
    (ContactOp.editIdentifier oldAddr newAddr).Sound sdk lengths contacts ↔
      (ContactOp.editIdentifier oldAddr newAddr).keepsApart sdk contacts = true := by
  have changes : ∀ node : Contact, node.key = (false, oldAddr) →
      ({ node with identifier := newAddr } : Contact).key = (false, newAddr) := by
    intro node same
    rw [Contact.key, Prod.mk.injEq] at same
    rw [Contact.key, same.1]
  have kept := apart.modifyFirst_iff changes
  have sound : (ContactOp.editIdentifier oldAddr newAddr).Sound sdk lengths contacts ↔
      Keyed Contact.key (updateContactIdentifier contacts oldAddr newAddr) :=
    ⟨fun sound => sound.unique, fun unique => ⟨unique, fun held => held.elim, editsOnly_of_keyed apart _⟩⟩
  rw [sound, updateContactIdentifier, key_matches, kept]
  simp only [ContactOp.keepsApart, Bool.or_eq_true, decide_eq_true_eq, Prod.mk.injEq, true_and]
  tauto

/-- **One operation does what is asked of it exactly when it keeps the entries apart.** -/
theorem step_keeps_iff (apart : Keyed Contact.key contacts) (op : ContactOp) :
    op.Sound sdk lengths contacts ↔ op.keepsApart sdk contacts = true := by
  cases op with
  | provideIdentity contact allocated =>
    exact iff_of_true (provideIdentity_sound apart contact allocated) rfl
  | provideLedgerAccount account allocated => exact provideLedgerAccount_sound_iff apart account allocated
  | editContactName oldName newName =>
    refine iff_of_true ⟨?_, fun held => held.elim, trivial⟩ rfl
    refine apart.map fun node => ?_
    split <;> rfl
  | editIdentifier oldAddr newAddr => exact editIdentifier_sound_iff apart oldAddr newAddr
  | editScope addr newScope =>
    exact iff_of_true ⟨apart.modifyFirst fun _ => rfl, fun held => held.elim, editsOnly_of_keyed apart _⟩ rfl
  | editLedgerAccountName addr newName =>
    exact iff_of_true ⟨apart.modifyFirst fun _ => rfl, fun held => held.elim, editsOnly_of_keyed apart _⟩ rfl

end Steps

section Runs

variable {σ κ : Type} (sdk : Sdk σ κ) (lengths : ContactLengths)

/-- One operation on the list. -/
def contactStep (contacts : List Contact) (op : ContactOp) : Option (List Contact) :=
  some (op.apply sdk lengths contacts)

/-- Every operation keeps the entries apart. -/
def apartStep (contacts : List Contact) (op : ContactOp) : Bool := op.keepsApart sdk contacts

/-- **Where every operation keeps the entries apart, no two have the same kind and address, and this
is exactly where the next one does what is asked of it.** -/
theorem contacts_apart {ops : List ContactOp} {contacts : List Contact}
    (run : Run (contactStep sdk lengths) (apartStep sdk) [] ops contacts) :
    Keyed Contact.key contacts ∧
      ∀ op : ContactOp, op.Sound sdk lengths contacts ↔ apartStep sdk contacts op = true := by
  have apart : Keyed Contact.key contacts := by
    have none : Keyed Contact.key [] := List.nodup_nil
    refine run.preserves none ?_
    intro before op after keyed ok stepped
    obtain rfl := Option.some.inj stepped
    exact ((step_keeps_iff keyed op).mpr ok).unique
  exact ⟨apart, step_keeps_iff apart⟩

end Runs

section Inputs

def ada : Identity := ⟨true, ascii "Ada", ascii "home", beBytes 21 (0x41 * 256 ^ 20 + 1)⟩

def bob : Identity := ⟨true, ascii "Bob", ascii "work", beBytes 21 (0x41 * 256 ^ 20 + 2)⟩

theorem contacts_apart_two :
    ∃ contacts, Run (contactStep device ⟨33, 33⟩) (apartStep device) []
        [.provideIdentity ada true, .provideIdentity bob true] contacts ∧
      Keyed Contact.key contacts ∧
      ∀ op : ContactOp, op.Sound device ⟨33, 33⟩ contacts ↔ apartStep device contacts op = true := by
  obtain ⟨contacts, run, -⟩ := Run.exists_of_exec (contactStep device ⟨33, 33⟩) (apartStep device) []
    [.provideIdentity ada true, .provideIdentity bob true] (fun _ => true) (by decide +kernel)
  exact ⟨contacts, run, contacts_apart device ⟨33, 33⟩ run⟩

/-- Bob's address is entered for Ada, who then has it as he does. -/
theorem edited_twice :
    ∃ contacts, Run (contactStep device ⟨33, 33⟩) anyStep []
        [.provideIdentity ada true, .provideIdentity bob true, .editIdentifier ada.address bob.address] contacts ∧
      ¬Keyed Contact.key contacts := by
  obtain ⟨contacts, run, twice⟩ := Run.exists_of_exec (contactStep device ⟨33, 33⟩) anyStep []
    [.provideIdentity ada true, .provideIdentity bob true, .editIdentifier ada.address bob.address]
    (fun contacts => !decide (Keyed Contact.key contacts)) (by decide +kernel)
  exact ⟨contacts, run, by simpa using twice⟩

end Inputs

end TronLedger
