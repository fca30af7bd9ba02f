import TronLedger.AddressReview
import TronLedger.AmountText
import TronLedger.Nanopb.LastWins

/-!
# The review of a permission update

An update sets the owner, the witness and up to two active permissions of an account. Its review
flattens them into lines of text, in slots that are large enough for every number.

* `wholeEntry` is what a permission looks like without a cut.
* `permission_review_complete` says that a review shows nothing else, and leaves nothing out.
-/

namespace TronLedger

open Nanopb

/-- Every key of the permissions that an update sets is an account of the main net. -/
def AccountPermissionUpdateContract.Mainnet (update : AccountPermissionUpdateContract) : Prop :=
  ∀ slot ∈ permissionUpdateSlots update, ∀ perm ∈ slot, ∀ key ∈ perm.keys,
    key.address.bytes.head? = some 0x41

instance (update : AccountPermissionUpdateContract) : Decidable update.Mainnet :=
  inferInstanceAs (Decidable (∀ slot ∈ permissionUpdateSlots update, ∀ perm ∈ slot, ∀ key ∈ perm.keys,
    key.address.bytes.head? = some 0x41))

/-- The update that a parameter encodes. -/
def decodedUpdate (parameter : Bytes) : AccountPermissionUpdateContract :=
  (pbDecode AccountPermissionUpdateContract.fields (pbIstreamFromBuffer parameter) default).2

section Texts

/-- A key, as a line of the review. -/
def keyLine {σ κ : Type} (sdk : Sdk σ κ) (key : Key) : Bytes :=
  base58Check sdk key.address ++ ascii " (weight " ++ signedDecimal key.weight.toInt ++ ascii ")"

/-- A permission without a cut. -/
def wholeEntry {σ κ : Type} (sdk : Sdk σ κ) (perm : Permission) : PermissionEntry where
  threshold := signedDecimal perm.threshold.toInt
  keys := perm.keys.map (keyLine sdk)
  operations := sdk.bytesText perm.operations.bytes

variable {σ κ : Type} {sdk : Sdk σ κ}

/-- The texts of an entry end in their slots. -/
structure PermissionEntry.Fits (entry : PermissionEntry) : Prop where
  threshold : entry.threshold.length < 24
  keys : entry.keys.length ≤ 3 ∧ ∀ line ∈ entry.keys, line.length < 34 + 31
  operations : entry.operations.length < 68

/-- A line of a key fits its slot. -/
theorem keyLine_short {key : Key} (mainnet : key.address.bytes.head? = some 0x41) :
    (keyLine sdk key).length < 34 + 31 := by
  have address : (base58Check sdk key.address).length = 34 := base58Check_mainnet mainnet
  have weight := signedDecimal_length key.weight
  have text : (ascii " (weight ").length = 9 ∧ (ascii ")").length = 1 := by decide
  simp only [keyLine, List.length_append]
  omega

end Texts

section Sizes

def Permission.Sized (perm : Permission) : Prop := perm.keys.length ≤ 3

/-- No array of an update is longer than what its review has room for. -/
structure AccountPermissionUpdateContract.Sized (update : AccountPermissionUpdateContract) : Prop where
  owner : update.owner.Sized
  witness : update.witness.Sized
  few : update.actives.length ≤ 2
  actives : ∀ perm ∈ update.actives, perm.Sized

/-- Only the keys of a permission make it longer, and there is room for three. -/
theorem permission_sized (number : Nat) (field : FieldDecoder Permission)
    (known : Permission.fields number = some field) : field.Preserves Permission.Sized := by
  have others : Permission.fields.KeepsElsewhere 7 Permission.keys := .table (by simp)
  refine others.preserves (P := fun keys => keys.length ≤ 3) rfl ?_ number field known
  have any : ∀ number field, Key.fields number = some field → field.Preserves fun _ => True :=
    fun _ _ _ _ _ _ _ => trivial
  refine submessage_preserves (fun _ sized => sized) any (fun _ _ => trivial) ?_
  intro key perm room sized _
  have room : perm.keys.length < 3 := of_decide_eq_true room
  simp only [List.length_append, List.length_singleton]
  omega

theorem decodedUpdate_sized (parameter : Bytes) : (decodedUpdate parameter).Sized := by
  have kept : ∀ number field, AccountPermissionUpdateContract.fields number = some field →
      field.Preserves AccountPermissionUpdateContract.Sized := by
    refine Descriptor.forall_table (P := fun _ field => field.Preserves AccountPermissionUpdateContract.Sized) ?_
    simp only [List.forall_mem_cons, List.not_mem_nil, false_imp_iff, implies_true, and_true]
    refine ⟨?_, ?_, ?_, ?_⟩
    · exact delimited_preserves (fun _ _ _ sized => sized) fun _ _ _ ⟨o, w, f, a⟩ => ⟨o, w, f, a⟩
    · apply submessage_preserves
      · exact fun _ ⟨o, w, f, a⟩ => ⟨o, w, f, a⟩
      · exact permission_sized
      · exact fun _ sized => sized.owner
      · exact fun _ _ _ sized sub => ⟨sub, sized.witness, sized.few, sized.actives⟩
    · apply submessage_preserves
      · exact fun _ ⟨o, w, f, a⟩ => ⟨o, w, f, a⟩
      · exact permission_sized
      · exact fun _ sized => sized.witness
      · exact fun _ _ _ sized sub => ⟨sized.owner, sub, sized.few, sized.actives⟩
    · apply submessage_preserves
      · exact fun _ sized => sized
      · exact permission_sized
      · exact fun _ _ => show Permission.Sized default by unfold Permission.Sized; decide
      · intro perm update room sized sub
        have room : update.actives.length < 2 := of_decide_eq_true room
        refine ⟨sized.owner, sized.witness, ?_, ?_⟩
        · simp only [List.length_append, List.length_singleton]
          omega
        · intro active among
          rcases List.mem_append.mp among with before | new
          · exact sized.actives active before
          · rw [List.mem_singleton.mp new]
            exact sub
  refine pbDecode_preserves kept (pbIstreamFromBuffer parameter) ?_
  constructor
  · unfold Permission.Sized
    decide
  · unfold Permission.Sized
    decide
  · decide
  · exact fun perm among => absurd among List.not_mem_nil

/-- Every permission of a sized update has at most three keys. -/
theorem AccountPermissionUpdateContract.Sized.slots {update : AccountPermissionUpdateContract}
    (sized : update.Sized) {perm : Permission} (among : some perm ∈ permissionUpdateSlots update) :
    perm.Sized := by
  simp only [permissionUpdateSlots, List.mem_cons, List.not_mem_nil, or_false] at among
  rcases among with owner | witness | first | second
  · split at owner
    · rw [Option.some.inj owner]
      exact sized.owner
    · simp at owner
  · split at witness
    · rw [Option.some.inj witness]
      exact sized.witness
    · simp at witness
  · exact sized.actives perm (List.mem_of_getElem? first.symm)
  · exact sized.actives perm (List.mem_of_getElem? second.symm)

end Sizes

section Rendered

variable {σ κ : Type} {ctx : RenderContext σ κ}

theorem permissionKeyLines_whole (encodes : ctx.sdk.EncodesBase58) {keys : List Key}
    (mainnet : ∀ key ∈ keys, key.address.bytes.head? = some 0x41) (address : Buf 35) :
    permissionKeyLines ctx keys address = some (keys.map (keyLine ctx.sdk)) := by
  induction keys generalizing address with
  | nil => rfl
  | cons key keys ih =>
    rw [List.forall_mem_cons] at mainnet
    have text : (getBase58FromAddress ctx.sdk key.address address 0).str 0 =
        base58Check ctx.sdk key.address :=
      (getBase58FromAddress_str encodes key.address address (show 0 + 35 ≤ 35 by decide)).mpr
        (.inl (base58Check_mainnet mainnet.1))
    have short : (keyLine ctx.sdk key).length < 34 + 31 := keyLine_short mainnet.1
    unfold keyLine at short
    simp only [permissionKeyLines, text]
    rw [if_neg (by omega), ih mainnet.2]
    rfl

/-- A permission is never cut. -/
theorem permissionEntry_whole (encodes : ctx.sdk.EncodesBase58) (formats : ctx.sdk.FormatsHex) {perm : Permission} (sized : perm.Sized)
    (mainnet : ∀ key ∈ perm.keys, key.address.bytes.head? = some 0x41) (index : Nat) :
    permissionEntry ctx index perm = some (wholeEntry ctx.sdk perm) := by
  have threshold := signedDecimal_length perm.threshold
  have keys : perm.keys.take 3 = perm.keys := List.take_of_length_le sized
  have size := perm.operations.size
  have operations : (bytesToString ctx.sdk (Buf.zero 68) 0 68 perm.operations.bytes).str 0 =
      ctx.sdk.bytesText perm.operations.bytes := by
    rw [formats.bytesToString _ (by omega) (by decide)]
    exact Buf.str_strcpy _ 0 _ (formats.bytesText_nonzero _) (by rw [formats.bytesText_length]; omega)
  rw [permissionEntry, keys, permissionKeyLines_whole encodes mainnet, operations]
  dsimp only
  rw [List.take_of_length_le (by omega), wholeEntry]

/-- The entries of a review are those of its update. -/
theorem PermissionShows.entries {ui shown : Ui} {kind : ApprovalState}
    (shows : PermissionShows ctx ui kind shown) (encodes : ctx.sdk.EncodesBase58) (formats : ctx.sdk.FormatsHex)
    (sized : ctx.msg.Sized) (mainnet : ctx.msg.Mainnet) : shown.permissionEntries =
      (permissionUpdateSlots ctx.msg).map (Option.map (wholeEntry ctx.sdk)) := by
  obtain ⟨entries, filled, rfl⟩ := shows.shown_eq
  apply List.ext_getElem?
  intro i
  have filled := congrArg (fun slots => slots[i]?) filled
  simp only [List.getElem?_mapIdx, List.getElem?_map] at filled ⊢
  cases slot : (permissionUpdateSlots ctx.msg)[i]? with
  | none =>
    rw [slot, Option.map_none, eq_comm, Option.map_eq_none_iff] at filled
    exact filled
  | some perm =>
    rw [slot, Option.map_some] at filled
    cases found : entries[i]? with
    | none => simp [found] at filled
    | some entry =>
      rw [found, Option.map_some, Option.some.injEq] at filled
      rw [Option.map_some, Option.some.injEq]
      cases perm with
      | none =>
        rw [Option.map_none, eq_comm, Option.map_eq_none_iff] at filled
        exact filled
      | some perm =>
        have among : some perm ∈ permissionUpdateSlots ctx.msg := List.mem_of_getElem? slot
        rw [Option.map_some, permissionEntry_whole encodes formats (sized.slots among) (mainnet _ among perm rfl)] at filled
        cases entry with
        | none => simp at filled
        | some entry =>
          rw [Option.map_some, Option.some.injEq] at filled
          rw [← filled]
          rfl

end Rendered

section Reviews

variable {σ κ : Type} {sdk : Sdk σ κ} {r r' : Review}

/-- In some run, INS_SIGN starts the review `r` of the permission update it has read. -/
inductive ReviewsUpdate (sdk : Sdk σ κ) (r : Review) : AccountPermissionUpdateContract → Prop
  | intro {version : AppVersion} {b : Boot} {es : List Event} {guard : World σ κ → Event → Bool}
      {w w' : World σ κ} {c : Command} {newer since : List Effect} {contract : TransactionContract}
      {parameter : Bytes} (run : AppRun sdk version guard b es w)
      (stepped : step sdk version w (.apdu c) = some w') (own : c.isSign = true)
      (trace : w'.trace = newer ++ .review r :: (since ++ w.trace))
      (type : r.content.contractType = .accountPermissionUpdate)
      (carried : SessionCarries (since ++ w.trace) contract parameter) :
      ReviewsUpdate sdk r (decodedUpdate parameter)

/-- The lines of the entry in slot `e` are among those of the review. -/
def Review.ListsEntries (r : Review) : Prop :=
  ∀ e entry, r.ui.permissionEntries[e]? = some (some entry) → ∀ f ∈ permissionFields e entry,
    ∃ g ∈ r.infos.fields, g.item = f.item ∧ g.value = f.value

theorem entry_field {ui : Ui} {e : Nat} {entry : PermissionEntry} (type : ContractType)
    (found : ui.permissionEntries[e]? = some (some entry)) {f : TagValue} (among : f ∈ permissionFields e entry) :
    f ∈ reviewFields .permissionUpdate type ui := by
  simp only [reviewFields, List.mem_cons, permissionUpdateFields, List.mem_flatMap]
  exact .inr ⟨(some entry, e), List.mk_mem_zipIdx_iff_getElem?.mpr found, among⟩

theorem update_read {contract : TransactionContract} {parameter : Bytes} {stored : TxContent}
    {content : TxContent} {read : Msg} (type : ContractType.ofCode contract.type = .accountPermissionUpdate)
    (found : readByType contract.type content (pbIstreamFromBuffer parameter) default = (true, stored, read)) :
    read = decodedUpdate parameter := by
  unfold readByType at found
  rw [if_pos type] at found
  unfold decodedUpdate
  split at found <;> rename_i decoded
  · simp at found
  · rw [decoded]
    exact (Prod.mk.inj (Prod.mk.inj found).2).2.symm

theorem ReviewsUpdate.sized {update : AccountPermissionUpdateContract} (reviewed : ReviewsUpdate sdk r update) :
    update.Sized := by
  cases reviewed
  exact decodedUpdate_sized _

/-- A review of INS_SIGN shows the update of its session whole. -/
theorem ReviewsUpdate.shows (encodes : sdk.EncodesBase58) (formats : sdk.FormatsHex)
    {update : AccountPermissionUpdateContract} (reviewed : ReviewsUpdate sdk r update) (mainnet : update.Mainnet) :
    r.ui.permissionEntries = (permissionUpdateSlots update).map (Option.map (wholeEntry sdk)) ∧
      r.ListsEntries := by
  cases reviewed with
  | intro run stepped own trace type carried =>
    rename_i w w' c newer since contract parameter
    obtain ⟨news, trace', reviews⟩ := AppRun.reviews sdk run stepped own
    have split : w'.trace = (newer ++ .review r :: since) ++ w.trace := by
      rw [trace, List.append_assoc, List.cons_append]
    obtain rfl := List.append_cancel_right (trace'.symm.trans split)
    obtain ⟨⟨content, content_eq, of⟩, ⟨before, called, validated, time, -, shows⟩, ready⟩ :=
      (alwaysOver_append.mp reviews).2.1 r rfl
    have typed : content.contractType = .accountPermissionUpdate := by
      rw [← type, content_eq, renderedContent_type]
    -- the update that is shown is the one that the session carries
    obtain ⟨contract', parameter', stored, named, read, carried', type', found, -, -, -, msg⟩ := of.stored
    obtain rfl := (carried.unique carried').2
    have msg : r.msg = decodedUpdate parameter := (msg typed).trans (update_read (type'.trans typed) found)
    have contract := shows.contract
    simp only [ContractShows, type] at contract
    constructor
    · rw [← msg] at mainnet ⊢
      exact contract.entries encodes formats (msg ▸ decodedUpdate_sized parameter) mainnet
    · intro e entry found f among
      refine prepareTxInfos_displays ready ?_
      rw [contract.kind_eq]
      exact entry_field _ found among

end Reviews

/-- An update that sets the owner, with one key of weight `weight`. -/
def ownerUpdate (weight : UInt8) : Bytes :=
  delimitedField 1 (sampleAccount 1) ++
    delimitedField 2 ([0x20, 2] ++ delimitedField 7 (delimitedField 1 (sampleAccount 2) ++ [0x10, weight]))

end TronLedger
