import TronLedger.AmountReview

/-!
# The labels of resources

Six contracts freeze, release or delegate a resource. The wire carries its code in 32 bits, of which
the app keeps eight; the review tells 0 from everything else.

* `resourceField` says where a contract carries the code.
* `resource_labels_iff` says when the label is the one of the code.
-/

namespace TronLedger

open Nanopb

/-- The field of a contract that carries the code of a resource. -/
def resourceField : ContractType → Option Nat
  | .freezeBalance | .unfreezeBalance => some 10
  | .freezeBalanceV2 | .unfreezeBalanceV2 => some 3
  | .delegateResource | .undelegateResource => some 2
  | _ => none

/-- The label of the code that is kept. -/
def resourceLabel (resource : UInt8) : Bytes := if resource = 0 then ascii "Bandwidth" else ascii "Energy"

/-- A label is the one of a code, and the code is one of a resource. -/
structure LabelFaithful (label : Bytes) (code : UInt32) : Prop where
  bandwidth : label = ascii "Bandwidth" ↔ code = 0
  energy : label = ascii "Energy" ↔ code = 1
  known : code = 0 ∨ code = 1

/-- What a review shows of the resource of its transaction. -/
def ReviewsResource (r : Review) (older : List Effect) : Prop :=
  ∀ number, resourceField r.content.contractType = some number →
    ∃ contract parameter, SessionCarries older contract parameter ∧ r.infos.Displays .fullContract ∧
      Slot.fullContract.shown r.ui = resourceLabel (uint32Value number (recordsOf parameter)).toUInt8 ∧
      (LabelFaithful (Slot.fullContract.shown r.ui) (uint32Value number (recordsOf parameter)) ↔
        uint32Value number (recordsOf parameter) = 0 ∨ uint32Value number (recordsOf parameter) = 1)

theorem labelFaithful_iff (code : UInt32) :
    LabelFaithful (resourceLabel code.toUInt8) code ↔ code = 0 ∨ code = 1 := by
  constructor
  · exact fun faithful => faithful.known
  · rintro (rfl | rfl)
    · exact ⟨by decide +kernel, by decide +kernel, .inl rfl⟩
    · exact ⟨by decide +kernel, by decide +kernel, .inr rfl⟩

section Messages

theorem freezeBalanceContract_resource :
    FreezeBalanceContract.fields.KeepsElsewhere 10 FreezeBalanceContract.resource := .table (by simp)

theorem unfreezeBalanceContract_local : UnfreezeBalanceContract.fields.Local := .table (by simp)

theorem unfreezeBalanceContract_resource :
    UnfreezeBalanceContract.fields.KeepsElsewhere 10 UnfreezeBalanceContract.resource := .table (by simp)

theorem freezeBalanceV2Contract_resource :
    FreezeBalanceV2Contract.fields.KeepsElsewhere 3 FreezeBalanceV2Contract.resource := .table (by simp)

theorem unfreezeBalanceV2Contract_resource :
    UnfreezeBalanceV2Contract.fields.KeepsElsewhere 3 UnfreezeBalanceV2Contract.resource := .table (by simp)

theorem delegateResourceContract_resource :
    DelegateResourceContract.fields.KeepsElsewhere 2 DelegateResourceContract.resource := .table (by simp)

theorem unDelegateResourceContract_resource :
    UnDelegateResourceContract.fields.KeepsElsewhere 2 UnDelegateResourceContract.resource := .table (by simp)

end Messages

section Readers

variable {content stored : TxContent} {parameter : Bytes}

/-- **Every reader keeps the low byte of the code on the wire.** -/
theorem reader_resource {type : ContractType} {reader : ContractReader} {number : Nat}
    (carries : resourceField type = some number) (known : contractReader type = some reader)
    (read : reader content (pbIstreamFromBuffer parameter) = (true, stored)) :
    stored.resource = (uint32Value number (recordsOf parameter)).toUInt8 := by
  cases type <;> simp only [resourceField, Option.some.injEq, reduceCtorEq] at carries <;>
    obtain rfl := Option.some.inj known <;> obtain rfl := carries <;>
    obtain ⟨rest, msg, decoded, stored_eq⟩ := readContract_decodes read
  case freezeBalance =>
    have code := pbDecode_uint32 freezeBalanceContract_local rfl (fun _ _ => rfl)
      freezeBalanceContract_resource rfl decoded
    split at stored_eq
    · simp at stored_eq
    · rw [← code, ← (Prod.mk.inj stored_eq).2]
  case unfreezeBalance =>
    have code := pbDecode_uint32 unfreezeBalanceContract_local rfl (fun _ _ => rfl)
      unfreezeBalanceContract_resource rfl decoded
    rw [← code, ← (Prod.mk.inj stored_eq).2]
  case freezeBalanceV2 =>
    have code := pbDecode_uint32 freezeBalanceV2Contract_local rfl (fun _ _ => rfl)
      freezeBalanceV2Contract_resource rfl decoded
    rw [← code, ← (Prod.mk.inj stored_eq).2]
  case unfreezeBalanceV2 =>
    have code := pbDecode_uint32 unfreezeBalanceV2Contract_local rfl (fun _ _ => rfl)
      unfreezeBalanceV2Contract_resource rfl decoded
    rw [← code, ← (Prod.mk.inj stored_eq).2]
  case delegateResource =>
    have code := pbDecode_uint32 delegateResourceContract_local rfl (fun _ _ => rfl)
      delegateResourceContract_resource rfl decoded
    rw [← code, ← (Prod.mk.inj stored_eq).2]
  case undelegateResource =>
    have code := pbDecode_uint32 unDelegateResourceContract_local rfl (fun _ _ => rfl)
      unDelegateResourceContract_resource rfl decoded
    rw [← code, ← (Prod.mk.inj stored_eq).2]

end Readers

section Shown

variable {σ κ : Type} {ctx : RenderContext σ κ} {content : TxContent} {ui shown : Ui}
  {kind : ApprovalState} {number : Nat}

theorem putResource_shown (ui : Ui) :
    (Ui.putResource content ui).fullContract.str 0 = resourceLabel content.resource := by
  have labels : ∀ label ∈ [ascii "Bandwidth", ascii "Energy"],
      (∀ c ∈ label, c ≠ 0) ∧ 0 + label.length + 1 ≤ 67 := by decide +kernel
  have among : resourceLabel content.resource ∈ [ascii "Bandwidth", ascii "Energy"] := by
    unfold resourceLabel
    split <;> simp
  obtain ⟨nonzero, fits⟩ := labels _ among
  exact Buf.str_strcpy ui.fullContract 0 _ nonzero fits

theorem ContractShows.resource (shows : ContractShows ctx content ui kind shown)
    (carries : resourceField content.contractType = some number) :
    shown.fullContract.str 0 = resourceLabel content.resource ∧
      ∃ f ∈ reviewFields kind content.contractType shown, f.value = .fullContract := by
  cases type : content.contractType <;> simp only [ContractShows, type] at shows <;>
    simp only [resourceField, type, Option.some.injEq, reduceCtorEq] at carries
  all_goals rw [shows.kind_eq, shows.shown_eq]
  all_goals refine ⟨putResource_shown ui, ?_⟩
  case freezeBalance | freezeBalanceV2 => exact ⟨field "Gain" .fullContract, by simp [reviewFields], rfl⟩
  all_goals exact ⟨field "Resource" .fullContract, by simp [reviewFields], rfl⟩

variable {sdk : Sdk σ κ}

/-- The code behind a review of the session's contract. -/
theorem ContractOf.resource {log : List Effect} {msg : Msg} (of : ContractOf log content msg)
    (carries : resourceField (renderedContent content).contractType = some number) :
    ∃ contract parameter, SessionCarries log contract parameter ∧
      (renderedContent content).resource = (uint32Value number (recordsOf parameter)).toUInt8 := by
  rw [renderedContent_type] at carries
  have kept : (renderedContent content).resource = content.resource := by
    unfold renderedContent
    split <;> rfl
  obtain ⟨reader, known⟩ : ∃ reader, contractReader content.contractType = some reader := by
    revert carries
    cases content.contractType <;> simp [resourceField, contractReader]
  obtain ⟨contract, parameter, stored, named, carried, read, type, change, -, same⟩ := of.reads known
  refine ⟨contract, parameter, carried, ?_⟩
  rw [kept, ← reader_resource carries known read, same]
  unfold MetadataChange at change
  rw [change]
  rfl

/-- **A review labels a resource by the low byte of its code: faithfully exactly when the code is
that of bandwidth or that of energy.** -/
theorem resource_labels_iff {version : AppVersion} {b : Boot} {es : List Event} {w w' : World σ κ}
    {c : Command} {g : World σ κ → Event → Bool} (run : AppRun sdk version g b es w)
    (stepped : step sdk version w (.apdu c) = some w') (own : c.isSign = true) :
    ∃ news, w'.trace = news ++ w.trace ∧
      AlwaysOver (fun entry older => ∀ r, entry = .review r → ReviewsResource r older) news w.trace := by
  obtain ⟨news, trace, reviewed⟩ := AppRun.reviews sdk run stepped own
  refine ⟨news, trace, reviewed.mono ?_⟩
  rintro entry older reviewed r rfl number carries
  obtain ⟨⟨content, content_eq, of⟩, ⟨before, called, validated, time, received, shows⟩, ready⟩ := reviewed r rfl
  obtain ⟨label, f, among, slot⟩ := shows.contract.resource carries
  rw [content_eq] at carries label
  obtain ⟨contract, parameter, carried, code⟩ := of.resource carries
  obtain ⟨g, kept, -, value⟩ := prepareTxInfos_displays ready among
  have shown : Slot.fullContract.shown r.ui =
      resourceLabel (uint32Value number (recordsOf parameter)).toUInt8 := by
    rw [← code]
    exact label
  refine ⟨contract, parameter, carried, ⟨g, kept, .inr (value.trans slot)⟩, shown, ?_⟩
  rw [shown]
  exact labelFaithful_iff _

end Shown

/-- The V2 freeze of a unit, for the resource whose code is the varint `code`. -/
def freezeFor (code : Bytes) : Bytes := delimitedField 1 (sampleAccount 1) ++ [0x10, 1] ++ 0x18 :: code

def reviewFreeze (code : Bytes)
    (short : (pathBytes 0 ++ contractField 54 (freezeFor code)).length < 256 := by decide) : Event :=
  command Ins.sign P1.sign 0 (pathBytes 0 ++ contractField 54 (freezeFor code)) short

/-- The freeze for energy. -/
theorem resource_labels_iff_energy : ∃ w',
    step device deviceVersion (boot device deviceBoot) (reviewFreeze [1]) = some w' ∧
    ∃ news, w'.trace = news ++ (boot device deviceBoot).trace ∧
      AlwaysOver (fun entry older => ∀ r, entry = .review r → ReviewsResource r older) news
        (boot device deviceBoot).trace := by
  have runs : (step device deviceVersion (boot device deviceBoot) (reviewFreeze [1])).isSome = true := by
    decide +kernel
  obtain ⟨w', stepped⟩ := Option.isSome_iff_exists.mp runs
  exact ⟨w', stepped, resource_labels_iff (g := anyStep) (b := deviceBoot) .start stepped (by decide)⟩

/-- The code 256 is labelled as bandwidth, and the code 2 as energy. -/
theorem resource_mislabelled : ∃ w w' wide v v' third older older',
    (AppRun device deviceVersion anyStep deviceBoot [] w ∧
      step device deviceVersion w (reviewFreeze [0x80, 2]) = some w' ∧ w'.trace = .review wide :: older ∧
      uint32Value 3 (recordsOf (freezeFor [0x80, 2])) = 256 ∧
      Slot.fullContract.shown wide.ui = ascii "Bandwidth") ∧
    AppRun device deviceVersion anyStep deviceBoot [] v ∧
      step device deviceVersion v (reviewFreeze [2]) = some v' ∧ v'.trace = .review third :: older' ∧
      uint32Value 3 (recordsOf (freezeFor [2])) = 2 ∧
      Slot.fullContract.shown third.ui = ascii "Energy" := by
  obtain ⟨w, w', wide, older, run, stepped, trace, found⟩ := exists_review_step anyStep []
    (reviewFreeze [0x80, 2]) (fun r _ => Slot.fullContract.shown r.ui = ascii "Bandwidth") (by decide +kernel)
  obtain ⟨v, v', third, older', run', stepped', trace', found'⟩ := exists_review_step anyStep []
    (reviewFreeze [2]) (fun r _ => Slot.fullContract.shown r.ui = ascii "Energy") (by decide +kernel)
  exact ⟨w, w', wide, v, v', third, older, older',
    ⟨run, stepped, trace, by decide +kernel, of_decide_eq_true found⟩,
    run', stepped', trace', by decide +kernel, of_decide_eq_true found'⟩

end TronLedger
