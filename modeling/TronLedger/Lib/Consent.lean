import Mathlib.Data.List.Forall2

/-!
# Devices that act on consent

A device that puts one request at a time on its screen and acts on the answer of its user.

* `ConsentRun` is what such a device can do; its log is kept newest first.
* `ConsentRun.screens` and `ConsentRun.secrets` say what follows for any run: every screen is
  answered at most once and in order, and a secret is only put out for a request that was
  approved.
-/

namespace TronLedger

/-- What is shown for a request `Q`, and what is put out: for an answer, or of the device's own
accord. -/
structure ConsentRules (Q O : Type) where
  shows : Q → O → Prop
  approved : Q → List O
  refused : Q → List O
  free : O → Prop

section

variable {Q O : Type} (rules : ConsentRules Q O)

def ConsentRules.answer (q : Q) : Bool → List O
  | true => rules.approved q
  | false => rules.refused q

/-- The requests that were answered, newest first, the one that is waiting, and the log. -/
inductive ConsentRun : List (Q × Bool) → Option Q → List O → Prop
  | start : ConsentRun [] none []
  | acts {answered : List (Q × Bool)} {log : List O} (run : ConsentRun answered none log) (news : List O)
      (free : ∀ o ∈ news, rules.free o) : ConsentRun answered none (news ++ log)
  | asks {answered : List (Q × Bool)} {log : List O} (run : ConsentRun answered none log) {q : Q} {screen : O}
      (shown : rules.shows q screen) : ConsentRun answered (some q) (screen :: log)
  | answers {answered : List (Q × Bool)} {q : Q} {log : List O} (run : ConsentRun answered (some q) log)
      (confirm : Bool) : ConsentRun ((q, confirm) :: answered) none (rules.answer q confirm ++ log)

variable {rules} {answered : List (Q × Bool)} {pending : Option Q} {log : List O}

theorem filter_none {p : O → Bool} {news : List O} (none : ∀ o ∈ news, p o = false) (log : List O) :
    (news ++ log).filter p = log.filter p := by
  rw [List.filter_append, List.filter_eq_nil_iff.mpr fun o among => by simp [none o among], List.nil_append]

/-- **Every screen shows a request, and they are answered in order.** -/
theorem ConsentRun.screens {screen : O → Bool} (shown : ∀ q o, rules.shows q o → screen o = true)
    (free : ∀ o, rules.free o → screen o = false)
    (answer : ∀ q confirm, ∀ o ∈ rules.answer q confirm, screen o = false)
    (run : ConsentRun rules answered pending log) :
    List.Forall₂ rules.shows (pending.toList ++ answered.map Prod.fst) (log.filter screen) := by
  induction run with
  | start => exact .nil
  | acts run news all ih =>
    rw [filter_none fun o among => free o (all o among)]
    exact ih
  | asks run shows ih =>
    rw [List.filter_cons_of_pos (shown _ _ shows)]
    exact .cons shows ih
  | answers run confirm ih =>
    rw [filter_none (answer _ confirm)]
    exact ih

/-- What the approved ones of some answered requests put out of `secret`. -/
def ConsentRules.granted (rules : ConsentRules Q O) (secret : O → Bool) (answered : List (Q × Bool)) : List O :=
  answered.flatMap fun (q, confirm) => if confirm then (rules.approved q).filter secret else []

theorem ConsentRules.granted_denied {secret : O → Bool} {newer : List (Q × Bool)}
    (denied : ∀ q confirm, (q, confirm) ∈ newer → confirm = false) (answered : List (Q × Bool)) :
    rules.granted secret (newer ++ answered) = rules.granted secret answered := by
  induction newer with
  | nil => rfl
  | cons answer newer ih =>
    obtain ⟨q, confirm⟩ := answer
    obtain rfl := denied q confirm List.mem_cons_self
    exact ih fun q confirm among => denied q confirm (List.mem_cons_of_mem _ among)

/-- **Secrets are put out for approved requests, once and in order.** -/
theorem ConsentRun.secrets {secret : O → Bool} (shown : ∀ q o, rules.shows q o → secret o = false)
    (free : ∀ o, rules.free o → secret o = false) (refused : ∀ q, ∀ o ∈ rules.refused q, secret o = false)
    (run : ConsentRun rules answered pending log) : log.filter secret = rules.granted secret answered := by
  induction run with
  | start => rfl
  | acts run news all ih =>
    rw [filter_none fun o among => free o (all o among)]
    exact ih
  | asks run shows ih =>
    rw [List.filter_cons_of_neg (by simp [shown _ _ shows])]
    exact ih
  | answers run confirm ih =>
    cases confirm with
    | true =>
      rw [ConsentRules.answer, List.filter_append, ih]
      rfl
    | false =>
      rw [ConsentRules.answer, filter_none (refused _)]
      exact ih

end

end TronLedger
