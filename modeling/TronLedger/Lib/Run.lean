import Mathlib.Tactic.Common

/-!
# Runs of a deterministic machine

`step s e` is the state after event `e`, or `none` when `e` cannot happen in `s`.
`Run` also asks every step to meet a guard; `exec` computes the run of a list of events.
`Always` lifts a property of one entry of a log, given everything logged before it, to
the whole log.
-/

namespace TronLedger

section Runs

variable {S E : Type} (step : S → E → Option S) (guard : S → E → Bool) (init : S)

/-- The events of a run, oldest first, and the state they lead to. -/
inductive Run : List E → S → Prop
  | start : Run [] init
  | next {es : List E} {s t : S} {e : E} :
      Run es s → guard s e = true → step s e = some t → Run (es ++ [e]) t

/-- Guard of the unrestricted runs. -/
def anyStep (_ : S) (_ : E) : Bool := true

/-- The state after a list of events, if every step meets the guard. -/
def exec : S → List E → Option S
  | s, [] => some s
  | s, e :: es =>
    match step s e with
    | none => none
    | some t => if guard s e then exec t es else none

variable {step guard init}

theorem Run.preserves {P : S → Prop} (atStart : P init)
    (atStep : ∀ s e t, P s → guard s e = true → step s e = some t → P t)
    {es : List E} {s : S} (run : Run step guard init es s) : P s := by
  induction run with
  | start => exact atStart
  | next _ ok stepped ih => exact atStep _ _ _ ih ok stepped

theorem Run.weaken {weaker : S → E → Bool} (le : ∀ s e, guard s e = true → weaker s e = true)
    {es : List E} {s : S} (run : Run step guard init es s) : Run step weaker init es s := by
  induction run with
  | start => exact .start
  | next _ ok stepped ih => exact .next ih (le _ _ ok) stepped

theorem Run.append_exec {es fs : List E} {s t : S} (run : Run step guard init es s)
    (computed : exec step guard s fs = some t) : Run step guard init (es ++ fs) t := by
  induction fs generalizing es s with
  | nil =>
    obtain rfl : s = t := by simpa [exec] using computed
    simpa using run
  | cons e fs ih =>
    rw [exec] at computed
    split at computed
    · simp at computed
    · rename_i mid stepped
      split at computed
      · rename_i ok
        simpa using ih (run.next ok stepped) computed
      · simp at computed

theorem Run.of_exec {es : List E} {s : S} (computed : exec step guard init es = some s) :
    Run step guard init es s := by
  simpa using Run.start.append_exec computed

variable (step guard init) in
/-- A run whose end is computed to meet `p`. -/
theorem Run.exists_of_exec (es : List E) (p : S → Bool)
    (computed : (exec step guard init es).any p = true) :
    ∃ s, Run step guard init es s ∧ p s = true := by
  rw [Option.any_eq_true] at computed
  obtain ⟨s, found, holds⟩ := computed
  exact ⟨s, .of_exec found, holds⟩

end Runs

/-- `P entry older` holds of every entry of a log kept newest first. -/
def Always {A : Type} (P : A → List A → Prop) : List A → Prop
  | [] => True
  | entry :: older => P entry older ∧ Always P older

section Logs

variable {A : Type} {P Q : A → List A → Prop}

@[simp] theorem always_nil : Always P [] := trivial

@[simp] theorem always_cons (entry : A) (older : List A) :
    Always P (entry :: older) ↔ P entry older ∧ Always P older := Iff.rfl

instance Always.decidable [∀ entry older, Decidable (P entry older)] :
    (log : List A) → Decidable (Always P log)
  | [] => inferInstanceAs (Decidable True)
  | _ :: older => @instDecidableAnd _ _ _ (Always.decidable older)

theorem Always.mono (h : ∀ entry older, P entry older → Q entry older) {log : List A}
    (all : Always P log) : Always Q log := by
  induction log with
  | nil => trivial
  | cons entry older ih => exact ⟨h _ _ all.1, ih all.2⟩

theorem Always.and {log : List A} (p : Always P log) (q : Always Q log) :
    Always (fun entry older => P entry older ∧ Q entry older) log := by
  induction log with
  | nil => trivial
  | cons entry older ih => exact ⟨⟨p.1, q.1⟩, ih p.2 q.2⟩

/-- What holds of every entry holds of all that is older, too. -/
theorem Always.behind {log : List A} (all : Always P log) :
    Always (fun entry older => P entry older ∧ Always P older) log := by
  induction log with
  | nil => trivial
  | cons entry older ih => exact ⟨⟨all.1, all.2⟩, ih all.2⟩

theorem Always.at_split {older newer : List A} {entry : A}
    (all : Always P (newer ++ entry :: older)) : P entry older := by
  induction newer with
  | nil => exact all.1
  | cons _ _ ih => exact ih all.2

/-- `P entry older` holds of every entry of the news on top of a log. -/
def AlwaysOver (P : A → List A → Prop) : List A → List A → Prop
  | [], _ => True
  | entry :: news, log => P entry (news ++ log) ∧ AlwaysOver P news log

@[simp] theorem alwaysOver_nil (log : List A) : AlwaysOver P [] log := trivial

@[simp] theorem alwaysOver_cons (entry : A) (news log : List A) :
    AlwaysOver P (entry :: news) log ↔ P entry (news ++ log) ∧ AlwaysOver P news log := Iff.rfl

theorem alwaysOver_append {news first log : List A} :
    AlwaysOver P (news ++ first) log ↔ AlwaysOver P news (first ++ log) ∧ AlwaysOver P first log := by
  induction news with
  | nil => simp
  | cons entry news ih => simp [ih, and_assoc]

theorem AlwaysOver.always {news log : List A} (atop : AlwaysOver P news log) (all : Always P log) :
    Always P (news ++ log) := by
  induction news with
  | nil => exact all
  | cons entry news ih => exact ⟨atop.1, ih atop.2⟩

theorem AlwaysOver.mono (h : ∀ entry older, P entry older → Q entry older) {news log : List A}
    (atop : AlwaysOver P news log) : AlwaysOver Q news log := by
  induction news with
  | nil => trivial
  | cons entry news ih => exact ⟨h _ _ atop.1, ih atop.2⟩

theorem AlwaysOver.and {news log : List A} (p : AlwaysOver P news log) (q : AlwaysOver Q news log) :
    AlwaysOver (fun entry older => P entry older ∧ Q entry older) news log := by
  induction news with
  | nil => trivial
  | cons entry news ih => exact ⟨⟨p.1, q.1⟩, ih p.2 q.2⟩

theorem AlwaysOver.at_mem {news log : List A} {entry : A} (atop : AlwaysOver P news log)
    (among : entry ∈ news) :
    ∃ newer older, news = newer ++ entry :: older ∧ P entry (older ++ log) := by
  induction news with
  | nil => simp at among
  | cons first news ih =>
    rcases List.mem_cons.mp among with rfl | later
    · exact ⟨[], news, rfl, atop.1⟩
    · obtain ⟨newer, older, rfl, holds⟩ := ih atop.2 later
      exact ⟨first :: newer, older, rfl, holds⟩

theorem AlwaysOver.of_forall {news log : List A} (h : ∀ entry ∈ news, ∀ older, P entry older) :
    AlwaysOver P news log := by
  induction news with
  | nil => trivial
  | cons entry news ih =>
    exact ⟨h entry List.mem_cons_self _, ih fun e among => h e (List.mem_cons_of_mem _ among)⟩

end Logs

end TronLedger
