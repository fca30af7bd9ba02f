import TronLedger.Lib.Run
import Mathlib.Data.List.Forall2

/-!
# Two runs side by side

One machine, started twice. Where an event leads from alike states to alike states, and what is
logged on the way is the same entry by entry, a whole run is matched.
-/

namespace TronLedger

section

variable {S E A : Type} {step : S → E → Option S} {log : S → List A} {same : A → A → Prop} {s t s' t' : S}

/-- What is logged from `s` to `s'` is what is logged from `t` to `t'`. -/
def LoggedAlike (log : S → List A) (same : A → A → Prop) (s t s' t' : S) : Prop :=
  ∃ news news', log s' = news ++ log s ∧ log t' = news' ++ log t ∧ List.Forall₂ same news news'

theorem LoggedAlike.refl (s t : S) : LoggedAlike log same s t s t := ⟨[], [], rfl, rfl, .nil⟩

theorem LoggedAlike.single {a b : A} (entry : log s' = a :: log s) (entry' : log t' = b :: log t) (ab : same a b) :
    LoggedAlike log same s t s' t' := ⟨[a], [b], entry, entry', .cons ab .nil⟩

theorem LoggedAlike.trans {s'' t'' : S} (first : LoggedAlike log same s t s' t')
    (second : LoggedAlike log same s' t' s'' t'') : LoggedAlike log same s t s'' t'' := by
  obtain ⟨news, news', logged, logged', alike⟩ := first
  obtain ⟨later, later', logged₂, logged₂', alike₂⟩ := second
  refine ⟨later ++ news, later' ++ news', ?_, ?_, List.rel_append alike₂ alike⟩
  · rw [logged₂, logged, List.append_assoc]
  · rw [logged₂', logged', List.append_assoc]

/-- **Alike states have alike runs.** -/
theorem Run.lockstep {alike : S → S → Prop} {guard : S → E → Bool} (init : S) (other : S)
    (keeps : ∀ s t e s', alike s t → guard s e = true → step s e = some s' →
      ∃ t', step t e = some t' ∧ alike s' t' ∧ LoggedAlike log same s t s' t')
    (start : alike init other) {es : List E} {s : S} (run : Run step guard init es s) :
    ∃ t, Run step anyStep other es t ∧ alike s t ∧ LoggedAlike log same init other s t := by
  induction run with
  | start => exact ⟨other, .start, start, .refl init other⟩
  | next _ ok stepped ih =>
    obtain ⟨t, run', ends, logged⟩ := ih
    obtain ⟨t', stepped', ends', logged'⟩ := keeps _ _ _ _ ends ok stepped
    exact ⟨t', run'.next rfl stepped', ends', logged.trans logged'⟩

end

end TronLedger
