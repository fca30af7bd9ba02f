import TronLedger.Lib.Run

/-!
# One machine seen as another

A run of a machine is a run of the machine its states are viewed as, when every step is one of
its steps, or leaves the view alone.

* `Run.history` carries an invariant of the state and of the events that led to it.
* `Run.refines` finds the events of the viewed run: only mute ones are left out.
-/

namespace TronLedger

section

variable {S E T F : Type} {step : S → E → Option S} {guard : S → E → Bool} {init : S} {step' : T → F → Option T}

/-- An invariant of what happened so far. -/
theorem Run.history {I : List E → S → Prop} (atStart : I [] init)
    (atStep : ∀ es s e t, I es s → guard s e = true → step s e = some t → I (es ++ [e]) t)
    {es : List E} {s : S} (run : Run step guard init es s) : I es s := by
  induction run with
  | start => exact atStart
  | next _ ok stepped ih => exact atStep _ _ _ _ ih ok stepped

/-- `e` is seen as one step, or as none; an event that is left out is mute. -/
inductive SeenAs (view : S → T) (means : E → Option F) (mute : F → Bool) (step' : T → F → Option T) (s t : S) (e : E) :
    Prop
  | unseen (same : view t = view s) (silent : ∀ f, means e = some f → mute f = true) : SeenAs view means mute step' s t e
  | step (f : F) (meant : means e = some f) (stepped : step' (view s) f = some (view t)) :
      SeenAs view means mute step' s t e

/-- **Runs are seen as runs.** -/
theorem Run.refines {view : S → T} {means : E → Option F} {mute : F → Bool} {es : List E} {s : S}
    (seen : ∀ es s e t, Run step guard init es s → guard s e = true → step s e = some t →
      SeenAs view means mute step' s t e)
    (run : Run step guard init es s) :
    ∃ fs, Run step' anyStep (view init) fs (view s) ∧ fs.Sublist (es.filterMap means) ∧
      (fs.filter fun f => !mute f) = (es.filterMap means).filter fun f => !mute f := by
  induction run with
  | start => exact ⟨[], .start, .slnil, rfl⟩
  | @next es s t e run ok stepped ih =>
    obtain ⟨fs, viewed, sub, kept⟩ := ih
    rw [List.filterMap_append, List.filter_append, ← kept]
    cases seen _ _ _ _ run ok stepped with
    | unseen same silent =>
      refine ⟨fs, same ▸ viewed, sub.trans (List.sublist_append_left _ _), ?_⟩
      cases meant : means e with
      | none => simp [meant]
      | some f => simp [meant, silent f meant]
    | step f meant moved =>
      have single : [e].filterMap means = [f] := by simp [meant]
      rw [single]
      exact ⟨fs ++ [f], viewed.next rfl moved, sub.append (.refl _), List.filter_append ..⟩

end

end TronLedger
