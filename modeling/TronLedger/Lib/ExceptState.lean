import Mathlib.Tactic.Common

/-!
# Programs that write a state and may stop early

Weakest preconditions for `ExceptT ε (StateM σ)`: `wp p post stop s` says that `p`, started
in `s`, ends normally in a state meeting `post` or stops early in one meeting `stop`.
-/

namespace TronLedger

section

variable {ε σ α β : Type}

def wp (p : ExceptT ε (StateM σ) α) (post : α → σ → Prop) (stop : ε → σ → Prop) (s : σ) : Prop :=
  match p.run.run s with
  | (.ok a, t) => post a t
  | (.error e, t) => stop e t

variable {post : α → σ → Prop} {stop : ε → σ → Prop} {s : σ}

@[simp] theorem wp_pure (a : α) :
    wp (pure a : ExceptT ε (StateM σ) α) post stop s ↔ post a s := Iff.rfl

@[simp] theorem wp_throw (e : ε) :
    wp (throw e : ExceptT ε (StateM σ) α) post stop s ↔ stop e s := Iff.rfl

@[simp] theorem wp_modify {post : PUnit → σ → Prop} (f : σ → σ) :
    wp (modify f : ExceptT ε (StateM σ) PUnit) post stop s ↔ post ⟨⟩ (f s) := Iff.rfl

@[simp] theorem wp_get {post : σ → σ → Prop} :
    wp (get : ExceptT ε (StateM σ) σ) post stop s ↔ post s s := Iff.rfl

@[simp] theorem wp_bind (p : ExceptT ε (StateM σ) β) (f : β → ExceptT ε (StateM σ) α) :
    wp (p >>= f) post stop s ↔ wp p (fun b t => wp (f b) post stop t) stop s := by
  unfold wp
  rw [ExceptT.run_bind, StateT.run_bind]
  rcases h : p.run.run s with ⟨r, t⟩
  cases r <;> rfl

@[simp] theorem wp_map (p : ExceptT ε (StateM σ) β) (f : β → α) :
    wp (f <$> p) post stop s ↔ wp p (fun b t => post (f b) t) stop s := by
  rw [map_eq_pure_bind, wp_bind]
  rfl

@[simp] theorem wp_ite (c : Prop) [Decidable c] (p q : ExceptT ε (StateM σ) α) :
    wp (if c then p else q) post stop s ↔ (c → wp p post stop s) ∧ (¬c → wp q post stop s) := by
  by_cases h : c <;> simp [h]

theorem wp_of_forall (p : ExceptT ε (StateM σ) α) (onPost : ∀ a t, post a t) (onStop : ∀ e t, stop e t) :
    wp p post stop s := by
  unfold wp
  split
  · exact onPost _ _
  · exact onStop _ _

theorem wp_mono {p : ExceptT ε (StateM σ) α} {post' : α → σ → Prop} {stop' : ε → σ → Prop}
    (h : wp p post stop s) (onPost : ∀ a t, post a t → post' a t)
    (onStop : ∀ e t, stop e t → stop' e t) : wp p post' stop' s := by
  unfold wp at h ⊢
  split <;> rename_i run <;> rw [run] at h
  · exact onPost _ _ h
  · exact onStop _ _ h

end

end TronLedger
