import Mathlib.Tactic.Common

/-!
# Objects in memory

A function that gets two pointers may get the same object twice. `Place M α` is an object of type
`α` in a memory `M`, read and overwritten whole; a member of it is a place of its own.

* `Apart`: what is stored in one object is not seen in the other.
* `SameOrApart`: what C allows of two pointers to objects of one type.
-/

namespace TronLedger

structure Place (M α : Type) where
  get : M → α
  set : α → M → M
  get_set : ∀ a m, get (set a m) = a
  set_get : ∀ m, set (get m) m = m
  set_set : ∀ a b m, set b (set a m) = set b m

namespace Place

attribute [simp] get_set set_get set_set

variable {M α β γ : Type}

/-- The memory itself, where it is one object. -/
def whole : Place α α where
  get m := m
  set a _ := a
  get_set _ _ := rfl
  set_get _ := rfl
  set_set _ _ _ := rfl

/-- A member of an object. -/
def member (p : Place M α) (x : Place α β) : Place M β where
  get m := x.get (p.get m)
  set b m := p.set (x.set b (p.get m)) m
  get_set b m := by simp
  set_get m := by simp
  set_set b c m := by simp

def fst : Place (α × β) α where
  get m := m.1
  set a m := (a, m.2)
  get_set _ _ := rfl
  set_get _ := rfl
  set_set _ _ _ := rfl

def snd : Place (α × β) β where
  get m := m.2
  set b m := (m.1, b)
  get_set _ _ := rfl
  set_get _ := rfl
  set_set _ _ _ := rfl

/-- Stores to the two objects do not meet. -/
def Apart (p : Place M α) (q : Place M β) : Prop :=
  ∀ a b m, p.set a (q.set b m) = q.set b (p.set a m)

/-- One object, or two that share nothing. -/
def SameOrApart (p q : Place M α) : Prop := p = q ∨ p.Apart q

theorem get_fst (p : Place M α) (m : M) (b : β) : (fst.member p).get (m, b) = p.get m := rfl

theorem set_fst (p : Place M α) (a : α) (m : M) (b : β) : (fst.member p).set a (m, b) = (p.set a m, b) := rfl

theorem fst_apart_snd : (fst : Place (α × β) α).Apart (snd : Place (α × β) β) :=
  fun _ _ _ => rfl

section Apart

variable {p : Place M α} {q : Place M β}

theorem Apart.symm (apart : p.Apart q) : q.Apart p :=
  fun b a m => (apart a b m).symm

/-- An object keeps its value where another one is overwritten. -/
theorem Apart.get_set (apart : p.Apart q) (b : β) (m : M) : p.get (q.set b m) = p.get m := by
  have back := apart (p.get m) b m
  rw [p.set_get] at back
  rw [← back, p.get_set]

theorem Apart.member_right (apart : p.Apart q) (x : Place β γ) : p.Apart (q.member x) := by
  intro a c m
  have kept := apart.symm.get_set a m
  simp only [member, kept]
  exact apart a _ m

theorem Apart.member_left (apart : p.Apart q) (x : Place α γ) : (p.member x).Apart q :=
  (apart.symm.member_right x).symm

/-- Members of one object that do not meet. -/
theorem Apart.members {x : Place α β} {y : Place α γ} (apart : x.Apart y) (p : Place M α) :
    (p.member x).Apart (p.member y) := by
  intro b c m
  simp only [member, p.get_set, p.set_set]
  rw [apart b c]

end Apart

section Aliases

variable {p q : Place M α}

theorem SameOrApart.refl (p : Place M α) : p.SameOrApart p := .inl rfl

/-- Different members never meet, whether the objects are the same or not. -/
theorem SameOrApart.apart {x : Place α β} {y : Place α γ} (objects : p.SameOrApart q)
    (apart : x.Apart y) : (p.member x).Apart (q.member y) := by
  rcases objects with rfl | other
  · exact apart.members p
  · exact (other.member_right y).member_left x

/-- The same member of both is again one object, or two. -/
theorem SameOrApart.same (objects : p.SameOrApart q) (x : Place α β) :
    (p.member x).SameOrApart (q.member x) := by
  rcases objects with rfl | other
  · exact .inl rfl
  · exact .inr ((other.member_right x).member_left x)

/-- And so are members of one object. -/
theorem SameOrApart.members {x y : Place α β} (objects : x.SameOrApart y) (p : Place M α) :
    (p.member x).SameOrApart (p.member y) := by
  rcases objects with rfl | other
  · exact .inl rfl
  · exact .inr (other.members p)

end Aliases

end Place

end TronLedger
