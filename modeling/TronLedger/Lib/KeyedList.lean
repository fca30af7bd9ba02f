import Mathlib.Data.List.Nodup

/-!
# Lists with a key

A list whose entries are told apart by a key, grown at its end and changed in place.

* `Keyed.push`: an entry with a new key keeps the keys apart.
* `Keyed.modifyFirst_iff`: when the change of a key keeps them apart.
* `Keyed.modifyFirst_eq_map`: then a change of the first entry with a key is one of every such entry.
-/

namespace TronLedger

variable {α κ : Type}

/-- The first entry that meets `p` is changed, and the loop left. -/
def modifyFirst (p : α → Bool) (f : α → α) : List α → List α
  | [] => []
  | a :: rest => if p a then f a :: rest else a :: modifyFirst p f rest

/-- No two entries have the same key. -/
def Keyed (key : α → κ) (l : List α) : Prop := (l.map key).Nodup

instance [DecidableEq κ] (key : α → κ) (l : List α) : Decidable (Keyed key l) :=
  inferInstanceAs (Decidable (l.map key).Nodup)

section Modify

variable {p : α → Bool} {f : α → α} {l : List α}

/-- What the change keeps, every entry keeps. -/
theorem modifyFirst_forall {P : α → Prop} (held : ∀ a ∈ l, P a) (keeps : ∀ a, P a → P (f a)) :
    ∀ a ∈ modifyFirst p f l, P a := by
  induction l with
  | nil => simp [modifyFirst]
  | cons a rest ih =>
    rw [List.forall_mem_cons] at held
    rw [modifyFirst]
    split
    · exact List.forall_mem_cons.mpr ⟨keeps a held.1, held.2⟩
    · exact List.forall_mem_cons.mpr ⟨held.1, ih held.2⟩

theorem modifyFirst_none (none : ∀ a ∈ l, p a = false) : modifyFirst p f l = l := by
  induction l with
  | nil => rfl
  | cons a rest ih =>
    rw [modifyFirst, if_neg (by simp [none a]), ih fun b among => none b (List.mem_cons_of_mem _ among)]

/-- The entry that is changed. -/
theorem modifyFirst_split (some : ∃ a ∈ l, p a = true) :
    ∃ front a back, l = front ++ a :: back ∧ p a = true ∧ modifyFirst p f l = front ++ f a :: back := by
  induction l with
  | nil =>
    obtain ⟨_, among, -⟩ := some
    simp at among
  | cons b rest ih =>
    by_cases first : p b = true
    · exact ⟨[], b, rest, rfl, first, by rw [modifyFirst, if_pos first]; rfl⟩
    · obtain ⟨a, among, holds⟩ := some
      have later : a ∈ rest := by
        rcases List.mem_cons.mp among with rfl | later
        · exact absurd holds first
        · exact later
      obtain ⟨front, c, back, rfl, found, changed⟩ := ih ⟨a, later, holds⟩
      refine ⟨b :: front, c, back, rfl, found, ?_⟩
      rw [modifyFirst, if_neg first, changed]
      rfl

theorem modifyFirst_map {key : α → κ} (keeps : ∀ a, key (f a) = key a) :
    (modifyFirst p f l).map key = l.map key := by
  induction l with
  | nil => rfl
  | cons a rest ih =>
    rw [modifyFirst]
    split
    · rw [List.map_cons, List.map_cons, keeps]
    · rw [List.map_cons, List.map_cons, ih]

end Modify

section Keys

variable {key : α → κ} {l : List α}

theorem Keyed.push {a : α} (keyed : Keyed key l) (fresh : key a ∉ l.map key) : Keyed key (l ++ [a]) := by
  rw [Keyed, List.map_append, List.map_singleton]
  exact List.nodup_append.mpr ⟨keyed, List.nodup_singleton _, fun b among c single => by
    rw [List.mem_singleton.mp single]
    rintro rfl
    exact fresh among⟩

/-- An entry whose key is there already. -/
theorem not_keyed_push {a : α} (held : key a ∈ l.map key) : ¬Keyed key (l ++ [a]) := by
  rw [Keyed, List.map_append, List.map_singleton]
  intro keyed
  exact (List.nodup_append.mp keyed).2.2 _ held _ (List.mem_singleton.mpr rfl) rfl

theorem Keyed.modifyFirst {p : α → Bool} {f : α → α} (keyed : Keyed key l) (keeps : ∀ a, key (f a) = key a) :
    Keyed key (modifyFirst p f l) := by
  rw [Keyed, modifyFirst_map keeps]
  exact keyed

theorem Keyed.map {f : α → α} (keyed : Keyed key l) (keeps : ∀ a, key (f a) = key a) : Keyed key (l.map f) := by
  rw [Keyed, List.map_map]
  have same : key ∘ f = key := funext keeps
  rw [same]
  exact keyed

variable [DecidableEq κ] {k k' : κ} {f : α → α}

/-- **The key `k` can be changed to `k'` where it is not there, or `k'` is not there besides.** -/
theorem Keyed.modifyFirst_iff (keyed : Keyed key l) (changes : ∀ a, key a = k → key (f a) = k') :
    Keyed key (TronLedger.modifyFirst (key · = k) f l) ↔ (k ∈ l.map key → k' = k ∨ k' ∉ l.map key) := by
  by_cases among : k ∈ l.map key
  · obtain ⟨entry, inside, holds⟩ := List.mem_map.mp among
    have some : ∃ a ∈ l, decide (key a = k) = true := ⟨entry, inside, decide_eq_true holds⟩
    obtain ⟨front, a, back, rfl, found, changed⟩ := modifyFirst_split (f := f) some
    have old : key a = k := of_decide_eq_true found
    have keys : (front ++ a :: back).map key = front.map key ++ k :: back.map key := by
      rw [List.map_append, List.map_cons, old]
    have keys' : (front ++ f a :: back).map key = front.map key ++ k' :: back.map key := by
      rw [List.map_append, List.map_cons, changes a old]
    rw [Keyed, keys, List.nodup_middle, List.nodup_cons] at keyed
    rw [changed, Keyed, keys', keys, List.nodup_middle, List.nodup_cons]
    have apart : k' = k ∨ k' ∉ front.map key ++ k :: back.map key ↔ k' ∉ front.map key ++ back.map key := by
      by_cases same : k' = k
      · subst same
        exact ⟨fun _ => keyed.1, fun _ => .inl rfl⟩
      · simp [same]
    rw [apart]
    exact ⟨fun h _ => h.1, fun h => ⟨h (by simp), keyed.2⟩⟩
  · have none : ∀ a ∈ l, decide (key a = k) = false :=
      fun a inside => decide_eq_false fun same => among (List.mem_map.mpr ⟨a, inside, same⟩)
    rw [modifyFirst_none none]
    exact ⟨fun _ inside => absurd inside among, fun _ => keyed⟩

/-- The change of the first entry with a key is that of every entry with it. -/
theorem Keyed.modifyFirst_eq_map (keyed : Keyed key l) :
    TronLedger.modifyFirst (key · = k) f l = l.map fun a => if key a = k then f a else a := by
  induction l with
  | nil => rfl
  | cons a rest ih =>
    have parts := List.nodup_cons.mp (by simpa [Keyed] using keyed : (key a :: rest.map key).Nodup)
    rw [TronLedger.modifyFirst, List.map_cons]
    by_cases first : key a = k
    · rw [if_pos (decide_eq_true first), if_pos first]
      congr 1
      symm
      refine (List.map_congr_left ?_).trans (List.map_id rest)
      intro b among
      have other : key b ≠ k := fun same => parts.1 (List.mem_map.mpr ⟨b, among, same.trans first.symm⟩)
      rw [if_neg other]
      rfl
    · rw [if_neg (by simp [first]), if_neg first, ih parts.2]

end Keys

end TronLedger
