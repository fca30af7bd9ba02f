import TronLedger.UInt256Memory

/-!
# Division in memory

`divmod128` and `divmod256` are one function over the operations of their width, `Limbs`. It runs on
objects: the quotient may go where the dividend stands, as `tostring256` lets it.

* `divmodLoop_done`: the loop leaves what long division leaves, and stops.
* `divmod_exact`: quotient and remainder, for both widths.
-/

namespace TronLedger

open Place

/-- The numbers of one width, with what `divmod` calls on them. -/
structure Limbs (α : Type) where
  width : Nat
  toNat : α → Nat
  one : α
  bits : α → Nat
  gt : α → α → Bool
  gte : α → α → Bool
  copy : ∀ {M : Type}, Place M α → Place M α → M → M
  clear : ∀ {M : Type}, Place M α → M → M
  shiftl : ∀ {M : Type}, Place M α → Nat → Place M α → M → M
  shiftr : ∀ {M : Type}, Place M α → Nat → Place M α → M → M
  minus : ∀ {M : Type}, Place M α → Place M α → Place M α → M → M
  or : ∀ {M : Type}, Place M α → Place M α → Place M α → M → M
  toNat_lt : ∀ n, toNat n < 2 ^ width
  toNat_one : toNat one = 1
  bits_eq : ∀ n, bits n = (toNat n).size
  gt_iff : ∀ a b, gt a b = true ↔ toNat b < toNat a
  gte_iff : ∀ a b, gte a b = true ↔ toNat b ≤ toNat a
  copy_eq : ∀ {M : Type} {target number : Place M α}, number.SameOrApart target →
    ∀ m, copy target number m = target.set (number.get m) m
  clear_eq : ∀ {M : Type} (target : Place M α) (m : M), ∃ zero, toNat zero = 0 ∧ clear target m = target.set zero m
  shiftl_eq : ∀ {M : Type} {number target : Place M α}, number.SameOrApart target → ∀ value m,
    ∃ n, toNat n = toNat (number.get m) * 2 ^ value % 2 ^ width ∧ shiftl number value target m = target.set n m
  shiftr_eq : ∀ {M : Type} {number target : Place M α}, number.SameOrApart target → ∀ m,
    ∃ n, toNat n = toNat (number.get m) / 2 ∧ shiftr number 1 target m = target.set n m
  minus_eq : ∀ {M : Type} {number1 number2 target : Place M α}, number1.SameOrApart target →
    number2.SameOrApart target → ∀ m, toNat (number2.get m) ≤ toNat (number1.get m) →
      ∃ n, toNat n = toNat (number1.get m) - toNat (number2.get m) ∧ minus number1 number2 target m = target.set n m
  or_eq : ∀ {M : Type} {number1 number2 target : Place M α}, number1.SameOrApart target →
    number2.SameOrApart target → ∀ m,
      ∃ n, toNat n = toNat (number1.get m) ||| toNat (number2.get m) ∧ or number1 number2 target m = target.set n m

/-- The locals of `divmod`. -/
structure DivLocals (α : Type) where
  copyd : α
  adder : α
  resDiv : α
  resMod : α
  one : α

namespace DivLocals

variable {M α : Type}

def copydPlace : Place (M × DivLocals α) α where
  get m := m.2.copyd
  set a m := (m.1, { m.2 with copyd := a })
  get_set _ _ := rfl
  set_get _ := rfl
  set_set _ _ _ := rfl

def adderPlace : Place (M × DivLocals α) α where
  get m := m.2.adder
  set a m := (m.1, { m.2 with adder := a })
  get_set _ _ := rfl
  set_get _ := rfl
  set_set _ _ _ := rfl

def resDivPlace : Place (M × DivLocals α) α where
  get m := m.2.resDiv
  set a m := (m.1, { m.2 with resDiv := a })
  get_set _ _ := rfl
  set_get _ := rfl
  set_set _ _ _ := rfl

def resModPlace : Place (M × DivLocals α) α where
  get m := m.2.resMod
  set a m := (m.1, { m.2 with resMod := a })
  get_set _ _ := rfl
  set_get _ := rfl
  set_set _ _ _ := rfl

def onePlace : Place (M × DivLocals α) α where
  get m := m.2.one
  set a m := (m.1, { m.2 with one := a })
  get_set _ _ := rfl
  set_get _ := rfl
  set_set _ _ _ := rfl

variable (m : M) (f : DivLocals α) (a : α)

theorem get_one : onePlace.get (m, f) = f.one := rfl

theorem set_copyd : copydPlace.set a (m, f) = (m, { f with copyd := a }) := rfl

theorem set_adder : adderPlace.set a (m, f) = (m, { f with adder := a }) := rfl

theorem set_resDiv : resDivPlace.set a (m, f) = (m, { f with resDiv := a }) := rfl

theorem set_resMod : resModPlace.set a (m, f) = (m, { f with resMod := a }) := rfl

end DivLocals

namespace Limbs

open DivLocals

section Division

variable {M α : Type} (ops : Limbs α)

/-- Both shifts that end a turn of the loop. -/
def halveBoth (m : M × DivLocals α) : M × DivLocals α :=
  let m := ops.shiftr copydPlace 1 copydPlace m
  ops.shiftr adderPlace 1 adderPlace m

/-- The `while` loop; `none` when it runs for more turns than `fuel` allows. -/
def divmodLoop (r : Place M α) : Nat → M × DivLocals α → Option (M × DivLocals α)
  | 0, _ => none
  | fuel + 1, m =>
    if ops.gte (resModPlace.get m) ((fst.member r).get m) then
      let m :=
        if ops.gte (resModPlace.get m) (copydPlace.get m) then
          let m := ops.minus resModPlace copydPlace resModPlace m
          ops.or resDivPlace adderPlace resDivPlace m
        else m
      divmodLoop r fuel (ops.halveBoth m)
    else some m

/-- `divmod128` and `divmod256`; what the locals hold at first does not matter. -/
def divmod (fuel : Nat) (l r retDiv retMod : Place M α) (locals : DivLocals α) (m : M) : Option M :=
  let diffBits := ops.bits (l.get m) - ops.bits (r.get m)
  let m : M × DivLocals α := (m, { locals with one := ops.one })
  let m := ops.clear resDivPlace m
  let m := ops.copy resModPlace (fst.member l) m
  if ops.gt ((fst.member r).get m) ((fst.member l).get m) then
    let m := ops.copy (fst.member retMod) (fst.member l) m
    some (ops.clear (fst.member retDiv) m).1
  else
    let m := ops.shiftl (fst.member r) diffBits copydPlace m
    let m := ops.shiftl onePlace diffBits adderPlace m
    let m := if ops.gt (copydPlace.get m) (resModPlace.get m) then ops.halveBoth m else m
    match ops.divmodLoop r fuel m with
    | none => none
    | some m =>
      let m := ops.copy (fst.member retDiv) resDivPlace m
      let m := ops.copy (fst.member retMod) resModPlace m
      some m.1

end Division

section Correct

variable {M α : Type} (ops : Limbs α)

theorem halveBoth_eq (m : M) (locals : DivLocals α) :
    ∃ c a, ops.toNat c = ops.toNat locals.copyd / 2 ∧ ops.toNat a = ops.toNat locals.adder / 2 ∧
      ops.halveBoth (m, locals) = (m, { locals with copyd := c, adder := a }) := by
  obtain ⟨c, half, shifted⟩ := ops.shiftr_eq (.refl copydPlace) (m, locals)
  obtain ⟨a, half', shifted'⟩ := ops.shiftr_eq (.refl adderPlace) (m, { locals with copyd := c })
  refine ⟨c, a, half, half', ?_⟩
  unfold halveBoth
  rw [shifted]
  exact shifted'

/-- A turn that subtracts. -/
theorem subtract_eq (m : M) (locals : DivLocals α) (fits : ops.toNat locals.copyd ≤ ops.toNat locals.resMod) :
    ∃ d rest, ops.toNat d = ops.toNat locals.resDiv ||| ops.toNat locals.adder ∧
      ops.toNat rest = ops.toNat locals.resMod - ops.toNat locals.copyd ∧
      ops.or resDivPlace adderPlace resDivPlace (ops.minus resModPlace copydPlace resModPlace (m, locals)) =
        (m, { locals with resDiv := d, resMod := rest }) := by
  have apart : (copydPlace : Place (M × DivLocals α) α).Apart resModPlace := fun _ _ _ => rfl
  have apart' : (adderPlace : Place (M × DivLocals α) α).Apart resDivPlace := fun _ _ _ => rfl
  obtain ⟨rest, left, minus⟩ := ops.minus_eq (.refl resModPlace) (.inr apart) (m, locals) fits
  obtain ⟨d, bits, or⟩ := ops.or_eq (.refl resDivPlace) (.inr apart') (m, { locals with resMod := rest })
  refine ⟨d, rest, bits, left, ?_⟩
  rw [minus]
  exact or

/-- **The loop leaves what long division leaves, and one turn more ends it.** -/
theorem divmodLoop_done (r : Place M α) (fuel : Nat) (m : M) (locals : DivLocals α)
    (done : (LongDivision.loop (ops.toNat (r.get m)) fuel (ops.toNat locals.copyd) (ops.toNat locals.adder)
      (ops.toNat locals.resDiv) (ops.toNat locals.resMod)).2 < ops.toNat (r.get m)) :
    ∃ final, ops.divmodLoop r (fuel + 1) (m, locals) = some (m, final) ∧
      (ops.toNat final.resDiv, ops.toNat final.resMod) =
        LongDivision.loop (ops.toNat (r.get m)) fuel (ops.toNat locals.copyd) (ops.toNat locals.adder)
          (ops.toNat locals.resDiv) (ops.toNat locals.resMod) := by
  induction fuel generalizing locals with
  | zero =>
    have small : ¬ops.gte locals.resMod (r.get m) = true := by
      intro large
      exact absurd ((ops.gte_iff _ _).mp large) (Nat.not_le_of_lt done)
    refine ⟨locals, ?_, rfl⟩
    rw [divmodLoop]
    exact if_neg small
  | succ fuel ih =>
    rw [LongDivision.loop] at done ⊢
    rw [divmodLoop]
    by_cases more : ops.toNat (r.get m) ≤ ops.toNat locals.resMod
    · have turns : ops.gte (resModPlace.get (m, locals)) ((fst.member r).get (m, locals)) = true :=
        (ops.gte_iff _ _).mpr more
      rw [if_pos more] at done ⊢
      rw [if_pos turns]
      by_cases fits : ops.toNat locals.copyd ≤ ops.toNat locals.resMod
      · have subtracts : ops.gte (resModPlace.get (m, locals)) (copydPlace.get (m, locals)) = true :=
          (ops.gte_iff _ _).mpr fits
        obtain ⟨d, rest, bits, left, subtracted⟩ := subtract_eq ops m locals fits
        obtain ⟨c, a, half, half', halved⟩ :=
          halveBoth_eq ops m { locals with resDiv := d, resMod := rest }
        rw [if_pos fits] at done ⊢
        rw [if_pos subtracts]
        dsimp only at half half' ⊢
        rw [← bits, ← left, ← half, ← half'] at done ⊢
        rw [subtracted, halved]
        exact ih _ done
      · have keeps : ¬ops.gte (resModPlace.get (m, locals)) (copydPlace.get (m, locals)) = true := by
          intro large
          exact fits ((ops.gte_iff _ _).mp large)
        obtain ⟨c, a, half, half', halved⟩ := halveBoth_eq ops m locals
        rw [if_neg fits] at done ⊢
        rw [if_neg keeps]
        dsimp only
        rw [← half, ← half'] at done ⊢
        rw [halved]
        exact ih _ done
    · have stops : ¬ops.gte (resModPlace.get (m, locals)) ((fst.member r).get (m, locals)) = true := by
        intro large
        exact more ((ops.gte_iff _ _).mp large)
      rw [if_neg more, if_neg stops]
      exact ⟨locals, rfl, rfl⟩

/-- The divisor, shifted to the bits of the dividend, keeps all its bits. -/
theorem shift_room {l r width : Nat} (small : l < 2 ^ width) (le : r ≤ l) (positive : 0 < r) :
    r * 2 ^ (l.size - r.size) < 2 ^ width ∧ 2 ^ (l.size - r.size) < 2 ^ width := by
  have sizes : r.size ≤ l.size := Nat.size_le_size le
  have most : l.size ≤ width := Nat.size_le.mpr small
  have room : r * 2 ^ (l.size - r.size) < 2 ^ width := by
    calc r * 2 ^ (l.size - r.size) < 2 ^ r.size * 2 ^ (l.size - r.size) :=
          Nat.mul_lt_mul_of_pos_right (Nat.lt_size_self _) (Nat.two_pow_pos _)
      _ = 2 ^ l.size := by rw [← pow_add, Nat.add_sub_cancel' sizes]
      _ ≤ 2 ^ width := Nat.pow_le_pow_right (by decide) most
  refine ⟨room, Nat.lt_of_le_of_lt ?_ room⟩
  exact Nat.le_mul_of_pos_left _ positive

/-- From its usual start the loop divides. -/
theorem divmodLoop_start (r : Place M α) (m : M) (f : DivLocals α) (fuel : Nat) (positive : 0 < ops.toNat (r.get m))
    (le : ops.toNat (r.get m) ≤ ops.toNat f.resMod) (none : ops.toNat f.resDiv = 0)
    (shifted : ops.toNat f.copyd =
      ops.toNat (r.get m) * 2 ^ ((ops.toNat f.resMod).size - (ops.toNat (r.get m)).size))
    (bit : ops.toNat f.adder = 2 ^ ((ops.toNat f.resMod).size - (ops.toNat (r.get m)).size))
    (enough : ops.width + 1 ≤ fuel) :
    ∃ final, ops.divmodLoop r (fuel + 1) (if ops.gt f.copyd f.resMod then ops.halveBoth (m, f) else (m, f)) =
      some (m, final) ∧ ops.toNat final.resDiv = ops.toNat f.resMod / ops.toNat (r.get m) ∧
        ops.toNat final.resMod = ops.toNat f.resMod % ops.toNat (r.get m) := by
  have most : (ops.toNat f.resMod).size ≤ ops.width := Nat.size_le.mpr (ops.toNat_lt _)
  have room : (ops.toNat f.resMod).size + 1 ≤ fuel := by omega
  have start := LongDivision.start_eq positive le room
  have rest := Nat.mod_lt (ops.toNat f.resMod) positive
  rw [← shifted, ← bit] at start
  by_cases large : ops.toNat f.resMod < ops.toNat f.copyd
  · obtain ⟨c, a, half, half', halved⟩ := halveBoth_eq ops m f
    rw [if_pos large, ← half, ← half', ← none] at start
    have done := divmodLoop_done ops r fuel m { f with copyd := c, adder := a } (by rw [start]; exact rest)
    obtain ⟨final, ends, values⟩ := done
    rw [start, Prod.mk.injEq] at values
    rw [if_pos ((ops.gt_iff _ _).mpr large), halved]
    exact ⟨final, ends, values⟩
  · have under : ¬ops.gt f.copyd f.resMod = true := fun above => large ((ops.gt_iff _ _).mp above)
    rw [if_neg large, ← none] at start
    have done := divmodLoop_done ops r fuel m f (by rw [start]; exact rest)
    obtain ⟨final, ends, values⟩ := done
    rw [start, Prod.mk.injEq] at values
    rw [if_neg under]
    exact ⟨final, ends, values⟩

/-- **Quotient and remainder, in the objects they are asked for.** The dividend may be one of them. -/
theorem divmod_eq (l r retDiv retMod : Place M α) (locals : DivLocals α) (m : M) (results : retDiv.Apart retMod)
    (dividend : l.SameOrApart retMod) (positive : 0 < ops.toNat (r.get m)) {fuel : Nat}
    (enough : ops.width + 2 ≤ fuel) :
    ∃ q rest, ops.toNat q = ops.toNat (l.get m) / ops.toNat (r.get m) ∧
      ops.toNat rest = ops.toNat (l.get m) % ops.toNat (r.get m) ∧
      ops.divmod fuel l r retDiv retMod locals m = some (retMod.set rest (retDiv.set q m)) := by
  generalize start : { locals with one := ops.one } = opened
  have one : opened.one = ops.one := by rw [← start]
  have fromL : (fst.member l).SameOrApart (resModPlace : Place (M × DivLocals α) α) := .inr fun _ _ _ => rfl
  obtain ⟨zero, zero_eq, cleared⟩ := ops.clear_eq resDivPlace (m, opened)
  rw [set_resDiv] at cleared
  have copied := ops.copy_eq fromL (m, { opened with resDiv := zero })
  rw [set_resMod, get_fst] at copied
  by_cases small : ops.toNat (l.get m) < ops.toNat (r.get m)
  · have above : ops.gt (r.get m) (l.get m) = true := (ops.gt_iff _ _).mpr small
    have whole : (fst.member l).SameOrApart (fst.member retMod : Place (M × DivLocals α) α) :=
      dividend.members fst
    have kept := ops.copy_eq whole (m, { opened with resDiv := zero, resMod := l.get m })
    rw [set_fst, get_fst] at kept
    obtain ⟨none, none_eq, emptied⟩ := ops.clear_eq (fst.member retDiv)
      (retMod.set (l.get m) m, { opened with resDiv := zero, resMod := l.get m })
    rw [set_fst] at emptied
    refine ⟨none, l.get m, by rw [none_eq, Nat.div_eq_of_lt small], (Nat.mod_eq_of_lt small).symm, ?_⟩
    unfold divmod
    dsimp only
    rw [start, cleared, copied, get_fst, get_fst, if_pos above, kept, emptied, results]
  have le : ops.toNat (r.get m) ≤ ops.toNat (l.get m) := Nat.le_of_not_lt small
  have under : ¬ops.gt (r.get m) (l.get m) = true := fun above => small ((ops.gt_iff _ _).mp above)
  obtain ⟨room, room'⟩ := shift_room (ops.toNat_lt (l.get m)) le positive
  have fromR : (fst.member r).SameOrApart (copydPlace : Place (M × DivLocals α) α) := .inr fun _ _ _ => rfl
  have fromOne : onePlace.SameOrApart (adderPlace : Place (M × DivLocals α) α) := .inr fun _ _ _ => rfl
  obtain ⟨c, c_eq, shifted⟩ := ops.shiftl_eq fromR ((ops.toNat (l.get m)).size - (ops.toNat (r.get m)).size)
    (m, { opened with resDiv := zero, resMod := l.get m })
  obtain ⟨a, a_eq, shifted'⟩ := ops.shiftl_eq fromOne ((ops.toNat (l.get m)).size - (ops.toNat (r.get m)).size)
    (m, { opened with resDiv := zero, resMod := l.get m, copyd := c })
  rw [set_copyd] at shifted
  rw [set_adder] at shifted'
  rw [get_fst, Nat.mod_eq_of_lt room] at c_eq
  rw [get_one, one, ops.toNat_one, Nat.one_mul, Nat.mod_eq_of_lt room'] at a_eq
  generalize ready : ({ opened with resDiv := zero, resMod := l.get m, copyd := c, adder := a } : DivLocals α) = f
  have copyd : f.copyd = c := by rw [← ready]
  have dividend' : f.resMod = l.get m := by rw [← ready]
  obtain ⟨less, rfl⟩ : ∃ less, fuel = less + 1 := ⟨fuel - 1, by omega⟩
  obtain ⟨final, ends, quotient, rest⟩ := divmodLoop_start ops r m f less positive
    (by rw [dividend']; exact le) (by rw [← ready]; exact zero_eq) (by rw [copyd, dividend']; exact c_eq)
    (by rw [dividend', ← ready]; exact a_eq) (by omega)
  rw [dividend'] at quotient rest
  have toDiv : resDivPlace.SameOrApart (fst.member retDiv : Place (M × DivLocals α) α) := .inr fun _ _ _ => rfl
  have toMod : resModPlace.SameOrApart (fst.member retMod : Place (M × DivLocals α) α) := .inr fun _ _ _ => rfl
  have stored := ops.copy_eq toDiv (m, final)
  have stored' := ops.copy_eq toMod (retDiv.set final.resDiv m, final)
  rw [set_fst] at stored stored'
  refine ⟨final.resDiv, final.resMod, quotient, rest, ?_⟩
  unfold divmod
  dsimp only
  rw [start, cleared, copied, get_fst, get_fst, if_neg under, ops.bits_eq, ops.bits_eq, shifted, shifted', ready]
  have begins : (if ops.gt (copydPlace.get (m, f)) (resModPlace.get (m, f)) = true then ops.halveBoth (m, f)
      else (m, f)) = if ops.gt f.copyd f.resMod = true then ops.halveBoth (m, f) else (m, f) := rfl
  rw [begins, ends]
  dsimp only
  rw [stored]
  exact congrArg (fun m => some m.1) stored'

end Correct

end Limbs

section Widths

theorem UInt128.gte_iff (a b : UInt128) : a.gte b = true ↔ b.toNat ≤ a.toNat := by
  unfold gte
  rw [Bool.or_eq_true, gt_iff, decide_eq_true_eq, ← toNat_inj]
  omega

theorem UInt128.toNat_minus_le {a b : UInt128} (le : b.toNat ≤ a.toNat) :
    (a.minus b).toNat = a.toNat - b.toNat := by
  have bound := a.toNat_lt
  rw [toNat_minus]
  omega

def limbs128 : Limbs UInt128 where
  width := 128
  toNat := UInt128.toNat
  one := .one
  bits := UInt128.bits
  gt := UInt128.gt
  gte := UInt128.gte
  copy := copy128
  clear := clear128
  shiftl := shiftl128
  shiftr := shiftr128
  minus := minus128
  or := or128
  toNat_lt := UInt128.toNat_lt
  toNat_one := rfl
  bits_eq := UInt128.bits_eq
  gt_iff := UInt128.gt_iff
  gte_iff := UInt128.gte_iff
  copy_eq := copy128_eq
  clear_eq target m := ⟨.zero, rfl, clear128_eq target m⟩
  shiftl_eq objects value m := ⟨_, UInt128.toNat_shiftl _ _, shiftl128_eq objects value m⟩
  shiftr_eq objects m := ⟨_, UInt128.toNat_shiftr _ 1, shiftr128_eq objects (fun wide => absurd wide (by decide)) m⟩
  minus_eq first second m le := ⟨_, UInt128.toNat_minus_le le, minus128_eq first second m⟩
  or_eq first second m := ⟨_, UInt128.toNat_or _ _, or128_eq first second m⟩

def limbs256 : Limbs UInt256 where
  width := 256
  toNat := UInt256.toNat
  one := .one
  bits := UInt256.bits
  gt := UInt256.gt
  gte := UInt256.gte
  copy := copy256
  clear := clear256
  shiftl := shiftl256
  shiftr := shiftr256
  minus := minus256
  or := or256
  toNat_lt := UInt256.toNat_lt
  toNat_one := rfl
  bits_eq := UInt256.bits_eq
  gt_iff := UInt256.gt_iff
  gte_iff := UInt256.gte_iff
  copy_eq := copy256_eq
  clear_eq target m := ⟨.zero, rfl, clear256_eq target m⟩
  shiftl_eq objects value m := ⟨_, UInt256.toNat_shiftl _ _, shiftl256_eq objects value m⟩
  shiftr_eq objects m := ⟨_, UInt256.toNat_shiftr _ 1, shiftr256_eq objects 1 m⟩
  minus_eq first second m le := ⟨_, UInt256.toNat_minus le, minus256_eq first second m⟩
  or_eq first second m := ⟨_, UInt256.toNat_or _ _, or256_eq first second m⟩

variable {M : Type}

def divmod128 (fuel : Nat) (l r retDiv retMod : Place M UInt128) (locals : DivLocals UInt128) (m : M) : Option M :=
  limbs128.divmod fuel l r retDiv retMod locals m

def divmod256 (fuel : Nat) (l r retDiv retMod : Place M UInt256) (locals : DivLocals UInt256) (m : M) : Option M :=
  limbs256.divmod fuel l r retDiv retMod locals m

/-- **Both divisions end, with the quotient and the remainder, and change nothing else.** -/
theorem divmod_exact :
    (∀ (M : Type) (l r retDiv retMod : Place M UInt256) (locals : DivLocals UInt256) (m : M) (fuel : Nat),
      retDiv.Apart retMod → l.SameOrApart retMod → (r.get m).toNat ≠ 0 → 258 ≤ fuel → ∃ q rest,
        divmod256 fuel l r retDiv retMod locals m = some (retMod.set rest (retDiv.set q m)) ∧
        (l.get m).toNat = q.toNat * (r.get m).toNat + rest.toNat ∧ rest.toNat < (r.get m).toNat) ∧
    ∀ (M : Type) (l r retDiv retMod : Place M UInt128) (locals : DivLocals UInt128) (m : M) (fuel : Nat),
      retDiv.Apart retMod → l.SameOrApart retMod → (r.get m).toNat ≠ 0 → 130 ≤ fuel → ∃ q rest,
        divmod128 fuel l r retDiv retMod locals m = some (retMod.set rest (retDiv.set q m)) ∧
        (l.get m).toNat = q.toNat * (r.get m).toNat + rest.toNat ∧ rest.toNat < (r.get m).toNat := by
  have quotient (n d : Nat) : n = n / d * d + n % d := by
    rw [Nat.mul_comm]
    exact (Nat.div_add_mod n d).symm
  constructor
  · intro M l r retDiv retMod locals m fuel results dividend nonzero enough
    have positive : 0 < limbs256.toNat (r.get m) := Nat.pos_of_ne_zero nonzero
    obtain ⟨q, rest, q_eq, rest_eq, ends⟩ :=
      limbs256.divmod_eq l r retDiv retMod locals m results dividend positive enough
    refine ⟨q, rest, ends, ?_, ?_⟩
    · exact (quotient _ _).trans (congrArg₂ (fun a b => a * (r.get m).toNat + b) q_eq.symm rest_eq.symm)
    · exact rest_eq.trans_lt (Nat.mod_lt _ positive)
  · intro M l r retDiv retMod locals m fuel results dividend nonzero enough
    have positive : 0 < limbs128.toNat (r.get m) := Nat.pos_of_ne_zero nonzero
    obtain ⟨q, rest, q_eq, rest_eq, ends⟩ :=
      limbs128.divmod_eq l r retDiv retMod locals m results dividend positive enough
    refine ⟨q, rest, ends, ?_, ?_⟩
    · exact (quotient _ _).trans (congrArg₂ (fun a b => a * (r.get m).toNat + b) q_eq.symm rest_eq.symm)
    · exact rest_eq.trans_lt (Nat.mod_lt _ positive)

/-- Dividend, divisor and remainder; the quotient goes where the dividend stands. -/
def hundredBySeven : UInt256 × UInt256 × UInt256 := (⟨.zero, ⟨0, 100⟩⟩, ⟨.zero, ⟨0, 7⟩⟩, .zero)

def hundredBySeven128 : UInt128 × UInt128 × UInt128 := (⟨0, 100⟩, ⟨0, 7⟩, .zero)

theorem divmod_exact_in_place :
    (∃ q rest, divmod256 258 fst (snd.member fst) fst (snd.member snd) ⟨.zero, .zero, .zero, .zero, .zero⟩ hundredBySeven =
        some ((snd.member snd).set rest (fst.set q hundredBySeven)) ∧
      hundredBySeven.1.toNat = q.toNat * hundredBySeven.2.1.toNat + rest.toNat ∧
      rest.toNat < hundredBySeven.2.1.toNat) ∧
    ∃ q rest, divmod128 130 fst (snd.member fst) fst (snd.member snd) ⟨.zero, .zero, .zero, .zero, .zero⟩ hundredBySeven128 =
        some ((snd.member snd).set rest (fst.set q hundredBySeven128)) ∧
      hundredBySeven128.1.toNat = q.toNat * hundredBySeven128.2.1.toNat + rest.toNat ∧
      rest.toNat < hundredBySeven128.2.1.toNat :=
  ⟨divmod_exact.1 _ _ _ _ _ _ _ _ (fst_apart_snd.member_right _) (.inr (fst_apart_snd.member_right _))
      (by decide) (by decide),
    divmod_exact.2 _ _ _ _ _ _ _ _ (fst_apart_snd.member_right _) (.inr (fst_apart_snd.member_right _))
      (by decide) (by decide)⟩

end Widths

end TronLedger
