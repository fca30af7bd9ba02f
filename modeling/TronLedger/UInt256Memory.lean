import TronLedger.UInt256Value
import TronLedger.Lib.Place

/-!
# Limbs in memory

The functions of `uint256.c` as they run on objects: the halves of a target are written one after
the other, and may be those of an operand. What goes into a local of a function that is copied out
at its end is a value.

* `shiftl128_eq` and its companions: every function leaves the value of the same name in its target,
  and nothing else changes.
* `shiftr128_whole`: one shift in place reads a half it has overwritten.
* `shifts_exact_iff` says which shifts are multiplications and divisions.
-/

namespace TronLedger

open Place

variable {M : Type}

section Halves

def upperHalf128 : Place UInt128 UInt64 where
  get n := n.upper
  set a n := { n with upper := a }
  get_set _ _ := rfl
  set_get _ := rfl
  set_set _ _ _ := rfl

def lowerHalf128 : Place UInt128 UInt64 where
  get n := n.lower
  set a n := { n with lower := a }
  get_set _ _ := rfl
  set_get _ := rfl
  set_set _ _ _ := rfl

def upperHalf256 : Place UInt256 UInt128 where
  get n := n.upper
  set a n := { n with upper := a }
  get_set _ _ := rfl
  set_get _ := rfl
  set_set _ _ _ := rfl

def lowerHalf256 : Place UInt256 UInt128 where
  get n := n.lower
  set a n := { n with lower := a }
  get_set _ _ := rfl
  set_get _ := rfl
  set_set _ _ _ := rfl

/-- `UPPER_P` and `LOWER_P` of a `uint128_t *`. -/
def upper128 (x : Place M UInt128) : Place M UInt64 := x.member upperHalf128
def lower128 (x : Place M UInt128) : Place M UInt64 := x.member lowerHalf128

/-- `UPPER_P` and `LOWER_P` of a `uint256_t *`. -/
def upper256 (x : Place M UInt256) : Place M UInt128 := x.member upperHalf256
def lower256 (x : Place M UInt256) : Place M UInt128 := x.member lowerHalf256

variable {number target : Place M UInt128} {m : M}

theorem halves128_apart : lowerHalf128.Apart upperHalf128 := fun _ _ _ => rfl

theorem halves256_apart : lowerHalf256.Apart upperHalf256 := fun _ _ _ => rfl

theorem get_upper128 (x : Place M UInt128) (m : M) : (upper128 x).get m = (x.get m).upper := rfl

theorem get_lower128 (x : Place M UInt128) (m : M) : (lower128 x).get m = (x.get m).lower := rfl

theorem get_upper256 (x : Place M UInt256) (m : M) : (upper256 x).get m = (x.get m).upper := rfl

theorem get_lower256 (x : Place M UInt256) (m : M) : (lower256 x).get m = (x.get m).lower := rfl

/-- Both halves written are the object. -/
theorem set_lower_upper128 (x : Place M UInt128) (hi lo : UInt64) (m : M) :
    (lower128 x).set lo ((upper128 x).set hi m) = x.set ⟨hi, lo⟩ m := by
  simp [lower128, upper128, member, lowerHalf128, upperHalf128]

theorem set_upper_lower128 (x : Place M UInt128) (hi lo : UInt64) (m : M) :
    (upper128 x).set hi ((lower128 x).set lo m) = x.set ⟨hi, lo⟩ m := by
  simp [lower128, upper128, member, lowerHalf128, upperHalf128]

theorem set_lower_upper256 (x : Place M UInt256) (hi lo : UInt128) (m : M) :
    (lower256 x).set lo ((upper256 x).set hi m) = x.set ⟨hi, lo⟩ m := by
  simp [lower256, upper256, member, lowerHalf256, upperHalf256]

theorem set_upper_lower256 (x : Place M UInt256) (hi lo : UInt128) (m : M) :
    (upper256 x).set hi ((lower256 x).set lo m) = x.set ⟨hi, lo⟩ m := by
  simp [lower256, upper256, member, lowerHalf256, upperHalf256]

end Halves

section Functions

def copy128 (target number : Place M UInt128) (m : M) : M :=
  let m := (upper128 target).set ((upper128 number).get m) m
  (lower128 target).set ((lower128 number).get m) m

def copy256 (target number : Place M UInt256) (m : M) : M :=
  let m := copy128 (upper256 target) (upper256 number) m
  copy128 (lower256 target) (lower256 number) m

def clear128 (target : Place M UInt128) (m : M) : M :=
  let m := (upper128 target).set 0 m
  (lower128 target).set 0 m

def clear256 (target : Place M UInt256) (m : M) : M :=
  let m := clear128 (upper256 target) m
  clear128 (lower256 target) m

def shiftl128 (number : Place M UInt128) (value : Nat) (target : Place M UInt128) (m : M) : M :=
  if 128 ≤ value then clear128 target m
  else if value = 64 then
    let m := (upper128 target).set ((lower128 number).get m) m
    (lower128 target).set 0 m
  else if value = 0 then copy128 target number m
  else if value < 64 then
    let m := (upper128 target).set (((upper128 number).get m <<< UInt64.ofNat value) +
      ((lower128 number).get m >>> UInt64.ofNat (64 - value))) m
    (lower128 target).set ((lower128 number).get m <<< UInt64.ofNat value) m
  else
    let m := (upper128 target).set ((lower128 number).get m <<< UInt64.ofNat (value - 64)) m
    (lower128 target).set 0 m

def shiftr128 (number : Place M UInt128) (value : Nat) (target : Place M UInt128) (m : M) : M :=
  if 128 ≤ value then clear128 target m
  else if value = 64 then
    let m := (upper128 target).set 0 m
    (lower128 target).set ((upper128 number).get m) m
  else if value = 0 then copy128 target number m
  else if value < 64 then
    let result : UInt128 := ⟨(upper128 number).get m >>> UInt64.ofNat value,
      ((upper128 number).get m <<< UInt64.ofNat (64 - value)) + ((lower128 number).get m >>> UInt64.ofNat value)⟩
    target.set result m
  else
    let m := (lower128 target).set ((upper128 number).get m >>> UInt64.ofNat (value - 64)) m
    (upper128 target).set 0 m

def shiftl256 (number : Place M UInt256) (value : Nat) (target : Place M UInt256) (m : M) : M :=
  if 256 ≤ value then clear256 target m
  else if value = 128 then
    let m := copy128 (upper256 target) (lower256 number) m
    clear128 (lower256 target) m
  else if value = 0 then copy256 target number m
  else if value < 128 then
    let tmp1 := ((upper256 number).get m).shiftl value
    let tmp2 := ((lower256 number).get m).shiftr (128 - value)
    let result : UInt256 := ⟨tmp1.add tmp2, ((lower256 number).get m).shiftl value⟩
    target.set result m
  else
    let m := shiftl128 (lower256 number) (value - 128) (upper256 target) m
    clear128 (lower256 target) m

def shiftr256 (number : Place M UInt256) (value : Nat) (target : Place M UInt256) (m : M) : M :=
  if 256 ≤ value then clear256 target m
  else if value = 128 then
    let m := copy128 (lower256 target) (upper256 number) m
    clear128 (upper256 target) m
  else if value = 0 then copy256 target number m
  else if value < 128 then
    let tmp1 := ((lower256 number).get m).shiftr value
    let tmp2 := ((upper256 number).get m).shiftl (128 - value)
    let result : UInt256 := ⟨((upper256 number).get m).shiftr value, tmp1.add tmp2⟩
    target.set result m
  else
    let m := shiftr128 (upper256 number) (value - 128) (lower256 target) m
    clear128 (upper256 target) m

def add128 (number1 number2 target : Place M UInt128) (m : M) : M :=
  let m := (upper128 target).set ((upper128 number1).get m + (upper128 number2).get m +
    (if (lower128 number1).get m + (lower128 number2).get m < (lower128 number1).get m then 1 else 0)) m
  (lower128 target).set ((lower128 number1).get m + (lower128 number2).get m) m

/-- The carry is looked for behind the upper half of the target. -/
def add256 (number1 number2 target : Place M UInt256) (m : M) : M :=
  let m := add128 (upper256 number1) (upper256 number2) (upper256 target) m
  let tmp := ((lower256 number1).get m).add ((lower256 number2).get m)
  let m :=
    if ((lower256 number1).get m).gt tmp then
      (add128 (fst.member (upper256 target)) snd (fst.member (upper256 target)) (m, .one)).1
    else m
  add128 (lower256 number1) (lower256 number2) (lower256 target) m

def minus128 (number1 number2 target : Place M UInt128) (m : M) : M :=
  let m := (upper128 target).set ((upper128 number1).get m - (upper128 number2).get m -
    (if (lower128 number1).get m < (lower128 number1).get m - (lower128 number2).get m then 1 else 0)) m
  (lower128 target).set ((lower128 number1).get m - (lower128 number2).get m) m

def minus256 (number1 number2 target : Place M UInt256) (m : M) : M :=
  let m := minus128 (upper256 number1) (upper256 number2) (upper256 target) m
  let tmp := ((lower256 number1).get m).minus ((lower256 number2).get m)
  let m :=
    if tmp.gt ((lower256 number1).get m) then
      (minus128 (fst.member (upper256 target)) snd (fst.member (upper256 target)) (m, .one)).1
    else m
  minus128 (lower256 number1) (lower256 number2) (lower256 target) m

def or128 (number1 number2 target : Place M UInt128) (m : M) : M :=
  let m := (upper128 target).set ((upper128 number1).get m ||| (upper128 number2).get m) m
  (lower128 target).set ((lower128 number1).get m ||| (lower128 number2).get m) m

def or256 (number1 number2 target : Place M UInt256) (m : M) : M :=
  let m := or128 (upper256 number1) (upper256 number2) (upper256 target) m
  or128 (lower256 number1) (lower256 number2) (lower256 target) m

end Functions

section Reads

/-- The lower half of an operand is read behind the upper half of the target. -/
theorem get_lower128_set {number target : Place M UInt128} (objects : number.SameOrApart target) (hi : UInt64) (m : M) :
    (lower128 number).get ((upper128 target).set hi m) = (number.get m).lower := by
  have apart : (lower128 number).Apart (upper128 target) := objects.apart halves128_apart
  exact apart.get_set hi m

theorem get_lower256_set {number target : Place M UInt256} (objects : number.SameOrApart target) (hi : UInt128) (m : M) :
    (lower256 number).get ((upper256 target).set hi m) = (number.get m).lower := by
  have apart : (lower256 number).Apart (upper256 target) := objects.apart halves256_apart
  exact apart.get_set hi m

end Reads

section Narrow

variable {number number1 number2 target : Place M UInt128}

theorem copy128_eq (objects : number.SameOrApart target) (m : M) :
    copy128 target number m = target.set (number.get m) m := by
  unfold copy128
  dsimp only
  rw [get_lower128_set objects, get_upper128]
  exact set_lower_upper128 target _ _ m

theorem clear128_eq (target : Place M UInt128) (m : M) : clear128 target m = target.set .zero m :=
  set_lower_upper128 target _ _ m

theorem shiftl128_eq (objects : number.SameOrApart target) (value : Nat) (m : M) :
    shiftl128 number value target m = target.set ((number.get m).shiftl value) m := by
  unfold shiftl128 UInt128.shiftl
  by_cases all : 128 ≤ value
  · rw [if_pos all, if_pos all]
    exact clear128_eq target m
  rw [if_neg all, if_neg all]
  by_cases half : value = 64
  · rw [if_pos half, if_pos half]
    exact set_lower_upper128 target _ _ m
  rw [if_neg half, if_neg half]
  by_cases none : value = 0
  · rw [if_pos none, if_pos none]
    exact copy128_eq objects m
  rw [if_neg none, if_neg none]
  by_cases few : value < 64
  · rw [if_pos few, if_pos few]
    dsimp only
    rw [get_lower128_set objects]
    exact set_lower_upper128 target _ _ m
  · rw [if_neg few, if_neg few]
    exact set_lower_upper128 target _ _ m

/-- A shift to the right by half the width overwrites the upper half before it is read. -/
theorem shiftr128_eq (objects : number.SameOrApart target) {value : Nat} (ok : value = 64 → number.Apart target)
    (m : M) : shiftr128 number value target m = target.set ((number.get m).shiftr value) m := by
  unfold shiftr128 UInt128.shiftr
  by_cases all : 128 ≤ value
  · rw [if_pos all, if_pos all]
    exact clear128_eq target m
  rw [if_neg all, if_neg all]
  by_cases half : value = 64
  · rw [if_pos half, if_pos half]
    have apart : (upper128 number).Apart (upper128 target) := ((ok half).member_right _).member_left _
    have kept := apart.get_set 0 m
    dsimp only
    rw [kept]
    exact set_lower_upper128 target _ _ m
  rw [if_neg half, if_neg half]
  by_cases none : value = 0
  · rw [if_pos none, if_pos none]
    exact copy128_eq objects m
  rw [if_neg none, if_neg none]
  by_cases few : value < 64
  · rw [if_pos few, if_pos few]
    rfl
  · rw [if_neg few, if_neg few]
    exact set_upper_lower128 target _ _ m

/-- In place it leaves nothing. -/
theorem shiftr128_whole (x : Place M UInt128) (m : M) : shiftr128 x 64 x m = x.set .zero m := by
  unfold shiftr128
  rw [if_neg (by decide), if_pos rfl]
  dsimp only
  rw [(upper128 x).get_set]
  exact set_lower_upper128 x 0 0 m

theorem add128_eq (first : number1.SameOrApart target) (second : number2.SameOrApart target) (m : M) :
    add128 number1 number2 target m = target.set ((number1.get m).add (number2.get m)) m := by
  unfold add128
  dsimp only
  rw [get_lower128_set first, get_lower128_set second]
  exact set_lower_upper128 target _ _ m

theorem minus128_eq (first : number1.SameOrApart target) (second : number2.SameOrApart target) (m : M) :
    minus128 number1 number2 target m = target.set ((number1.get m).minus (number2.get m)) m := by
  unfold minus128
  dsimp only
  rw [get_lower128_set first, get_lower128_set second]
  exact set_lower_upper128 target _ _ m

theorem or128_eq (first : number1.SameOrApart target) (second : number2.SameOrApart target) (m : M) :
    or128 number1 number2 target m = target.set ((number1.get m).or (number2.get m)) m := by
  unfold or128
  dsimp only
  rw [get_lower128_set first, get_lower128_set second]
  exact set_lower_upper128 target _ _ m

end Narrow

section Wide

variable {number number1 number2 target : Place M UInt256}

theorem copy256_eq (objects : number.SameOrApart target) (m : M) :
    copy256 target number m = target.set (number.get m) m := by
  have upper : (upper256 number).SameOrApart (upper256 target) := objects.same _
  have lower : (lower256 number).SameOrApart (lower256 target) := objects.same _
  unfold copy256
  rw [copy128_eq upper, copy128_eq lower, get_lower256_set objects, get_upper256]
  exact set_lower_upper256 target _ _ m

theorem clear256_eq (target : Place M UInt256) (m : M) : clear256 target m = target.set .zero m := by
  unfold clear256
  rw [clear128_eq, clear128_eq]
  exact set_lower_upper256 target _ _ m

theorem shiftl256_eq (objects : number.SameOrApart target) (value : Nat) (m : M) :
    shiftl256 number value target m = target.set ((number.get m).shiftl value) m := by
  have across : (lower256 number).SameOrApart (upper256 target) := .inr (objects.apart halves256_apart)
  unfold shiftl256 UInt256.shiftl
  by_cases all : 256 ≤ value
  · rw [if_pos all, if_pos all]
    exact clear256_eq target m
  rw [if_neg all, if_neg all]
  by_cases half : value = 128
  · rw [if_pos half, if_pos half, copy128_eq across, clear128_eq]
    exact set_lower_upper256 target _ _ m
  rw [if_neg half, if_neg half]
  by_cases none : value = 0
  · rw [if_pos none, if_pos none]
    exact copy256_eq objects m
  rw [if_neg none, if_neg none]
  by_cases few : value < 128
  · rw [if_pos few, if_pos few]
    rfl
  · rw [if_neg few, if_neg few, shiftl128_eq across, clear128_eq]
    exact set_lower_upper256 target _ _ m

theorem shiftr256_eq (objects : number.SameOrApart target) (value : Nat) (m : M) :
    shiftr256 number value target m = target.set ((number.get m).shiftr value) m := by
  have apart : (upper256 number).Apart (lower256 target) := objects.apart halves256_apart.symm
  unfold shiftr256 UInt256.shiftr
  by_cases all : 256 ≤ value
  · rw [if_pos all, if_pos all]
    exact clear256_eq target m
  rw [if_neg all, if_neg all]
  by_cases half : value = 128
  · rw [if_pos half, if_pos half, copy128_eq (.inr apart), clear128_eq]
    exact set_upper_lower256 target _ _ m
  rw [if_neg half, if_neg half]
  by_cases none : value = 0
  · rw [if_pos none, if_pos none]
    exact copy256_eq objects m
  rw [if_neg none, if_neg none]
  by_cases few : value < 128
  · rw [if_pos few, if_pos few]
    rfl
  · -- the upper half goes into the lower one, so half a word is shifted between two objects
    rw [if_neg few, if_neg few, shiftr128_eq (.inr apart) fun _ => apart, clear128_eq]
    exact set_upper_lower256 target _ _ m

/-- A local lies apart from what a pointer leads to. -/
theorem local_apart (x : Place M UInt128) : (snd : Place (M × UInt128) UInt128).Apart (fst.member x) :=
  fst_apart_snd.symm.member_right x

/-- A one in a local is added to the upper half, or taken from it. -/
theorem upper256_replace (target : Place M UInt256) (a b one : UInt128) (m : M) :
    ((fst.member (upper256 target)).set b ((upper256 target).set a m, one)).1 = (upper256 target).set b m :=
  (upper256 target).set_set a b m

theorem add256_eq (first : number1.SameOrApart target) (second : number2.SameOrApart target) (m : M) :
    add256 number1 number2 target m = target.set ((number1.get m).add (number2.get m)) m := by
  have upper : (upper256 number1).SameOrApart (upper256 target) := first.same _
  have upper' : (upper256 number2).SameOrApart (upper256 target) := second.same _
  have lower : (lower256 number1).SameOrApart (lower256 target) := first.same _
  have lower' : (lower256 number2).SameOrApart (lower256 target) := second.same _
  unfold add256 UInt256.add
  dsimp only
  rw [add128_eq upper upper', add128_eq (.refl _) (.inr (local_apart _)), get_lower256_set first,
    get_lower256_set second, upper256_replace]
  split
  · rw [add128_eq lower lower', get_lower256_set first, get_lower256_set second, get_fst, (upper256 target).get_set]
    exact set_lower_upper256 target _ _ m
  · rw [add128_eq lower lower', get_lower256_set first, get_lower256_set second]
    exact set_lower_upper256 target _ _ m

theorem minus256_eq (first : number1.SameOrApart target) (second : number2.SameOrApart target) (m : M) :
    minus256 number1 number2 target m = target.set ((number1.get m).minus (number2.get m)) m := by
  have upper : (upper256 number1).SameOrApart (upper256 target) := first.same _
  have upper' : (upper256 number2).SameOrApart (upper256 target) := second.same _
  have lower : (lower256 number1).SameOrApart (lower256 target) := first.same _
  have lower' : (lower256 number2).SameOrApart (lower256 target) := second.same _
  unfold minus256 UInt256.minus
  dsimp only
  rw [minus128_eq upper upper', minus128_eq (.refl _) (.inr (local_apart _)), get_lower256_set first,
    get_lower256_set second, upper256_replace]
  split
  · rw [minus128_eq lower lower', get_lower256_set first, get_lower256_set second, get_fst, (upper256 target).get_set]
    exact set_lower_upper256 target _ _ m
  · rw [minus128_eq lower lower', get_lower256_set first, get_lower256_set second]
    exact set_lower_upper256 target _ _ m

theorem or256_eq (first : number1.SameOrApart target) (second : number2.SameOrApart target) (m : M) :
    or256 number1 number2 target m = target.set ((number1.get m).or (number2.get m)) m := by
  have upper : (upper256 number1).SameOrApart (upper256 target) := first.same _
  have upper' : (upper256 number2).SameOrApart (upper256 target) := second.same _
  have lower : (lower256 number1).SameOrApart (lower256 target) := first.same _
  have lower' : (lower256 number2).SameOrApart (lower256 target) := second.same _
  unfold or256
  dsimp only
  rw [or128_eq upper upper', or128_eq lower lower', get_lower256_set first, get_lower256_set second]
  exact set_lower_upper256 target _ _ m

end Wide

section Shifts

/-- A call of a shift: what is shifted, by how many bits, and where to. -/
inductive ShiftCall (M : Type)
  | left128 (number : Place M UInt128) (value : Nat) (target : Place M UInt128)
  | right128 (number : Place M UInt128) (value : Nat) (target : Place M UInt128)
  | left256 (number : Place M UInt256) (value : Nat) (target : Place M UInt256)
  | right256 (number : Place M UInt256) (value : Nat) (target : Place M UInt256)

namespace ShiftCall

/-- The target is the source itself, or another object. -/
def Objects : ShiftCall M → Prop
  | left128 number _ target => number.SameOrApart target
  | right128 number _ target => number.SameOrApart target
  | left256 number _ target => number.SameOrApart target
  | right256 number _ target => number.SameOrApart target

/-- The number in the target is the one in the source, multiplied or divided by the power of two, and
nothing else is changed. -/
def Exact (m : M) : ShiftCall M → Prop
  | left128 number value target => ∃ result, shiftl128 number value target m = target.set result m ∧
      result.toNat = (number.get m).toNat * 2 ^ value % 2 ^ 128
  | right128 number value target => ∃ result, shiftr128 number value target m = target.set result m ∧
      result.toNat = (number.get m).toNat / 2 ^ value
  | left256 number value target => ∃ result, shiftl256 number value target m = target.set result m ∧
      result.toNat = (number.get m).toNat * 2 ^ value % 2 ^ 256
  | right256 number value target => ∃ result, shiftr256 number value target m = target.set result m ∧
      result.toNat = (number.get m).toNat / 2 ^ value

/-- The upper half of a number is shifted into the lower one, in place. -/
def Overwrites (m : M) : ShiftCall M → Prop
  | right128 number value target => number = target ∧ value = 64 ∧ 2 ^ 64 ≤ (number.get m).toNat
  | _ => False

end ShiftCall

/-- A shift to the right by half the width, in place, is right where there is nothing to keep. -/
theorem shiftr128_whole_exact (x : Place M UInt128) (m : M) :
    (ShiftCall.right128 x 64 x).Exact m ↔ (x.get m).toNat < 2 ^ 64 := by
  have divided : (x.get m).toNat / 2 ^ 64 = 0 ↔ (x.get m).toNat < 2 ^ 64 :=
    Nat.div_eq_zero_iff_lt (by decide)
  rw [← divided]
  unfold ShiftCall.Exact
  dsimp only
  rw [shiftr128_whole]
  constructor
  · rintro ⟨result, stored, value⟩
    have same := congrArg x.get stored
    rw [x.get_set, x.get_set] at same
    rw [← value, ← same]
    rfl
  · intro zero
    exact ⟨.zero, rfl, zero.symm⟩

/-- **A shift multiplies or divides by a power of two, unless it overwrites what it is about to read.** -/
theorem shifts_exact_iff (call : ShiftCall M) (m : M) (objects : call.Objects) :
    call.Exact m ↔ ¬call.Overwrites m := by
  cases call with
  | left128 number value target =>
    have exact' : (ShiftCall.left128 number value target).Exact m :=
      ⟨_, shiftl128_eq objects value m, UInt128.toNat_shiftl _ _⟩
    exact iff_of_true exact' id
  | left256 number value target =>
    have exact' : (ShiftCall.left256 number value target).Exact m :=
      ⟨_, shiftl256_eq objects value m, UInt256.toNat_shiftl _ _⟩
    exact iff_of_true exact' id
  | right256 number value target =>
    have exact' : (ShiftCall.right256 number value target).Exact m :=
      ⟨_, shiftr256_eq objects value m, UInt256.toNat_shiftr _ _⟩
    exact iff_of_true exact' id
  | right128 number value target =>
    by_cases half : number = target ∧ value = 64
    · obtain ⟨rfl, rfl⟩ := half
      rw [shiftr128_whole_exact]
      unfold ShiftCall.Overwrites
      simp
    · have ok : value = 64 → number.Apart target := by
        intro same
        rcases objects with itself | apart
        · exact absurd ⟨itself, same⟩ half
        · exact apart
      have exact' : (ShiftCall.right128 number value target).Exact m :=
        ⟨_, shiftr128_eq objects ok m, UInt128.toNat_shiftr _ _⟩
      refine iff_of_true exact' ?_
      rintro ⟨itself, same, -⟩
      exact half ⟨itself, same⟩

theorem shifts_exact_iff_in_place :
    (ShiftCall.right128 (whole : Place UInt128 UInt128) 65 whole).Exact ⟨4, 0⟩ := by
  have objects : (ShiftCall.right128 (whole : Place UInt128 UInt128) 65 whole).Objects := SameOrApart.refl _
  refine (shifts_exact_iff _ _ objects).mpr ?_
  rintro ⟨-, wrong, -⟩
  exact absurd wrong (by decide)

/-- 2^64 is shifted by 64 bits in place, and nothing is left of it. -/
theorem shift_in_place_lost :
    shiftr128 whole 64 whole (⟨1, 0⟩ : UInt128) = ⟨0, 0⟩ ∧ (⟨1, 0⟩ : UInt128).toNat / 2 ^ 64 = 1 ∧
      ¬(ShiftCall.right128 (whole : Place UInt128 UInt128) 64 whole).Exact ⟨1, 0⟩ := by
  refine ⟨by decide, by decide, fun exact' => ?_⟩
  have small := (shiftr128_whole_exact whole _).mp exact'
  exact absurd small (by decide)

end Shifts

end TronLedger
