import TronLedger.Lib.Buffer

/-!
# Bytes written through a pointer

A function that gets a `char *` and a length can write anywhere. `Output` holds the bytes behind the
pointer, however many, and the indices written so far.

* `Holds`: a text stands in the output; `Within`: nothing was written behind a length.
* `putAll` copies a text, `reverseString` turns one around in place.
-/

namespace TronLedger

structure Output where
  byte : Nat → UInt8
  written : List Nat

namespace Output

/-- Before anything is written. -/
def fresh (byte : Nat → UInt8) : Output := ⟨byte, []⟩

/-- `out[i] = b` -/
def put (out : Output) (i : Nat) (b : UInt8) : Output where
  byte j := if j = i then b else out.byte j
  written := i :: out.written

/-- The bytes of a text, one after the other. -/
def putAll (out : Output) (offset : Nat) : Bytes → Output
  | [] => out
  | b :: bs => putAll (out.put offset b) (offset + 1) bs

def Holds (out : Output) (offset : Nat) (text : Bytes) : Prop :=
  ∀ i (inside : i < text.length), out.byte (offset + i) = text[i]

/-- A string with its NUL. -/
def HoldsString (out : Output) (text : Bytes) : Prop := out.Holds 0 (text ++ [0]) ∧ ∀ c ∈ text, c ≠ 0

def bytes (out : Output) (size : Nat) : Bytes := (List.range size).map out.byte

/-- The string at the head of the first `size` bytes. -/
def string (out : Output) (size : Nat) : Bytes := cstr (out.bytes size)

/-- `strlcpy(out, s, outlen)`, and what `snprintf` leaves for the text `s`. -/
def strlcpy (out : Output) (s : Bytes) (outlen : Nat) : Output :=
  if outlen = 0 then out else out.putAll 0 (s.take (outlen - 1) ++ [0])

def Within (out : Output) (size : Nat) : Prop := ∀ i ∈ out.written, i < size

section Put

variable {out : Output} {offset size i : Nat} {text : Bytes} {b : UInt8}

theorem put_byte (out : Output) (i : Nat) (b : UInt8) : (out.put i b).byte i = b := if_pos rfl

theorem put_other (out : Output) {i j : Nat} (b : UInt8) (other : j ≠ i) : (out.put i b).byte j = out.byte j :=
  if_neg other

theorem within_fresh (byte : Nat → UInt8) (size : Nat) : (fresh byte).Within size := by
  intro i among
  exact absurd among List.not_mem_nil

theorem Within.put (within : out.Within size) (inside : i < size) : (out.put i b).Within size := by
  intro j among
  rcases List.mem_cons.mp among with rfl | before
  · exact inside
  · exact within j before

theorem holds_nil (out : Output) (offset : Nat) : out.Holds offset [] := by
  intro i inside
  exact absurd inside (Nat.not_lt_zero i)

/-- A byte right behind a text extends it. -/
theorem Holds.extend (holds : out.Holds offset text) (b : UInt8) :
    (out.put (offset + text.length) b).Holds offset (text ++ [b]) := by
  intro i inside
  by_cases last : i = text.length
  · subst last
    rw [put_byte]
    simp
  · rw [List.length_append, List.length_singleton] at inside
    have before : i < text.length := by omega
    rw [put_other out b (by omega), List.getElem_append_left before]
    exact holds i before

theorem holds_append {front : Bytes} :
    out.Holds offset (front ++ text) ↔ out.Holds offset front ∧ out.Holds (offset + front.length) text := by
  constructor
  · intro holds
    constructor
    · intro i inside
      have found := holds i (by rw [List.length_append]; omega)
      rwa [List.getElem_append_left inside] at found
    · intro i inside
      have found := holds (front.length + i) (by rw [List.length_append]; omega)
      rw [List.getElem_append_right (Nat.le_add_right _ _)] at found
      simp only [Nat.add_sub_cancel_left] at found
      rw [Nat.add_assoc]
      exact found
  · rintro ⟨holds, behind⟩ i inside
    by_cases first : i < front.length
    · rw [List.getElem_append_left first]
      exact holds i first
    · rw [List.length_append] at inside
      have found := behind (i - front.length) (by omega)
      rw [List.getElem_append_right (Nat.le_of_not_lt first), ← found]
      congr 1
      omega

theorem Holds.take (holds : out.Holds 0 text) (k : Nat) : out.Holds 0 (text.take k) := by
  rw [← List.take_append_drop k text] at holds
  exact (holds_append.mp holds).1

/-- A NUL cuts the text that stands there. -/
theorem Holds.cut {k : Nat} (holds : out.Holds 0 text) (inside : k ≤ text.length) (nonzero : ∀ c ∈ text, c ≠ 0) :
    (out.put k 0).HoldsString (text.take k) := by
  have length : (text.take k).length = k := by rw [List.length_take, Nat.min_eq_left inside]
  have terminated := (holds.take k).extend 0
  rw [length, Nat.zero_add] at terminated
  exact ⟨terminated, fun c among => nonzero c (List.mem_of_mem_take among)⟩

theorem HoldsString.holds (string : out.HoldsString text) : out.Holds 0 text :=
  (holds_append.mp string.1).1

end Put

section Copies

/-- What a copied text leaves: itself, and everything outside it. -/
theorem putAll_byte (out : Output) (offset : Nat) (text : Bytes) (j : Nat) :
    (out.putAll offset text).byte j =
      if offset ≤ j then text.getD (j - offset) (out.byte j) else out.byte j := by
  induction text generalizing out offset with
  | nil => simp [putAll]
  | cons b bs ih =>
    rw [putAll, ih]
    by_cases here : j = offset
    · subst here
      rw [if_neg (by omega), if_pos (le_refl j), put_byte, Nat.sub_self]
      rfl
    · rw [put_other out b here]
      by_cases behind : offset ≤ j
      · rw [if_pos (by omega), if_pos behind]
        obtain ⟨k, rfl⟩ : ∃ k, j = offset + 1 + k := ⟨j - (offset + 1), by omega⟩
        rw [Nat.add_sub_cancel_left, show offset + 1 + k - offset = k + 1 by omega, List.getD_cons_succ]
      · rw [if_neg (by omega), if_neg behind]

theorem putAll_holds (out : Output) (offset : Nat) (text : Bytes) : (out.putAll offset text).Holds offset text := by
  intro i inside
  rw [putAll_byte, if_pos (Nat.le_add_right _ _), Nat.add_sub_cancel_left, List.getD_eq_getElem?_getD,
    List.getElem?_eq_getElem inside, Option.getD_some]

/-- A text before the copied one stays. -/
theorem Holds.putAll {out : Output} {offset offset' : Nat} {text : Bytes} (holds : out.Holds offset text)
    (before : offset + text.length ≤ offset') (text' : Bytes) : (out.putAll offset' text').Holds offset text := by
  intro i inside
  rw [putAll_byte, if_neg (by omega)]
  exact holds i inside

/-- A copied text behind another one extends it. -/
theorem Holds.append {out : Output} {front : Bytes} (holds : out.Holds 0 front) (text : Bytes) :
    (out.putAll front.length text).Holds 0 (front ++ text) := by
  refine holds_append.mpr ⟨holds.putAll (by omega) text, ?_⟩
  rw [Nat.zero_add]
  exact putAll_holds out front.length text

theorem Within.putAll {out : Output} {size offset : Nat} {text : Bytes} (within : out.Within size)
    (fits : offset + text.length ≤ size) : (out.putAll offset text).Within size := by
  induction text generalizing out offset with
  | nil => exact within
  | cons b bs ih =>
    rw [List.length_cons] at fits
    exact ih (within.put (by omega)) (by omega)

theorem written_putAll_of_mem {out : Output} {offset k : Nat} (text : Bytes) (among : k ∈ out.written) :
    k ∈ (out.putAll offset text).written := by
  induction text generalizing out offset with
  | nil => exact among
  | cons b bs ih => exact ih (List.mem_cons_of_mem _ among)

theorem written_putAll (out : Output) (offset : Nat) {i : Nat} {text : Bytes} (inside : i < text.length) :
    offset + i ∈ (out.putAll offset text).written := by
  induction text generalizing out offset i with
  | nil => exact absurd inside (Nat.not_lt_zero i)
  | cons b bs ih =>
    cases i with
    | zero => exact written_putAll_of_mem bs List.mem_cons_self
    | succ i =>
      rw [List.length_cons] at inside
      have later := ih (out.put offset b) (offset + 1) (Nat.lt_of_succ_lt_succ inside)
      rwa [Nat.add_assoc, Nat.add_comm 1 i] at later

end Copies

section Strings

variable {out : Output} {text : Bytes} {size : Nat}

/-- A string that stands in an array is the one that is read. -/
theorem HoldsString.string (holds : out.HoldsString text) (short : text.length < size) : out.string size = text := by
  have first : (List.range size).map out.byte =
      text ++ 0 :: (List.range' (text.length + 1) (size - text.length - 1)).map out.byte := by
    refine List.ext_getElem (by simp; omega) ?_
    intro i inside _
    rw [List.length_map, List.length_range] at inside
    have stands := holds.1
    rw [List.getElem_map, List.getElem_range]
    by_cases before : i < text.length
    · have same := stands i (by rw [List.length_append]; omega)
      rw [Nat.zero_add, List.getElem_append_left before] at same
      rw [List.getElem_append_left before, same]
    · rw [List.getElem_append_right (Nat.le_of_not_lt before)]
      by_cases last : i = text.length
      · have same := stands text.length (by simp)
        rw [Nat.zero_add] at same
        subst last
        simpa using same
      · obtain ⟨k, rfl⟩ : ∃ k, i = text.length + (k + 1) := ⟨i - text.length - 1, by omega⟩
        simp only [Nat.add_sub_cancel_left, List.getElem_cons_succ, List.getElem_map, List.getElem_range', Nat.one_mul]
        congr 1
        omega
  rw [Output.string, Output.bytes, first, cstr, List.takeWhile_append_of_pos fun c among => decide_eq_true (holds.2 c among),
    List.takeWhile_cons_of_neg (by simp), List.append_nil]

theorem HoldsString.unique {text' : Bytes} (holds : out.HoldsString text) (holds' : out.HoldsString text') :
    text = text' := by
  have first : out.string (text.length + text'.length + 1) = text := holds.string (by omega)
  have second : out.string (text.length + text'.length + 1) = text' := holds'.string (by omega)
  exact first.symm.trans second

/-- The bytes of a text that stands in an array. -/
theorem Holds.bytes (holds : out.Holds 0 text) : out.bytes text.length = text := by
  refine List.ext_getElem (by simp [Output.bytes]) ?_
  intro i _ inside
  have same := holds i inside
  rw [Nat.zero_add] at same
  simp only [Output.bytes, List.getElem_map, List.getElem_range, same]

/-- A text that fits is written with its NUL, byte by byte. -/
theorem strlcpy_holds (short : text.length < size) :
    (out.strlcpy text size).Holds 0 text ∧ ∀ i < text.length, i ∈ (out.strlcpy text size).written := by
  rw [strlcpy, if_neg (by omega), List.take_of_length_le (by omega)]
  refine ⟨(holds_append.mp (putAll_holds out 0 _)).1, ?_⟩
  intro i inside
  have among := written_putAll out 0 (show i < (text ++ [0]).length by rw [List.length_append]; omega)
  rwa [Nat.zero_add] at among

theorem strlcpy_within (within : out.Within size) (positive : 0 < size) : (out.strlcpy text size).Within size := by
  rw [strlcpy, if_neg (by omega)]
  exact within.putAll (by rw [List.length_append, List.length_take, List.length_singleton]; omega)

/-- A text that fits is copied whole. -/
theorem strlcpy_string (nonzero : ∀ c ∈ text, c ≠ 0) (short : text.length < size) (within : out.Within size) :
    (out.strlcpy text size).HoldsString text ∧ (out.strlcpy text size).Within size := by
  rw [strlcpy, if_neg (by omega), List.take_of_length_le (by omega)]
  exact ⟨⟨putAll_holds out 0 _, nonzero⟩, within.putAll (by simp; omega)⟩

/-- The empty string. -/
theorem put_zero_string (within : out.Within size) (positive : 0 < size) :
    (out.put 0 0).HoldsString [] ∧ (out.put 0 0).Within size :=
  ⟨(holds_nil out 0).cut (Nat.zero_le _) fun _ among => absurd among List.not_mem_nil, within.put positive⟩

end Strings

section Reversal

/-- The loop of `reverseString`, with as many turns as `fuel` allows. -/
def reverseLoop : Nat → Nat → Nat → Output → Output
  | 0, _, _, out => out
  | fuel + 1, i, j, out =>
    if i < j then
      let c := out.byte i
      let out := out.put i (out.byte j)
      reverseLoop fuel (i + 1) (j - 1) (out.put j c)
    else out

/-- `reverseString(out, length)` of a text that is not empty. -/
def reverseString (out : Output) (length : Nat) : Output := reverseLoop length 0 (length - 1) out

theorem reverseLoop_byte (fuel i j : Nat) (out : Output) (enough : j ≤ i + 2 * fuel) (k : Nat) :
    (reverseLoop fuel i j out).byte k = if i ≤ k ∧ k ≤ j then out.byte (i + j - k) else out.byte k := by
  induction fuel generalizing i j out with
  | zero =>
    rw [reverseLoop]
    by_cases middle : i ≤ k ∧ k ≤ j
    · rw [if_pos middle]
      congr 1
      omega
    · rw [if_neg middle]
  | succ fuel ih =>
    rw [reverseLoop]
    by_cases more : i < j
    · rw [if_pos more]
      dsimp only
      rw [ih (i + 1) (j - 1) _ (by omega)]
      by_cases low : k = i
      · subst low
        rw [if_neg (by omega), if_pos (by omega), put_other _ _ (by omega), put_byte]
        congr 1
        omega
      by_cases high : k = j
      · subst high
        rw [if_neg (by omega), if_pos (by omega), put_byte]
        congr 1
        omega
      by_cases middle : i ≤ k ∧ k ≤ j
      · rw [if_pos (by omega), if_pos middle, put_other _ _ (by omega), put_other _ _ (by omega)]
        congr 1
        omega
      · rw [if_neg (by omega), if_neg middle, put_other _ _ high, put_other _ _ low]
    · rw [if_neg more]
      by_cases middle : i ≤ k ∧ k ≤ j
      · rw [if_pos middle]
        congr 1
        omega
      · rw [if_neg middle]

theorem Within.reverseLoop {size : Nat} (fuel i j : Nat) {out : Output} (within : out.Within size) (inside : j < size) :
    (reverseLoop fuel i j out).Within size := by
  induction fuel generalizing i j out with
  | zero => exact within
  | succ fuel ih =>
    rw [Output.reverseLoop]
    split
    · exact ih _ _ ((within.put (by omega)).put inside) (by omega)
    · exact within

/-- A text is turned around in place. -/
theorem Holds.reverseString {out : Output} {text : Bytes} (holds : out.Holds 0 text) (nonempty : text ≠ []) :
    (out.reverseString text.length).Holds 0 text.reverse := by
  have positive : 0 < text.length := List.length_pos_iff.mpr nonempty
  intro i inside
  rw [List.length_reverse] at inside
  rw [Output.reverseString, reverseLoop_byte _ _ _ _ (by omega), if_pos (by omega), List.getElem_reverse, Nat.zero_add,
    Nat.zero_add]
  have found := holds (text.length - 1 - i) (by omega)
  rw [Nat.zero_add] at found
  exact found

theorem Within.reverseString {out : Output} {size length : Nat} (within : out.Within size) (fits : length ≤ size)
    (positive : 0 < length) : (out.reverseString length).Within size :=
  Within.reverseLoop _ _ _ within (by omega)

theorem written_reverseLoop (fuel i j : Nat) {out : Output} {k : Nat} (among : k ∈ out.written) :
    k ∈ (reverseLoop fuel i j out).written := by
  induction fuel generalizing i j out with
  | zero => exact among
  | succ fuel ih =>
    rw [reverseLoop]
    split
    · exact ih _ _ (List.mem_cons_of_mem _ (List.mem_cons_of_mem _ among))
    · exact among

theorem written_reverseString {out : Output} {length k : Nat} (among : k ∈ out.written) :
    k ∈ (out.reverseString length).written :=
  written_reverseLoop _ _ _ among

/-- What stands behind the text stays. -/
theorem reverseString_behind {out : Output} {length k : Nat} (behind : length ≤ k) (positive : 0 < length) :
    (out.reverseString length).byte k = out.byte k := by
  rw [Output.reverseString, reverseLoop_byte _ _ _ _ (by omega), if_neg (by omega)]

end Reversal

end Output

end TronLedger
