import Mathlib.Data.List.Basic
import Mathlib.Data.List.Induction
import Mathlib.Data.List.TakeWhile
import Mathlib.Algebra.Group.Nat.Defs
import Mathlib.Tactic.Common

/-!
# Fixed-size C buffers

A C array keeps its size whatever is stored in it, and a string inside it ends at
the first NUL. `Buf n` carries its size as a field; every write is positional and
drops what would fall behind the end.
-/

namespace TronLedger

abbrev Bytes := List UInt8

/-- The bytes of an ASCII string constant, without its NUL. -/
def ascii (s : String) : Bytes := s.toList.map fun c => UInt8.ofNat c.toNat

/-- The C string that starts at the head of `bs`. -/
def cstr (bs : Bytes) : Bytes := bs.takeWhile (· ≠ 0)

/-- Big-endian value of a byte string. -/
def beNat (bs : Bytes) : Nat := bs.foldl (fun acc b => acc * 256 + b.toNat) 0

theorem beNat_snoc (bs : Bytes) (b : UInt8) : beNat (bs ++ [b]) = beNat bs * 256 + b.toNat := by
  simp [beNat]

theorem beNat_lt (bs : Bytes) : beNat bs < 256 ^ bs.length := by
  induction bs using List.reverseRecOn with
  | nil => decide
  | append_singleton bs b ih =>
    have := b.toNat_lt
    rw [beNat_snoc, List.length_append, List.length_singleton, Nat.pow_succ]
    omega

theorem beNat_append (as bs : Bytes) : beNat (as ++ bs) = beNat as * 256 ^ bs.length + beNat bs := by
  induction bs using List.reverseRecOn with
  | nil => simp [beNat]
  | append_singleton bs b ih =>
    rw [← List.append_assoc, beNat_snoc, beNat_snoc, ih, List.length_append, List.length_singleton,
      Nat.pow_succ, Nat.add_mul, Nat.mul_assoc, Nat.add_assoc]

/-- The number of a byte string determines it, for a given length. -/
theorem beNat_inj {as bs : Bytes} (length : as.length = bs.length) (same : beNat as = beNat bs) :
    as = bs := by
  induction as using List.reverseRecOn generalizing bs with
  | nil => exact (List.eq_nil_of_length_eq_zero length.symm).symm
  | append_singleton as a ih =>
    obtain ⟨cs, b, rfl⟩ : ∃ cs b, bs = cs ++ [b] :=
      ⟨bs.dropLast, bs.getLast (by rintro rfl; simp at length), (List.dropLast_append_getLast _).symm⟩
    rw [beNat_snoc, beNat_snoc] at same
    have lo := a.toNat_lt
    have lo' := b.toNat_lt
    have last : a = b := UInt8.toNat_inj.mp (by omega)
    rw [last, ih (by simpa using length) (by omega)]

/-- The `n` low bytes of `value`, most significant first. -/
def beBytes (n : Nat) (value : Nat) : Bytes :=
  match n with
  | 0 => []
  | n + 1 => UInt8.ofNat (value / 256 ^ n) :: beBytes n value

theorem beBytes_length (n value : Nat) : (beBytes n value).length = n := by
  induction n with
  | zero => rfl
  | succ n ih => simp [beBytes, ih]

/-- `length` bytes from `offset` on, if there are so many. -/
def readSlice (bs : Bytes) (offset length : Nat) : Option Bytes :=
  if offset + length ≤ bs.length then some ((bs.drop offset).take length) else none

/-- Overwrite `dst` from position `off` with `src`; nothing grows. -/
def overwrite : Bytes → Nat → Bytes → Bytes
  | [], _, _ => []
  | dst, _, [] => dst
  | _ :: ds, 0, s :: ss => s :: overwrite ds 0 ss
  | d :: ds, off + 1, ss => d :: overwrite ds off ss

@[simp] theorem overwrite_length (dst : Bytes) (off : Nat) (src : Bytes) :
    (overwrite dst off src).length = dst.length := by
  fun_induction overwrite dst off src <;> simp_all

@[simp] theorem overwrite_nil (dst : Bytes) (off : Nat) : overwrite dst off [] = dst := by
  cases dst <;> simp [overwrite]

theorem overwrite_zero (dst src : Bytes) (fits : src.length ≤ dst.length) :
    overwrite dst 0 src = src ++ dst.drop src.length := by
  induction src generalizing dst with
  | nil => simp
  | cons s ss ih =>
    cases dst with
    | nil => simp at fits
    | cons d ds => simp [overwrite, ih ds (by simpa using fits)]

theorem overwrite_eq (dst src : Bytes) (off : Nat) (fits : off + src.length ≤ dst.length) :
    overwrite dst off src = dst.take off ++ src ++ dst.drop (off + src.length) := by
  induction off generalizing dst with
  | zero => simpa using overwrite_zero dst src (by simpa using fits)
  | succ off ih =>
    cases dst with
    | nil => simp at fits
    | cons d ds =>
      cases src with
      | nil => simp
      | cons s ss =>
        have shorter : off + (s :: ss).length ≤ ds.length := by
          simp only [List.length_cons] at fits ⊢; omega
        have shift : off + 1 + (s :: ss).length = off + (s :: ss).length + 1 := by omega
        simp only [overwrite, ih ds shorter, List.take_succ_cons, shift, List.drop_succ_cons,
          List.cons_append]

theorem cstr_terminated (s rest : Bytes) (nonzero : ∀ b ∈ s, b ≠ 0) :
    cstr (s ++ 0 :: rest) = s := by
  unfold cstr
  rw [List.takeWhile_append_of_pos (by simpa using nonzero)]
  simp

theorem cstr_nonzero (bs : Bytes) : ∀ b ∈ cstr bs, b ≠ 0 := by
  intro b hb
  simpa using List.mem_takeWhile_imp hb

/-- A C array of `n` bytes. -/
structure Buf (n : Nat) where
  bytes : Bytes
  size : bytes.length = n
  deriving DecidableEq

namespace Buf

variable {n : Nat}

theorem ext_bytes {a b : Buf n} (h : a.bytes = b.bytes) : a = b := by
  cases a; cases b; simpa using h

def zero (n : Nat) : Buf n := ⟨List.replicate n 0, List.length_replicate⟩

instance : Inhabited (Buf n) := ⟨zero n⟩

/-- `memcpy(buf + off, src, |src|)`. -/
def write (b : Buf n) (off : Nat) (src : Bytes) : Buf n :=
  ⟨overwrite b.bytes off src, by simp [b.size]⟩

/-- The C string at `buf + off`. -/
def str (b : Buf n) (off : Nat) : Bytes := cstr (b.bytes.drop off)

/-- `strcpy(buf + off, s)` for a string `s`. -/
def strcpy (b : Buf n) (off : Nat) (s : Bytes) : Buf n := b.write off (s ++ [0])

/-- `strlcpy(buf + off, s, outlen)`, and what `snprintf` leaves for the text `s`. -/
def strlcpy (b : Buf n) (off : Nat) (s : Bytes) (outlen : Nat) : Buf n :=
  match outlen with
  | 0 => b
  | room + 1 => b.write off (s.take room ++ [0])

/-- `strlcat(buf, s, outlen)` -/
def strlcat (b : Buf n) (s : Bytes) (outlen : Nat) : Buf n :=
  let len := (b.str 0).length
  if outlen ≤ len then b else b.strlcpy len s (outlen - len)

/-- The `n` bytes of `bs`, cut or padded with zeros. -/
def ofBytes (n : Nat) (bs : Bytes) : Buf n := (zero n).write 0 bs

theorem write_bytes (b : Buf n) (off : Nat) (src : Bytes) (fits : off + src.length ≤ n) :
    (b.write off src).bytes = b.bytes.take off ++ src ++ b.bytes.drop (off + src.length) :=
  overwrite_eq b.bytes src off (by rw [b.size]; exact fits)

theorem bytes_ofBytes {bs : Bytes} (length : bs.length = n) : (ofBytes n bs).bytes = bs := by
  rw [ofBytes, write_bytes (zero n) 0 bs (by omega), List.take_zero, List.nil_append,
    List.drop_eq_nil_of_le (by rw [(zero n).size]; omega), List.append_nil]

/-- A string written where it fits is read back. -/
theorem str_strcpy (b : Buf n) (off : Nat) (s : Bytes) (nonzero : ∀ c ∈ s, c ≠ 0)
    (fits : off + s.length + 1 ≤ n) : (b.strcpy off s).str off = s := by
  have room : off + (s ++ [0]).length ≤ n := by simp; omega
  have before : (b.bytes.take off).length = off := by
    rw [List.length_take, b.size]; omega
  rw [str, strcpy, write_bytes b off _ room, List.append_assoc, List.drop_left' before,
    List.append_assoc]
  exact cstr_terminated s _ nonzero

/-- A string ends at the first NUL. -/
theorem str_length_le (b : Buf n) (off room : Nat) (terminated : b.bytes[off + room]? = some 0) :
    (b.str off).length ≤ room := by
  have drop : (b.bytes.drop off)[room]? = some 0 := by rwa [List.getElem?_drop]
  obtain ⟨inside, zero⟩ := List.getElem?_eq_some_iff.mp drop
  by_contra long
  have among : (b.str off)[room]? = some 0 := by
    rw [str, cstr, List.getElem?_eq_some_iff]
    refine ⟨by simpa [str, cstr] using long, ?_⟩
    have prefix' := List.takeWhile_prefix (p := (· ≠ (0 : UInt8))) (l := b.bytes.drop off)
    rw [prefix'.getElem, zero]
  exact cstr_nonzero _ 0 (List.mem_of_getElem? among) rfl

theorem getElem?_write_of_lt (b : Buf n) {off at' : Nat} (src : Bytes) (fits : off + src.length ≤ n)
    (before : at' < off) : (b.write off src).bytes[at']? = b.bytes[at']? := by
  rw [write_bytes b off src fits, List.append_assoc, List.getElem?_append_left (by simp [b.size]; omega),
    List.getElem?_take_of_lt before]

theorem getElem?_write_of_ge (b : Buf n) {off at' : Nat} (src : Bytes) (fits : off + src.length ≤ n)
    (behind : off + src.length ≤ at') : (b.write off src).bytes[at']? = b.bytes[at']? := by
  have front : (b.bytes.take off ++ src).length = off + src.length := by simp [b.size]; omega
  rw [write_bytes b off src fits, List.getElem?_append_right (by omega), front, List.getElem?_drop]
  congr 1
  omega

theorem getElem?_write_inside (b : Buf n) {off i : Nat} (src : Bytes) (fits : off + src.length ≤ n)
    (inside : i < src.length) : (b.write off src).bytes[off + i]? = src[i]? := by
  have front : (b.bytes.take off).length = off := by simp [b.size]; omega
  rw [write_bytes b off src fits, List.append_assoc, List.getElem?_append_right (by omega), front,
    Nat.add_sub_cancel_left, List.getElem?_append_left inside]

theorem getD_write (b : Buf n) (src : Bytes) {i : Nat} (fits : src.length ≤ n) :
    (b.write 0 src).bytes.getD i 0 = if i < src.length then src.getD i 0 else b.bytes.getD i 0 := by
  rw [write_bytes b 0 src (by omega), List.take_zero, List.nil_append, Nat.zero_add]
  simp only [List.getD_eq_getElem?_getD]
  split
  · rename_i inside
    rw [List.getElem?_append_left inside]
  · rename_i behind
    rw [List.getElem?_append_right (by omega), List.getElem?_drop]
    congr 2
    omega

/-- A text at the head of a string is read before the rest of it. -/
theorem str_append (b : Buf n) (off : Nat) {text : Bytes} (nonzero : ∀ c ∈ text, c ≠ 0)
    (head : ∀ i < text.length, b.bytes[off + i]? = text[i]?) :
    b.str off = text ++ b.str (off + text.length) := by
  have split : b.bytes.drop off = text ++ b.bytes.drop (off + text.length) := by
    refine List.ext_getElem? fun i => ?_
    rw [List.getElem?_drop]
    by_cases inside : i < text.length
    · rw [head i inside, List.getElem?_append_left inside]
    · rw [List.getElem?_append_right (by omega), List.getElem?_drop]
      congr 1
      omega
  rw [str, split, cstr, List.takeWhile_append_of_pos (by simpa using nonzero)]
  rfl

theorem str_eq_nil (b : Buf n) {off : Nat} (inside : off < n) :
    b.str off = [] ↔ b.bytes[off]? = some 0 := by
  have room : off < b.bytes.length := by rw [b.size]; exact inside
  rw [str, cstr, List.drop_eq_getElem_cons room, List.getElem?_eq_getElem room]
  by_cases zero : b.bytes[off] = 0
  · rw [List.takeWhile_cons_of_neg (by simp [zero]), zero]
    simp
  · rw [List.takeWhile_cons_of_pos (by simp [zero])]
    simp [zero]

/-- A text is the whole string exactly when a NUL follows it. -/
theorem str_eq_iff (b : Buf n) (off : Nat) {text : Bytes} (nonzero : ∀ c ∈ text, c ≠ 0)
    (head : ∀ i < text.length, b.bytes[off + i]? = text[i]?) (inside : off + text.length < n) :
    b.str off = text ↔ b.bytes[off + text.length]? = some 0 := by
  rw [str_append b off nonzero head, ← str_eq_nil b inside]
  constructor
  · intro same
    exact List.append_cancel_left (same.trans (List.append_nil text).symm)
  · intro none
    rw [none, List.append_nil]

theorem getElem?_str (b : Buf n) (off : Nat) {i : Nat} (inside : i < (b.str off).length) :
    b.bytes[off + i]? = (b.str off)[i]? := by
  obtain ⟨rest, split⟩ := List.takeWhile_prefix (p := (· ≠ (0 : UInt8))) (l := b.bytes.drop off)
  rw [← List.getElem?_drop, ← split]
  exact List.getElem?_append_left inside

/-- Buffers that agree up to a NUL hold the same string. -/
theorem str_congr {m : Nat} (a : Buf n) (b : Buf m) (off off' : Nat) {k : Nat}
    (agree : ∀ i ≤ k, a.bytes[off + i]? = b.bytes[off' + i]?) (nul : a.bytes[off + k]? = some 0) :
    b.str off' = a.str off := by
  have short := str_length_le a off k nul
  have nul' : b.bytes[off' + k]? = some 0 := by rw [← agree k le_rfl, nul]
  have inside : off + k < n := by
    have := (List.getElem?_eq_some_iff.mp nul).1
    rwa [a.size] at this
  have inside' : off' + k < m := by
    have := (List.getElem?_eq_some_iff.mp nul').1
    rwa [b.size] at this
  have nonzero : ∀ c ∈ a.str off, c ≠ 0 := cstr_nonzero _
  have ends := (str_eq_iff a off nonzero (fun i => getElem?_str a off) (by omega)).mp rfl
  refine (str_eq_iff b off' nonzero (fun i bound => ?_) (by omega)).mpr ?_
  · rw [← agree i (by omega)]
    exact getElem?_str a off bound
  · rw [← agree _ short]
    exact ends

/-- A string that ends before a write stays. -/
theorem str_write_behind (b : Buf n) {off k off' : Nat} (src : Bytes) (fits : off' + src.length ≤ n)
    (nul : b.bytes[off + k]? = some 0) (before : off + k < off') : (b.write off' src).str off = b.str off := by
  refine str_congr b (b.write off' src) off off (fun i small => ?_) nul
  rw [getElem?_write_of_lt b src fits (by omega)]

/-- The terminator of a copied string. -/
theorem strcpy_nul (b : Buf n) (off : Nat) (s : Bytes) (fits : off + s.length + 1 ≤ n) :
    (b.strcpy off s).bytes[off + s.length]? = some 0 := by
  have room : off + (s ++ [0]).length ≤ n := by
    rw [List.length_append, List.length_singleton]
    omega
  rw [strcpy, getElem?_write_inside b (s ++ [0]) room (by rw [List.length_append, List.length_singleton]; omega),
    List.getElem?_append_right le_rfl]
  simp

/-- A string that is not cut. -/
theorem strlcpy_eq_strcpy (b : Buf n) (off : Nat) {outlen : Nat} {s : Bytes} (short : s.length < outlen) :
    b.strlcpy off s outlen = b.strcpy off s := by
  obtain ⟨room, rfl⟩ : ∃ room, outlen = room + 1 := ⟨outlen - 1, by omega⟩
  have whole : s.take room = s := List.take_of_length_le (by omega)
  simp [strlcpy, strcpy, whole]

/-- A string copied over the terminator of another is behind it. -/
theorem strcpy_strcpy (b : Buf n) (off : Nat) (s t : Bytes) (fits : off + s.length + t.length + 1 ≤ n) :
    (b.strcpy off s).strcpy (off + s.length) t = b.strcpy off (s ++ t) := by
  apply ext_bytes
  have size := b.size
  have first : (b.strcpy off s).bytes = b.bytes.take off ++ s ++ ([0] ++ b.bytes.drop (off + s.length + 1)) := by
    rw [strcpy, write_bytes _ _ _ (by simp; omega)]
    simp [Nat.add_assoc]
  have front : (b.bytes.take off ++ s).length = off + s.length := by
    rw [List.length_append, List.length_take]
    omega
  have second := write_bytes (b.strcpy off s) (off + s.length) (t ++ [0]) (by simp; omega)
  have whole := write_bytes b off (s ++ t ++ [0]) (by simp; omega)
  change ((b.strcpy off s).write (off + s.length) (t ++ [0])).bytes = (b.write off (s ++ t ++ [0])).bytes
  have behind : (b.bytes.take off ++ s ++ ([0] ++ b.bytes.drop (off + s.length + 1))).drop
      (off + s.length + (t ++ [0]).length) = b.bytes.drop (off + (s ++ t ++ [0]).length) := by
    have bound : off + s.length + (t ++ [0]).length = (b.bytes.take off ++ s).length + (t.length + 1) := by simp [front]
    rw [bound, List.drop_length_add_append, List.singleton_append, List.drop_succ_cons, List.drop_drop]
    congr 1
    simp
    omega
  rw [second, whole, first, List.take_left' front, behind]
  simp

theorem str_strlcpy (b : Buf n) (off outlen : Nat) (s : Bytes) (nonzero : ∀ c ∈ s, c ≠ 0)
    (short : s.length < outlen) (fits : off + s.length + 1 ≤ n) :
    (b.strlcpy off s outlen).str off = s := by
  rw [strlcpy_eq_strcpy b off short]
  exact str_strcpy b off s nonzero fits

/-- The string that `strlcpy` leaves is cut to the room. -/
theorem str_strlcpy_cut (b : Buf n) (s : Bytes) (room : Nat) (nonzero : ∀ c ∈ s, c ≠ 0)
    (fits : room + 1 ≤ n) : (b.strlcpy 0 s (room + 1)).str 0 = s.take room := by
  have cut : (s.take room).length ≤ room := by
    rw [List.length_take]
    omega
  have same : b.strlcpy 0 s (room + 1) = b.strcpy 0 (s.take room) := rfl
  rw [same]
  exact str_strcpy b 0 _ (fun c among => nonzero c (List.mem_of_mem_take among)) (by omega)

theorem str_strlcpy_le (b : Buf n) (s : Bytes) {room : Nat} (fits : room + 1 ≤ n) :
    ((b.strlcpy 0 s (room + 1)).str 0).length ≤ room := by
  have cut : (s.take room).length ≤ room := by
    rw [List.length_take]
    omega
  have same : b.strlcpy 0 s (room + 1) = b.strcpy 0 (s.take room) := rfl
  have nul := strcpy_nul b 0 (s.take room) (by omega)
  rw [same]
  exact (str_length_le _ 0 _ nul).trans cut

/-- What `strlcat` leaves is cut to the room behind the string. -/
theorem str_strlcat (b : Buf n) {s : Bytes} (nonzero : ∀ c ∈ s, c ≠ 0) (short : (b.str 0).length < n) :
    (b.strlcat s n).str 0 = b.str 0 ++ s.take (n - 1 - (b.str 0).length) := by
  generalize len : (b.str 0).length = k at short ⊢
  have room : n - k = (n - 1 - k) + 1 := by omega
  have cut : (s.take (n - 1 - k)).length ≤ n - 1 - k := List.length_take_le _ _
  have fits : k + (s.take (n - 1 - k) ++ [0]).length ≤ n := by
    rw [List.length_append, List.length_singleton]
    omega
  have written : b.strlcat s n = b.write k (s.take (n - 1 - k) ++ [0]) := by
    rw [strlcat, len, if_neg (by omega), room]
    rfl
  have behind : (b.write k (s.take (n - 1 - k) ++ [0])).str k = s.take (n - 1 - k) :=
    str_strcpy b k _ (fun c among => nonzero c (List.mem_of_mem_take among)) (by omega)
  have front : ∀ i < (b.str 0).length, (b.write k (s.take (n - 1 - k) ++ [0])).bytes[0 + i]? = (b.str 0)[i]? := by
    intro i inside
    rw [getElem?_write_of_lt b _ fits (by omega)]
    exact getElem?_str b 0 inside
  have own : ∀ c ∈ b.str 0, c ≠ 0 := cstr_nonzero _
  rw [written, str_append _ 0 own front, Nat.zero_add, len, behind]

/-- Two texts are appended as one. -/
theorem str_strlcat_strlcat (b : Buf n) {s t : Bytes} (nonzero : ∀ c ∈ s, c ≠ 0) (nonzero' : ∀ c ∈ t, c ≠ 0)
    (short : (b.str 0).length < n) :
    ((b.strlcat s n).strlcat t n).str 0 = b.str 0 ++ (s ++ t).take (n - 1 - (b.str 0).length) := by
  have first := str_strlcat b nonzero short
  have length : ((b.strlcat s n).str 0).length = (b.str 0).length + min (n - 1 - (b.str 0).length) s.length := by
    rw [first, List.length_append, List.length_take]
  have rest : n - 1 - ((b.strlcat s n).str 0).length = n - 1 - (b.str 0).length - s.length := by omega
  rw [str_strlcat _ nonzero' (by omega), rest, first, List.append_assoc, List.take_append]

/-- A string and its NUL, copied from the buffer it stands in. -/
theorem take_str (b : Buf n) (short : (b.str 0).length < n) :
    b.bytes.take ((b.str 0).length + 1) = b.str 0 ++ [0] := by
  have front : b.bytes.take (b.str 0).length = b.str 0 := by
    rw [str, cstr, List.drop_zero]
    exact (List.prefix_iff_eq_take.mp (List.takeWhile_prefix _)).symm
  have inside : (b.str 0).length < b.bytes.length := by
    rw [b.size]
    exact short
  have stop : b.bytes[(b.str 0).length] = 0 := by
    by_contra other
    have parts : b.bytes = b.str 0 ++ b.bytes[(b.str 0).length] :: b.bytes.drop ((b.str 0).length + 1) := by
      conv_lhs => rw [← List.take_append_drop (b.str 0).length b.bytes, front,
        List.drop_eq_getElem_cons inside]
    have nonzero : ∀ c ∈ b.str 0, c ≠ 0 := cstr_nonzero _
    have longer : (cstr b.bytes).length = (b.str 0).length := by rw [str, List.drop_zero]
    rw [cstr] at longer
    conv_lhs at longer => rw [parts]
    rw [List.takeWhile_append_of_pos (by simpa using nonzero),
      List.takeWhile_cons_of_pos (by simpa using other)] at longer
    simp only [List.length_append, List.length_cons] at longer
    omega
  rw [List.take_succ_eq_append_getElem inside, front, stop]

end Buf

end TronLedger
