import TronLedger.ReviewMenu
import TronLedger.Lib.BigEndian

/-!
# The format of signatures

The SDK gives a signature in DER; the app sends r and s in 32 bytes each.

* `formatSignatureRead` is `format_signature_out` with every read checked against the signature.
* `formatSignature_inverts`: it puts r and s behind each other, and reads nothing behind the signature.
-/

namespace TronLedger

/-- The content of a DER integer: as few bytes as it takes, and a zero where the first one has its
highest bit set. -/
def derContent (n : Nat) : Bytes :=
  if 128 ≤ (minimalBytes n).headD 0 then 0 :: minimalBytes n else minimalBytes n

def derEncode (n : Nat) : Bytes := 2 :: UInt8.ofNat (derContent n).length :: derContent n

/-- An ECDSA signature in DER. -/
def derSignature (r s : Nat) : Bytes :=
  0x30 :: UInt8.ofNat (derEncode r ++ derEncode s).length :: (derEncode r ++ derEncode s)

def derIntegerRead (signature : Bytes) (xoffset : Nat) : Option (Nat × Nat) :=
  match signature[xoffset - 1]? with
  | none => none
  | some xlength => some (if xlength.toNat = 33 then (xoffset + 1, 32) else (xoffset, xlength.toNat))

/-- `format_signature_out`; `none` where it reads behind the signature. -/
def formatSignatureRead (signature : Bytes) (out : Buf 260) : Option (Buf 260) :=
  let out := out.write 0 (List.replicate 64 0)
  match derIntegerRead signature 4 with
  | none => none
  | some (rOffset, rLength) =>
    match readSlice signature rOffset rLength with
    | none => none
    | some r =>
      let out := out.write (32 - rLength) r
      match derIntegerRead signature (rOffset + rLength + 2) with
      | none => none
      | some (sOffset, sLength) =>
        match readSlice signature sOffset sLength with
        | none => none
        | some s => some (out.write (32 + 32 - sLength) s)

section Read

variable {signature : Bytes}

theorem derInteger_of_read {xoffset : Nat} {place : Nat × Nat} (found : derIntegerRead signature xoffset = some place)
    (rest : Bytes) : derInteger (signature ++ rest) xoffset = place := by
  unfold derIntegerRead at found
  split at found
  · exact absurd found.symm (Option.some_ne_none _)
  · rename_i xlength inside
    have bound : xoffset - 1 < signature.length := (List.getElem?_eq_some_iff.mp inside).1
    rw [Option.some.injEq] at found
    rw [derInteger, List.getD_eq_getElem?_getD, List.getElem?_append_left bound, inside, Option.getD_some]
    exact found

theorem slice_of_read {offset length : Nat} {bs : Bytes} (found : readSlice signature offset length = some bs)
    (rest : Bytes) : ((signature ++ rest).drop offset).take length = bs := by
  unfold readSlice at found
  split at found
  · rename_i inside
    rw [Option.some.injEq] at found
    rw [List.drop_append_of_le_length (by omega), List.take_append_of_le_length (by rw [List.length_drop]; omega)]
    exact found
  · exact absurd found.symm (Option.some_ne_none _)

/-- **Where every read is inside the signature, what stands behind it does not matter.** -/
theorem formatSignatureOut_of_read {out out' : Buf 260} (inside : formatSignatureRead signature out = some out')
    (rest : Bytes) : formatSignatureOut (signature ++ rest) out = out' := by
  unfold formatSignatureRead at inside
  dsimp only at inside
  split at inside
  · exact absurd inside.symm (Option.some_ne_none _)
  rename_i rOffset rLength r_place
  split at inside
  · exact absurd inside.symm (Option.some_ne_none _)
  rename_i r r_read
  split at inside
  · exact absurd inside.symm (Option.some_ne_none _)
  rename_i sOffset sLength s_place
  split at inside
  · exact absurd inside.symm (Option.some_ne_none _)
  rename_i s s_read
  rw [Option.some.injEq] at inside
  unfold formatSignatureOut
  dsimp only
  rw [derInteger_of_read r_place rest]
  dsimp only
  rw [slice_of_read r_read rest, derInteger_of_read s_place rest]
  dsimp only
  rw [slice_of_read s_read rest]
  exact inside

end Read

section Integers

variable {n : Nat}

theorem beNat_derContent (n : Nat) : beNat (derContent n) = n := by
  unfold derContent
  split
  · exact (beNat_zeros 1 (minimalBytes n)).trans (beNat_minimalBytes n)
  · exact beNat_minimalBytes n

theorem derContent_length (small : n < 2 ^ 256) : (derContent n).length ≤ 33 := by
  have short : (minimalBytes n).length ≤ 32 := minimalBytes_length.mpr (by omega)
  unfold derContent
  split
  · rw [List.length_cons]
    omega
  · omega

/-- 33 bytes begin with the zero of the sign. -/
theorem derContent_sign (small : n < 2 ^ 256) (long : (derContent n).length = 33) :
    derContent n = 0 :: minimalBytes n := by
  have short : (minimalBytes n).length ≤ 32 := minimalBytes_length.mpr (by omega)
  unfold derContent at long ⊢
  split
  · rfl
  · rename_i low
    rw [if_neg low] at long
    omega

/-- **An integer is found behind its length, in at most 32 bytes.** -/
theorem derInteger_found (small : n < 2 ^ 256) (front rest : Bytes) {xoffset : Nat}
    (here : front.length + 1 = xoffset) :
    ∃ offset bs, derIntegerRead (front ++ UInt8.ofNat (derContent n).length :: derContent n ++ rest) xoffset =
        some (offset, bs.length) ∧
      readSlice (front ++ UInt8.ofNat (derContent n).length :: derContent n ++ rest) offset bs.length = some bs ∧
      bs.length ≤ 32 ∧ beNat bs = n ∧ offset + bs.length = xoffset + (derContent n).length := by
  have most := derContent_length small
  have value := beNat_derContent n
  have byte : (UInt8.ofNat (derContent n).length).toNat = (derContent n).length :=
    UInt8.toNat_ofNat_of_lt' (Nat.lt_of_le_of_lt most (by decide))
  have length : (front ++ UInt8.ofNat (derContent n).length :: derContent n ++ rest)[xoffset - 1]? =
      some (UInt8.ofNat (derContent n).length) := by
    subst here
    simp
  have whole : (front ++ UInt8.ofNat (derContent n).length :: derContent n ++ rest).length =
      xoffset + (derContent n).length + rest.length := by
    simp only [List.length_append, List.length_cons]
    omega
  have behind : (front ++ UInt8.ofNat (derContent n).length :: derContent n ++ rest).drop xoffset =
      derContent n ++ rest := by
    subst here
    rw [List.append_assoc, List.cons_append, List.drop_append, List.drop_eq_nil_of_le (by omega), List.nil_append,
      Nat.add_sub_cancel_left, List.drop_succ_cons, List.drop_zero]
  unfold derIntegerRead readSlice
  rw [length, whole]
  dsimp only
  rw [byte]
  by_cases sign : (derContent n).length = 33
  · have content := derContent_sign small sign
    have bytes : (minimalBytes n).length = 32 := by
      rw [content, List.length_cons] at sign
      omega
    refine ⟨xoffset + 1, minimalBytes n, ?_, ?_, by omega, beNat_minimalBytes n, by omega⟩
    · rw [if_pos sign, bytes]
    · rw [if_pos (by omega), ← List.drop_drop, behind, content, List.cons_append, List.drop_succ_cons, List.drop_zero,
        List.take_left' rfl]
  · refine ⟨xoffset, derContent n, ?_, ?_, by omega, value, rfl⟩
    · rw [if_neg sign]
    · rw [if_pos (by omega), behind, List.take_left' rfl]

end Integers

section Signature

/-- A part of what was written is written again. -/
theorem write_part {n : Nat} (b : Buf n) (front old new back : Bytes) (same : new.length = old.length)
    (fits : (front ++ old ++ back).length ≤ n) :
    (b.write 0 (front ++ old ++ back)).write front.length new = b.write 0 (front ++ new ++ back) := by
  have fits' : (front ++ new ++ back).length ≤ n := by
    rw [List.length_append, List.length_append] at fits ⊢
    omega
  have room : front.length + new.length ≤ n := by
    rw [List.length_append, List.length_append] at fits'
    omega
  refine Buf.ext_bytes ?_
  rw [Buf.write_bytes _ _ _ room, Buf.write_bytes _ _ _ (by omega), Buf.write_bytes _ _ _ (by omega)]
  simp only [List.take_zero, List.nil_append, List.append_assoc, Nat.zero_add]
  rw [List.take_left' rfl, ← List.append_assoc front old, List.drop_left' (by rw [List.length_append, same]),
    List.length_append, List.length_append, List.length_append, List.length_append, same]

/-- **Both integers are put into their 32 bytes, and every read is inside the signature.** -/
theorem formatSignatureRead_eq {r s : Nat} (r_small : r < 2 ^ 256) (s_small : s < 2 ^ 256) (out : Buf 260) :
    formatSignatureRead (derSignature r s) out = some (out.write 0 (beBytes 32 r ++ beBytes 32 s)) := by
  have shape : derSignature r s = [0x30, UInt8.ofNat (derEncode r ++ derEncode s).length, 2] ++
      UInt8.ofNat (derContent r).length :: derContent r ++ derEncode s := rfl
  have shape' : derSignature r s = (0x30 :: UInt8.ofNat (derEncode r ++ derEncode s).length :: (derEncode r ++ [2])) ++
      UInt8.ofNat (derContent s).length :: derContent s ++ [] := by
    rw [derSignature, List.append_nil, derEncode, derEncode]
    simp
  obtain ⟨rOffset, rBytes, r_found, r_read, r_short, r_value, r_end⟩ := derInteger_found r_small
    [0x30, UInt8.ofNat (derEncode r ++ derEncode s).length, 2] (derEncode s) (show 3 + 1 = 4 from rfl)
  have next : (0x30 :: UInt8.ofNat (derEncode r ++ derEncode s).length :: (derEncode r ++ [2])).length + 1 =
      rOffset + rBytes.length + 2 := by
    rw [r_end, derEncode]
    simp only [List.length_append, List.length_cons, List.length_nil]
    omega
  obtain ⟨sOffset, sBytes, s_found, s_read, s_short, s_value, -⟩ := derInteger_found s_small
    (0x30 :: UInt8.ofNat (derEncode r ++ derEncode s).length :: (derEncode r ++ [2])) [] next
  rw [← shape] at r_found r_read
  rw [← shape'] at s_found s_read
  have r_padded : beBytes 32 r = List.replicate (32 - rBytes.length) 0 ++ rBytes :=
    beBytes_eq (by rw [List.length_append, List.length_replicate]; omega) (by rw [beNat_zeros, r_value])
  have s_padded : beBytes 32 s = List.replicate (32 - sBytes.length) 0 ++ sBytes :=
    beBytes_eq (by rw [List.length_append, List.length_replicate]; omega) (by rw [beNat_zeros, s_value])
  have zeros : List.replicate 64 (0 : UInt8) = List.replicate (32 - rBytes.length) 0 ++ List.replicate rBytes.length 0 ++
      List.replicate 32 0 := by
    rw [List.replicate_append_replicate, List.replicate_append_replicate]
    congr 1
    omega
  have first := write_part out (List.replicate (32 - rBytes.length) 0) (List.replicate rBytes.length 0) rBytes
    (List.replicate 32 0) (by rw [List.length_replicate]) (by simp; omega)
  rw [← zeros, List.length_replicate, ← r_padded] at first
  have zeros' : beBytes 32 r ++ List.replicate 32 (0 : UInt8) =
      beBytes 32 r ++ List.replicate (32 - sBytes.length) 0 ++ List.replicate sBytes.length 0 ++ [] := by
    rw [List.append_nil, List.append_assoc, List.replicate_append_replicate]
    congr 2
    omega
  have second := write_part out (beBytes 32 r ++ List.replicate (32 - sBytes.length) 0)
    (List.replicate sBytes.length 0) sBytes [] (by rw [List.length_replicate])
    (by simp [beBytes_length]; omega)
  rw [← zeros', List.append_nil, List.append_assoc, ← s_padded, List.length_append, beBytes_length,
    List.length_replicate] at second
  unfold formatSignatureRead
  dsimp only
  rw [r_found]
  dsimp only
  rw [r_read]
  dsimp only
  rw [s_found]
  dsimp only
  rw [s_read]
  dsimp only
  rw [first, show 32 + 32 - sBytes.length = 32 + (32 - sBytes.length) by omega, second]

theorem derContent_length_pos {n : Nat} (positive : 0 < n) : 1 ≤ (derContent n).length := by
  have nonempty := List.length_pos_iff.mpr (minimalBytes_ne_nil positive)
  unfold derContent
  split
  · exact Nat.le_add_left 1 _
  · exact nonempty

/-- **`format_signature_out` inverts DER**, whatever stands in the output and behind the signature. -/
theorem formatSignature_inverts {r s : Nat} (r_some : 0 < r) (r_small : r < 2 ^ 256) (s_some : 0 < s)
    (s_small : s < 2 ^ 256) (out : Buf 260) (rest : Bytes) :
    (1 ≤ (derContent r).length ∧ (derContent r).length ≤ 33) ∧
      (1 ≤ (derContent s).length ∧ (derContent s).length ≤ 33) ∧
      beNat (derContent r) = r ∧ beNat (derContent s) = s ∧
      formatSignatureOut (derSignature r s ++ rest) out = out.write 0 (beBytes 32 r ++ beBytes 32 s) ∧
      formatSignatureRead (derSignature r s) out = some (out.write 0 (beBytes 32 r ++ beBytes 32 s)) ∧
      beNat (beBytes 32 r) = r ∧ beNat (beBytes 32 s) = s := by
  have read := formatSignatureRead_eq r_small s_small out
  have whole {n : Nat} (small : n < 2 ^ 256) : beNat (beBytes 32 n) = n := by
    rw [beNat_beBytes, Nat.mod_eq_of_lt]
    exact Nat.lt_of_lt_of_eq small (by decide)
  exact ⟨⟨derContent_length_pos r_some, derContent_length r_small⟩,
    ⟨derContent_length_pos s_some, derContent_length s_small⟩, beNat_derContent r, beNat_derContent s,
    formatSignatureOut_of_read read rest, read, whole r_small, whole s_small⟩

/-- A short r, and an s with a zero for its sign. -/
theorem formatSignature_inverts_short :
    formatSignatureOut (derSignature 128 (2 ^ 256 - 1) ++ [7, 7]) (Buf.zero 260) =
      (Buf.zero 260).write 0 (beBytes 32 128 ++ beBytes 32 (2 ^ 256 - 1)) :=
  (formatSignature_inverts (by decide) (by decide) (by decide) (by decide) (Buf.zero 260) [7, 7]).2.2.2.2.1

end Signature

end TronLedger
