import TronLedger.Lib.Base58
import TronLedger.ReviewBuffers

/-!
# Addresses as text

What `getBase58FromAddress` leaves where an address is shown. The terminator goes behind 34
characters: a shorter text ends in what the buffer held before, and a longer one is not written.

* `AddressFits` is the condition under which the text is exact, `getBase58FromAddress_str` says so.
* `addressLines` lists the addresses of a review, each with the buffer it went over.
-/

namespace TronLedger

section

variable {σ κ : Type} (sdk : Sdk σ κ)

/-- The Base58Check text: the address and the head of its double SHA-256. -/
def base58Check (address : Address) : Bytes :=
  Base58.text (address.bytes ++
    (sdk.cxHashSha256 (sdk.cxHashSha256 address.bytes).bytes).bytes.take 4)

/-- What the app relies on: `base58_encode` writes the characters and returns their number, or
fails where they do not fit. -/
def Sdk.EncodesBase58 : Prop := ∀ bs room, sdk.base58Encode bs room = Base58.encode bs room

/-- The text of `address` ends with the terminator: it has 34 characters, or what lay behind its
shorter text in the buffer was a NUL. -/
def AddressFits (address : Address) (old : Bytes) : Prop :=
  (base58Check sdk address).length = 34 ∨
    ((base58Check sdk address).length < 34 ∧ old[(base58Check sdk address).length]? = some 0)

variable {sdk} {n : Nat}

/-- What lies in front of an address stays. -/
theorem getBase58FromAddress_before (encodes : sdk.EncodesBase58) (address : Address) (out : Buf n)
    {off i : Nat} (room : off + 35 ≤ n) (before : i < off) :
    (getBase58FromAddress sdk address out off).bytes[i]? = out.bytes[i]? := by
  simp only [getBase58FromAddress]
  rw [Buf.getElem?_write_of_lt _ _ (by simp; omega) (by omega), encodes, Base58.encode]
  split
  · rename_i long
    split at long
    · rfl
    · simp at long
  · rename_i text fits
    split at fits
    · simp at fits
    · obtain rfl := Option.some.inj fits
      exact Buf.getElem?_write_of_lt _ _ (by omega) before

variable (sdk) in
/-- The terminator stands behind 34 characters, whatever was written. -/
theorem getBase58FromAddress_nul (address : Address) (out : Buf n) {off : Nat} (room : off + 35 ≤ n) :
    (getBase58FromAddress sdk address out off).bytes[off + 34]? = some 0 := by
  have fits : off + 34 + ([0] : Bytes).length ≤ n := by simp; omega
  have inside : 0 < ([0] : Bytes).length := by decide
  exact Buf.getElem?_write_inside _ [0] fits inside

/-- **An address is shown exactly when its text fits.** -/
theorem getBase58FromAddress_str (encodes : sdk.EncodesBase58) (address : Address) (out : Buf n)
    {off : Nat} (room : off + 35 ≤ n) :
    (getBase58FromAddress sdk address out off).str off = base58Check sdk address ↔
      AddressFits sdk address (out.bytes.drop off) := by
  have nonzero : ∀ c ∈ base58Check sdk address, c ≠ 0 := Base58.text_nonzero _
  have nul := getBase58FromAddress_nul sdk address out room
  have written : getBase58FromAddress sdk address out off =
      ((if 34 < (base58Check sdk address).length then out
        else out.write off (base58Check sdk address)).write (off + 34) [0]) := by
    have encoded : sdk.base58Encode (address.bytes ++ (sdk.cxHashSha256 (sdk.cxHashSha256
        address.bytes).bytes).bytes.take 4) 34 =
        if 34 < (base58Check sdk address).length then none else some (base58Check sdk address) :=
      encodes _ _
    by_cases long : 34 < (base58Check sdk address).length
    · rw [if_pos long] at encoded ⊢
      simp only [getBase58FromAddress, encoded]
    · rw [if_neg long] at encoded ⊢
      simp only [getBase58FromAddress, encoded]
  rw [written] at nul ⊢
  rw [AddressFits]
  by_cases long : 34 < (base58Check sdk address).length
  · -- nothing is written
    rw [if_pos long] at nul ⊢
    have short := Buf.str_length_le _ off 34 nul
    constructor
    · intro same
      rw [same] at short
      omega
    · intro fits
      omega
  rw [if_neg long] at nul ⊢
  have fits : off + (base58Check sdk address).length ≤ n := by omega
  have tail : off + 34 + ([0] : Bytes).length ≤ n := by simp; omega
  rw [Buf.str_eq_iff _ off nonzero ?_ (by omega)]
  · by_cases whole : (base58Check sdk address).length = 34
    · rw [whole, nul]
      simp
    · rw [Buf.getElem?_write_of_lt _ _ tail (by omega), Buf.getElem?_write_of_ge _ _ fits (by omega),
        List.getElem?_drop]
      constructor
      · exact fun zero => .inr ⟨by omega, zero⟩
      · rintro (same | ⟨-, zero⟩)
        · exact absurd same whole
        · exact zero
  · intro i inside
    rw [Buf.getElem?_write_of_lt _ _ tail (by omega), Buf.getElem?_write_inside _ _ fits inside]

/-- Different addresses have different texts. -/
theorem base58Check_inj {a b : Address} (same : base58Check sdk a = base58Check sdk b) : a = b := by
  have lengths (address : Address) : (address.bytes ++
      (sdk.cxHashSha256 (sdk.cxHashSha256 address.bytes).bytes).bytes.take 4).length = 25 := by
    simp [address.size, (sdk.cxHashSha256 (sdk.cxHashSha256 address.bytes).bytes).size]
  have payload := Base58.text_inj ((lengths a).trans (lengths b).symm) same
  exact Buf.ext_bytes (List.append_inj_left payload (a.size.trans b.size.symm))

/-- Every address of the main net has a text of 34 characters. -/
theorem base58Check_mainnet {address : Address} (mainnet : address.bytes.head? = some 0x41) :
    (base58Check sdk address).length = 34 := by
  obtain ⟨tail, bytes⟩ := List.head?_eq_some_iff.mp mainnet
  generalize sum : (sdk.cxHashSha256 (sdk.cxHashSha256 address.bytes).bytes).bytes.take 4 = checksum
  have length : (tail ++ checksum).length = 24 := by
    have size := address.size
    rw [bytes] at size
    rw [← sum, List.length_append, List.length_take,
      (sdk.cxHashSha256 (sdk.cxHashSha256 address.bytes).bytes).size]
    simp only [List.length_cons] at size
    omega
  have value : beNat (0x41 :: (tail ++ checksum)) = 65 * 256 ^ 24 + beNat (tail ++ checksum) := by
    rw [← List.singleton_append, beNat_append, length]
    rfl
  have below := beNat_lt (tail ++ checksum)
  rw [length] at below
  rw [base58Check, sum, bytes, List.cons_append]
  refine Base58.text_length ?_ ?_ ?_
  · rw [List.takeWhile_cons_of_neg (by decide)]
  · rw [value]
    have : 58 ^ 33 ≤ 65 * 256 ^ 24 := by decide
    omega
  · rw [value]
    have : 66 * 256 ^ 24 ≤ 58 ^ 34 := by decide
    omega

end

end TronLedger
