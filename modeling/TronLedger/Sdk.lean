import TronLedger.Lib.StreamHash

/-!
# The device SDK

What the app calls outside its own sources: hashing, key derivation, signatures, the Base58
encoder and the hexadecimal formatter. They are parameters of the model; results that rely on
their documented behaviour say so in a hypothesis.
-/

namespace TronLedger

/-- `σ` and `κ` are the context types of the streaming SHA-256 and Keccak-256. -/
structure Sdk (σ κ : Type) where
  sha256 : StreamHash σ
  keccak256 : StreamHash κ
  /-- `cx_hash_sha256`, in one call -/
  cxHashSha256 : Bytes → Buf 32
  /-- Keccak-256 in one call -/
  cxHashKeccak256 : Bytes → Buf 32
  /-- `base58_encode(in, |in|, out, outLen)`: the characters written, or `none` on error -/
  base58Encode : Bytes → Nat → Option Bytes
  /-- `format_hex(in, |in|, out, outLen)`: the characters written in front of the NUL, or `none`
  on error -/
  formatHex : Bytes → Nat → Option Bytes
  /-- `bip32_derive_get_pubkey_256`: public key and chain code -/
  derivePublicKey : List UInt32 → Option (Buf 65 × Buf 32)
  /-- `bip32_derive_ecdsa_sign_rs_hash_256`: `r`, `s` and whether the parity is odd -/
  signHash : List UInt32 → Buf 32 → Option (Buf 32 × Buf 32 × Bool)
  /-- `cx_ecdsa_sign_no_throw` with the key at a path: the DER signature and the parity -/
  signHashDer : List UInt32 → Buf 32 → Option (Buf 100 × Bool)
  /-- `cx_ecdh_no_throw` with the key at a path, as an uncompressed point -/
  ecdh : List UInt32 → Bytes → Option (Buf 65)
  /-- `cx_ecdsa_verify_no_throw` of a hash and a signature under a public key -/
  ecdsaVerify : Bytes → Buf 32 → Bytes → Bool
  /-- what the stack holds where a local array that is never initialised lies, at a time and a
  call -/
  residue : Nat → Nat → Buf 35

section Hex

variable {σ κ : Type} (sdk : Sdk σ κ)

/-- The text `format_hex` writes where it has the room. -/
def Sdk.hexText (bs : Bytes) : Bytes := (sdk.formatHex bs (2 * bs.length + 1)).getD []

/-- What the app relies on: `format_hex` writes two characters for each byte, none of them NUL,
where they and the terminator fit, and different bytes have different texts. -/
structure Sdk.FormatsHex : Prop where
  fits : ∀ bs room, 2 * bs.length < room → sdk.formatHex bs room = some (sdk.hexText bs)
  length : ∀ bs, (sdk.hexText bs).length = 2 * bs.length
  nonzero : ∀ bs, ∀ c ∈ sdk.hexText bs, c ≠ 0
  inj : ∀ bs cs, sdk.hexText bs = sdk.hexText cs → bs = cs

/-- `format_hex(bs, |bs|, out + offset, room)`, whose return value is not looked at. -/
def Sdk.putHex {n : Nat} (out : Buf n) (offset : Nat) (bs : Bytes) (room : Nat) : Buf n :=
  match sdk.formatHex bs room with
  | none => out
  | some text => out.strcpy offset text

theorem Sdk.FormatsHex.put {sdk : Sdk σ κ} (formats : sdk.FormatsHex) {n : Nat} (out : Buf n) (offset : Nat)
    (bs : Bytes) {room : Nat} (fits : 2 * bs.length < room) :
    sdk.putHex out offset bs room = out.strcpy offset (sdk.hexText bs) := by
  rw [Sdk.putHex, formats.fits bs room fits]

/-- A text that `format_hex` wrote is read back. -/
theorem Sdk.FormatsHex.put_str {sdk : Sdk σ κ} (formats : sdk.FormatsHex) {n : Nat} (out : Buf n) (offset : Nat)
    (bs : Bytes) {room : Nat} (fits : 2 * bs.length < room) (inside : offset + room ≤ n) :
    (sdk.putHex out offset bs room).str offset = sdk.hexText bs := by
  rw [formats.put out offset bs fits]
  exact Buf.str_strcpy _ offset _ (formats.nonzero bs) (by rw [formats.length]; omega)

end Hex

end TronLedger
