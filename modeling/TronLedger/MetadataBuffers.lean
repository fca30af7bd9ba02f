import TronLedger.ExchangeMetadata
import TronLedger.Lib.Output

/-!
# The buffers of signed metadata

The text that is signed is printed into a buffer on the stack and hashed from there, over a length that
is summed up separately.

* `exchangeMessage_fits`: the text of an exchange is shorter than its buffer.
* `metadata_buffers_exact`: what is hashed is the whole text, for exchanges and for tokens.
-/

namespace TronLedger

open Nanopb Output

/-- The buffer of `parseExchange` and `msg_size`; the number is printed alone first, for its length. -/
def exchangeBuffer (buffer : Output) (details : ExchangeDetails) : Output × Nat :=
  let buffer := buffer.strlcpy (signedDecimal details.exchangeId.toInt64.toInt32.toInt) 90
  let msgSize := (buffer.string 90).length
  let buffer := buffer.strlcpy (exchangeMessage details) 90
  let msgSize := msgSize + ((details.token1Id.str 0).length + (details.token1Name.str 0).length + 1)
  let msgSize := msgSize + ((details.token2Id.str 0).length + (details.token2Name.str 0).length + 1)
  (buffer, msgSize)

/-- What `verifyExchangeID` hashes: its length has eight bits. -/
def exchangeHashed (buffer : Output) (details : ExchangeDetails) : Bytes :=
  let (buffer, msgSize) := exchangeBuffer buffer details
  buffer.bytes (msgSize % 256)

/-- The text that `verifyTokenNameID` signs. -/
def tokenMessage (tokenId tokenName : Bytes) (decimals : UInt8) : Bytes := tokenId ++ tokenName ++ [decimals]

/-- The buffer of `verifyTokenNameID`, and how much of it is hashed; `none` where the texts are too long. -/
def tokenBuffer (buffer : Output) (tokenId tokenName : Bytes) (decimals : UInt8) : Option (Output × Nat) :=
  if 65 < tokenId.length + tokenName.length + 2 then none
  else some (buffer.strlcpy (tokenMessage tokenId tokenName decimals) 65, tokenId.length + tokenName.length + 1)

section Exchange

variable {details : ExchangeDetails}

theorem exchangeMessage_fits (named : details.Named) (first : idSized (details.token1Id.str 0) = true)
    (second : idSized (details.token2Id.str 0) = true) : (exchangeMessage details).length < 90 := by
  have name := str_short details.token1Name named.1
  have name' := str_short details.token2Name named.2
  have number := signedDecimal_short details.exchangeId.toInt64.toInt32
  simp only [idSized, decide_eq_true_eq] at first second
  rw [exchangeMessage_length, exchangeMessageSize]
  omega

theorem signedDecimal_nonzero (i : Int) : ∀ c ∈ signedDecimal i, c ≠ 0 := by
  unfold signedDecimal
  split
  · intro c among
    rcases List.mem_append.mp among with sign | digit
    · rintro rfl
      exact absurd sign (by decide)
    · exact decimal_nonzero _ c digit
  · exact decimal_nonzero _

/-- The length that is summed up is that of the text. -/
theorem exchangeBuffer_size (byte : Nat → UInt8) (details : ExchangeDetails) :
    exchangeBuffer (fresh byte) details =
      (((fresh byte).strlcpy (signedDecimal details.exchangeId.toInt64.toInt32.toInt) 90).strlcpy
        (exchangeMessage details) 90, (exchangeMessage details).length) := by
  have short := signedDecimal_short details.exchangeId.toInt64.toInt32
  have printed := strlcpy_string (signedDecimal_nonzero details.exchangeId.toInt64.toInt32.toInt)
    (show _ < 90 by omega) (within_fresh byte 90)
  have length := printed.1.string (show _ < 90 by omega)
  unfold exchangeBuffer
  dsimp only
  rw [length, exchangeMessage_length, exchangeMessageSize, Nat.add_assoc]

end Exchange

/-- The first `hashed` bytes of a buffer were all written, and are a message that is not cut. -/
structure HashesWhole (buffer : Output) (size hashed : Nat) (message : Bytes) : Prop where
  fits : message.length < size
  within : buffer.Within size
  written : ∀ i < hashed, i ∈ buffer.written
  whole : buffer.bytes hashed = message

/-- A message that fits is printed and hashed whole. -/
theorem strlcpy_hashes {buffer : Output} {size : Nat} {message : Bytes} (fits : message.length < size)
    (within : buffer.Within size) : HashesWhole (buffer.strlcpy message size) size message.length message where
  fits := fits
  within := strlcpy_within within (Nat.lt_of_le_of_lt (Nat.zero_le _) fits)
  written := (strlcpy_holds fits).2
  whole := (strlcpy_holds fits).1.bytes

section Hashed

variable {σ κ : Type} (sdk : Sdk σ κ)

def verifyTokenNameIDIn (buffer : Output) (tokenId tokenName : Bytes) (decimals : UInt8) (signature : Bytes) : Bool :=
  match tokenBuffer buffer tokenId tokenName decimals with
  | none => false
  | some (buffer, hashed) => sdk.ecdsaVerify tokenPublicKey (sdk.cxHashSha256 (buffer.bytes hashed)) signature

theorem tokenBuffer_hashes (byte : Nat → UInt8) {tokenId tokenName : Bytes} (decimals : UInt8)
    (short : tokenId.length + tokenName.length + 2 ≤ 65) :
    ∃ buffer, tokenBuffer (fresh byte) tokenId tokenName decimals =
        some (buffer, (tokenMessage tokenId tokenName decimals).length) ∧
      HashesWhole buffer 65 (tokenMessage tokenId tokenName decimals).length
        (tokenMessage tokenId tokenName decimals) := by
  have length : (tokenMessage tokenId tokenName decimals).length = tokenId.length + tokenName.length + 1 := by
    rw [tokenMessage, List.length_append, List.length_append, List.length_singleton]
  refine ⟨_, ?_, strlcpy_hashes (by omega) (within_fresh byte 65)⟩
  rw [tokenBuffer, if_neg (Nat.not_lt_of_le short), length]

/-- What stands in the buffer before does not matter. -/
theorem verifyTokenNameIDIn_eq (byte : Nat → UInt8) (tokenId tokenName : Bytes) (decimals : UInt8) (signature : Bytes) :
    verifyTokenNameIDIn sdk (fresh byte) tokenId tokenName decimals signature =
      verifyTokenNameID sdk tokenId tokenName decimals signature := by
  unfold verifyTokenNameIDIn verifyTokenNameID
  by_cases long : 65 < tokenId.length + tokenName.length + 2
  · rw [if_pos long, tokenBuffer, if_pos long]
  · obtain ⟨buffer, printed, hashes⟩ := tokenBuffer_hashes byte decimals (Nat.le_of_not_lt long)
    rw [if_neg long, printed]
    dsimp only
    rw [hashes.whole, tokenMessage]

end Hashed

/-- **What is hashed is the whole text of the metadata, in front of a byte to spare.** -/
theorem metadata_buffers_exact :
    (∀ (data : Bytes) (details : ExchangeDetails) (byte : Nat → UInt8), DecodesExchange data details →
      idSized (details.token1Id.str 0) = true → idSized (details.token2Id.str 0) = true →
      HashesWhole (exchangeBuffer (fresh byte) details).1 90 (exchangeBuffer (fresh byte) details).2
          (exchangeMessage details) ∧
        (exchangeBuffer (fresh byte) details).2 < 2 ^ 8 ∧
        exchangeHashed (fresh byte) details = exchangeMessage details ∧
        exchangeSigned details = exchangeMessage details) ∧
    ∀ (data : Bytes) (details : TokenDetails) (tokenId : Bytes) (byte : Nat → UInt8), DecodesToken data details →
      tokenId.length + (details.name.str 0).length + 2 ≤ 65 →
      (∃ buffer hashed, tokenBuffer (fresh byte) tokenId (details.name.str 0) details.precision.toUInt8 =
          some (buffer, hashed) ∧
        HashesWhole buffer 65 hashed (tokenMessage tokenId (details.name.str 0) details.precision.toUInt8)) ∧
      ∀ (σ κ : Type) (sdk : Sdk σ κ) (signature : Bytes),
        verifyTokenNameIDIn sdk (fresh byte) tokenId (details.name.str 0) details.precision.toUInt8 signature =
          verifyTokenNameID sdk tokenId (details.name.str 0) details.precision.toUInt8 signature := by
  constructor
  · intro data details byte decoded first second
    have named := exchangeDetails_named decoded
    have fits := exchangeMessage_fits named first second
    have printed := exchangeBuffer_size byte details
    have within : ((fresh byte).strlcpy (signedDecimal details.exchangeId.toInt64.toInt32.toInt) 90).Within 90 :=
      strlcpy_within (within_fresh byte 90) (by decide)
    have hashes := strlcpy_hashes fits within
    rw [exchangeHashed, printed]
    refine ⟨hashes, by omega, ?_, exchangeSigned_eq named first second⟩
    dsimp only
    rw [Nat.mod_eq_of_lt (by omega)]
    exact hashes.whole
  · intro data details tokenId byte _ short
    obtain ⟨buffer, printed, hashes⟩ := tokenBuffer_hashes byte details.precision.toUInt8 short
    exact ⟨⟨buffer, _, printed, hashes⟩, fun σ κ sdk => verifyTokenNameIDIn_eq sdk byte _ _ _⟩

/-- An exchange of a token without decimals, and a token without decimals. -/
theorem metadata_buffers_exact_zero :
    exchangeHashed (fresh fun _ => 7) (exchangeDetails (pairDetails [0])) = exchangeMessage (exchangeDetails (pairDetails [0])) ∧
    ∃ buffer hashed, tokenBuffer (fresh fun _ => 7) (ascii "1000001")
        ((decodedToken (tokenDetails (ascii "Coin"))).name.str 0) (decodedToken (tokenDetails (ascii "Coin"))).precision.toUInt8 =
          some (buffer, hashed) ∧
      HashesWhole buffer 65 hashed (tokenMessage (ascii "1000001")
        ((decodedToken (tokenDetails (ascii "Coin"))).name.str 0)
        (decodedToken (tokenDetails (ascii "Coin"))).precision.toUInt8) := by
  have decoded : DecodesToken (tokenDetails (ascii "Coin")) (decodedToken (tokenDetails (ascii "Coin"))) := by
    have accepted : (pbDecode TokenDetails.fields (pbIstreamFromBuffer (tokenDetails (ascii "Coin"))) default).1.isSome = true := by
      decide +kernel
    obtain ⟨rest, found⟩ := Option.isSome_iff_exists.mp accepted
    exact ⟨rest, Prod.ext found rfl⟩
  exact ⟨(metadata_buffers_exact.1 _ _ _ (decodesExchange (pairDetails [0]) (by decide +kernel)) (by decide +kernel)
      (by decide +kernel)).2.2.1,
    (metadata_buffers_exact.2 _ _ (ascii "1000001") (fun _ => 7) decoded (by decide +kernel)).1⟩

end TronLedger
