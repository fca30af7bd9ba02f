import TronLedger.AppMain
import TronLedger.Lib.Keccak
import TronLedger.Lib.Sha256
import TronLedger.Lib.Base58

/-!
# A device to run the app on

The SDK with its real hash functions, Base58 encoder and hexadecimal formatter. Keys and signatures are
stand-ins: no result about the app depends on their values.
-/

namespace TronLedger

section Hex

/-- The digits of `format_hex`. -/
def upperDigit (n : Nat) : UInt8 := (ascii "0123456789ABCDEF").getD n 0

def upperHex (bs : Bytes) : Bytes := bs.flatMap fun b => [upperDigit (b.toNat / 16), upperDigit (b.toNat % 16)]

theorem upperHex_cons (b : UInt8) (bs : Bytes) :
    upperHex (b :: bs) = upperDigit (b.toNat / 16) :: upperDigit (b.toNat % 16) :: upperHex bs := rfl

theorem upperDigit_inj : ∀ n < 16, ∀ m < 16, upperDigit n = upperDigit m → n = m := by decide +kernel

theorem upperHex_inj {bs cs : Bytes} (same : upperHex bs = upperHex cs) : bs = cs := by
  induction bs generalizing cs with
  | nil =>
    cases cs with
    | nil => rfl
    | cons c cs => simp [upperHex] at same
  | cons b bs ih =>
    cases cs with
    | nil => simp [upperHex] at same
    | cons c cs =>
      simp only [upperHex_cons, List.cons.injEq] at same
      obtain ⟨high, low, rest⟩ := same
      have below := b.toNat_lt
      have below' := c.toNat_lt
      have high := upperDigit_inj _ (by omega) _ (by omega) high
      have low := upperDigit_inj _ (by omega) _ (by omega) low
      rw [UInt8.toNat_inj.mp (show b.toNat = c.toNat by omega), ih rest]

theorem upperHex_length (bs : Bytes) : (upperHex bs).length = 2 * bs.length := by
  induction bs with
  | nil => rfl
  | cons b bs ih =>
    rw [upperHex_cons, List.length_cons, List.length_cons, List.length_cons, ih]
    omega

theorem upperHex_nonzero (bs : Bytes) : ∀ c ∈ upperHex bs, c ≠ 0 := by
  have digit : ∀ d : Fin 16, upperDigit d.val ≠ 0 := by decide
  intro c among
  obtain ⟨b, -, among⟩ := List.mem_flatMap.mp among
  have small := b.toNat_lt
  rcases List.mem_pair.mp among with rfl | rfl
  · exact digit ⟨b.toNat / 16, by omega⟩
  · exact digit ⟨b.toNat % 16, by omega⟩

end Hex

/-- The device, and a key that signs everything with the hash itself. -/
def device : Sdk Bytes Bytes where
  sha256 := bufferedHash Sha256.hash
  keccak256 := bufferedHash Keccak.hash
  cxHashSha256 := Sha256.hash
  cxHashKeccak256 := Keccak.hash
  base58Encode := Base58.encode
  formatHex bs room := if 2 * bs.length < room then some (upperHex bs) else none
  derivePublicKey _ := some (Buf.ofBytes 65 [4], Buf.zero 32)
  signHash _ hash := some (hash, hash, false)
  signHashDer _ _ := some (Buf.zero 100, false)
  ecdh _ _ := some (Buf.zero 65)
  ecdsaVerify _ _ _ := true
  residue _ _ := Buf.zero 35

theorem device_sha256 : device.sha256.Correct Sha256.hash := bufferedHash_correct _

theorem device_keccak256 : device.keccak256.Correct Keccak.hash := bufferedHash_correct _

theorem device_hexText (bs : Bytes) : device.hexText bs = upperHex bs := by
  simp [Sdk.hexText, device]

theorem device_formatsHex : device.FormatsHex where
  fits bs room fits := by
    rw [device_hexText]
    exact if_pos fits
  length bs := by rw [device_hexText, upperHex_length]
  nonzero bs := by
    rw [device_hexText]
    exact upperHex_nonzero bs
  inj bs cs same := by
    rw [device_hexText, device_hexText] at same
    exact upperHex_inj same

/-- Four bytes, as `bytes_to_string` writes them into sixteen. -/
example : (bytesToString device (Buf.zero 16) 0 16 [0xde, 0xad, 0xbe, 0xef]).str 0 = ascii "0xDEADBEEF" := by
  decide +kernel

/-- The address `T9yD14Nj9j7xAB4dbGeiX9h8unkKHxuWwb` of the all-zero account. -/
example : (getBase58FromAddress device (Address.ofNat (0x41 * 256 ^ 20)) (Buf.zero 35) 0).str 0 =
    ascii "T9yD14Nj9j7xAB4dbGeiX9h8unkKHxuWwb" := by decide +kernel

def deviceVersion : AppVersion := ⟨0, 0, 0⟩

/-- All settings on, no contacts, started by the user. -/
def deviceBoot : Boot where
  settings := ⟨true, true, true⟩
  contacts := []
  calledFromSwap := false
  swapValidated := default

def command (ins p1 p2 : UInt8) (data : Bytes) (short : data.length < 256 := by decide) : Event :=
  .apdu ⟨Ins.cla, ins, p1, p2, data, short⟩

theorem noData_short : ([] : Bytes).length < 256 := by decide

/-- `44'/195'/account'` as it is sent. -/
def pathBytes (account : UInt8) : Bytes :=
  [3, 0x80, 0, 0, 0x2c, 0x80, 0, 0, 0xc3, 0x80, 0, 0, account]

/-- A length-delimited field of a message. -/
def delimitedField (number : UInt8) (content : Bytes) : Bytes :=
  [number * 8 + 2, UInt8.ofNat content.length] ++ content

/-- The contract field of a transaction: the type, and the parameter in its `Any`. -/
def contractField (type : UInt8) (parameter : Bytes) : Bytes :=
  delimitedField 11 ([0x08, type] ++ delimitedField 2 (delimitedField 2 parameter))

def sampleAccount (tail : UInt8) : Bytes := 0x41 :: List.replicate 19 0 ++ [tail]

/-- A transfer of 1.5 TRX. -/
def sampleTransfer : Bytes :=
  contractField 1 (delimitedField 1 (sampleAccount 1) ++ delimitedField 2 (sampleAccount 2) ++
    [0x18, 0xe0, 0xc6, 0x5b])

/-- The APDU data of `sampleTransfer` with its path. -/
theorem sampleTransfer_short : (pathBytes 0 ++ sampleTransfer).length < 256 := by decide

/-- The review that a trace ends with, and what came before it. -/
def lastReview : List Effect → Option (Review × List Effect)
  | .review r :: older => some (r, older)
  | _ => none

theorem lastReview_eq {trace older : List Effect} {r : Review}
    (found : lastReview trace = some (r, older)) : trace = .review r :: older := by
  unfold lastReview at found
  split at found
  · obtain ⟨rfl, rfl⟩ := Prod.mk.inj (Option.some.inj found)
    rfl
  · simp at found

section Runs

variable (guard : World Bytes Bytes → Event → Bool)

/-- A run that is computed to end with a review. -/
theorem exists_review (es : List Event) (p : Review → List Effect → Bool)
    (computed : (exec (step device deviceVersion) guard (boot device deviceBoot) es).any (fun w =>
      (lastReview w.trace).any fun found => p found.1 found.2) = true) :
    ∃ w r older, AppRun device deviceVersion guard deviceBoot es w ∧ w.trace = .review r :: older ∧
      p r older = true := by
  obtain ⟨w, run, reviewed⟩ := Run.exists_of_exec _ _ _ es _ computed
  rw [Option.any_eq_true] at reviewed
  obtain ⟨⟨r, older⟩, found, holds⟩ := reviewed
  exact ⟨w, r, older, run, lastReview_eq found, holds⟩

/-- A run, and one more event that is computed to start a review. -/
theorem exists_review_step (es : List Event) (e : Event) (p : Review → List Effect → Bool)
    (computed : (exec (step device deviceVersion) guard (boot device deviceBoot) es).any (fun w =>
      (step device deviceVersion w e).any fun w' =>
        (lastReview w'.trace).any fun found => p found.1 found.2) = true) :
    ∃ w w' r older, AppRun device deviceVersion guard deviceBoot es w ∧
      step device deviceVersion w e = some w' ∧ w'.trace = .review r :: older ∧ p r older = true := by
  obtain ⟨w, run, reviewed⟩ := Run.exists_of_exec _ _ _ es _ computed
  rw [Option.any_eq_true] at reviewed
  obtain ⟨w', stepped, reviewed⟩ := reviewed
  rw [Option.any_eq_true] at reviewed
  obtain ⟨⟨r, older⟩, found, holds⟩ := reviewed
  exact ⟨w, w', r, older, run, stepped, lastReview_eq found, holds⟩

end Runs

end TronLedger
