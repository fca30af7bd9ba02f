import TronLedger.Lib.Buffer

/-!
# Amounts as text

`adjustDecimals` and `print_amount` of `parse.c`, and the decimal conversions of the C
library that the app uses. Texts are returned without their NUL.
-/

namespace TronLedger

/-- `%u` and `%llu` -/
def decimal (n : Nat) : Bytes := ascii (String.ofList (Nat.toDigits 10 n))

/-- `%d` and `%lld` -/
def signedDecimal (i : Int) : Bytes :=
  if i < 0 then ascii "-" ++ decimal i.natAbs else decimal i.natAbs

def hexDigit (n : Nat) : UInt8 := (ascii "0123456789abcdef").getD n 0

/-- `%08x` -/
def hex32 (n : UInt32) : Bytes :=
  (List.range 8).map fun i => hexDigit (n.toNat / 16 ^ (7 - i) % 16)

/-- The last loop of `adjustDecimals`, from offset `i` on: where the zeros that end the text
begin, or 0 when it does not end in zeros. -/
def lastZeroOffset : Bytes → Nat → Nat → Nat
  | [], _, last => last
  | c :: cs, i, last =>
    if c = 48 then lastZeroOffset cs (i + 1) (if last = 0 then i else last)
    else lastZeroOffset cs (i + 1) 0

/-- Cut the zeros that end `text` at or behind `startOffset`, and the point they leave. -/
def trimZeros (text : Bytes) (startOffset : Nat) : Bytes :=
  let last := lastZeroOffset (text.drop startOffset) startOffset 0
  if last = 0 then text
  else if text.getD (last - 1) 0 = 46 then text.take (last - 1)
  else text.take last

/-- The text `adjustDecimals` leaves in `target`, or `none` where it returns false. -/
def adjustDecimals (src : Bytes) (targetLength : Nat) (decimals : Nat) : Option Bytes :=
  if src = [48] then
    if targetLength < 2 then none else some [48]
  else if src.length ≤ decimals then
    let delta := decimals - src.length
    if targetLength < src.length + 1 + 2 + delta then none
    else
      let lead := ascii "0." ++ List.replicate delta 48
      some (trimZeros (lead ++ src) lead.length)
  else
    let delta := src.length - decimals
    if targetLength < src.length + 1 + 1 then none
    else
      let lead := src.take delta ++ (if decimals ≠ 0 then ascii "." else [])
      some (trimZeros (lead ++ src.drop delta) lead.length)

/-- The first loop of `print_amount`: `base` is the largest power of ten not above `amount`. -/
def amountBase (amount : UInt64) : Nat → UInt64 → Nat → UInt64 × Nat
  | 0, base, numDigits => (base, numDigits)
  | fuel + 1, base, numDigits =>
    if base ≤ amount / 10 then amountBase amount fuel (base * 10) (numDigits + 1)
    else (base, numDigits)

/-- The second loop of `print_amount`. -/
def amountDigits (amount : UInt64) : Nat → UInt64 → Bytes
  | 0, _ => []
  | n + 1, base => (48 + (amount / base % 10).toUInt8) :: amountDigits amount n (base / 10)

/-- What `print_amount` leaves in `out`; `none` where it throws `E_INCORRECT_LENGTH`. -/
def printAmount (amount : UInt64) (outlen : Nat) (sun : Nat) : Option Bytes :=
  let (base, numDigits) :=
    if 0 < amount then
      let (base, n) := amountBase amount 20 1 0
      (base, n + 1)
    else (1, 0)
  if 19 < numDigits then none
  else
    match adjustDecimals (amountDigits amount numDigits base) 25 sun with
    | none => some []
    | some text => if text.length < outlen - 1 then some text else some []

example : printAmount 1500000 100 6 = some (ascii "1.5") := by decide
example : printAmount 0 100 6 = some (ascii "0.000000") := by decide
example : printAmount 10000000000000000000 100 6 = none := by decide

end TronLedger
