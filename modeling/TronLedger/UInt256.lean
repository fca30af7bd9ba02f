import TronLedger.Lib.Buffer

/-!
# 128-bit and 256-bit integers

The limb arithmetic of `uint256.c` that the app's printing of amounts rests on. Targets are
returned: this is what a call computes where its target is apart from its operands, and
`UInt256Memory` has the calls with a target that is one of them.
-/

namespace TronLedger

structure UInt128 where
  upper : UInt64
  lower : UInt64
  deriving DecidableEq, Inhabited, Repr

structure UInt256 where
  upper : UInt128
  lower : UInt128
  deriving DecidableEq, Inhabited, Repr

def readUint64BE (buffer : Bytes) : UInt64 :=
  buffer.foldl (fun acc b => (acc <<< 8) ||| b.toUInt64) 0

def readu128BE (buffer : Bytes) : UInt128 :=
  ⟨readUint64BE (buffer.take 8), readUint64BE ((buffer.drop 8).take 8)⟩

def readu256BE (buffer : Bytes) : UInt256 :=
  ⟨readu128BE (buffer.take 16), readu128BE (buffer.drop 16)⟩

/-- `data` is right-aligned in 32 zero bytes. -/
def convertUint256BE (data : Bytes) : UInt256 :=
  readu256BE (overwrite (List.replicate 32 0) (32 - data.length) data)

namespace UInt128

def zero : UInt128 := ⟨0, 0⟩

def one : UInt128 := ⟨0, 1⟩

/-- `zero128` -/
def isZero (n : UInt128) : Bool := n.lower = 0 && n.upper = 0

def shiftl (n : UInt128) (value : Nat) : UInt128 :=
  if 128 ≤ value then zero
  else if value = 64 then ⟨n.lower, 0⟩
  else if value = 0 then n
  else if value < 64 then
    ⟨(n.upper <<< UInt64.ofNat value) + (n.lower >>> UInt64.ofNat (64 - value)),
      n.lower <<< UInt64.ofNat value⟩
  else ⟨n.lower <<< UInt64.ofNat (value - 64), 0⟩

def shiftr (n : UInt128) (value : Nat) : UInt128 :=
  if 128 ≤ value then zero
  else if value = 64 then ⟨0, n.upper⟩
  else if value = 0 then n
  else if value < 64 then
    ⟨n.upper >>> UInt64.ofNat value,
      (n.upper <<< UInt64.ofNat (64 - value)) + (n.lower >>> UInt64.ofNat value)⟩
  else ⟨0, n.upper >>> UInt64.ofNat (value - 64)⟩

/-- The loop of `bits128` on one limb; `fuel` bounds its width. -/
def limbBits : Nat → UInt64 → Nat
  | 0, _ => 0
  | fuel + 1, limb => if limb = 0 then 0 else limbBits fuel (limb >>> 1) + 1

def bits (n : UInt128) : Nat :=
  if n.upper ≠ 0 then 64 + limbBits 64 n.upper else limbBits 64 n.lower

def gt (a b : UInt128) : Bool :=
  if a.upper = b.upper then b.lower < a.lower else b.upper < a.upper

def gte (a b : UInt128) : Bool := gt a b || a = b

def add (a b : UInt128) : UInt128 :=
  ⟨a.upper + b.upper + (if a.lower + b.lower < a.lower then 1 else 0), a.lower + b.lower⟩

def minus (a b : UInt128) : UInt128 :=
  ⟨a.upper - b.upper - (if a.lower < a.lower - b.lower then 1 else 0), a.lower - b.lower⟩

def or (a b : UInt128) : UInt128 := ⟨a.upper ||| b.upper, a.lower ||| b.lower⟩

end UInt128

namespace UInt256

def zero : UInt256 := ⟨.zero, .zero⟩

def one : UInt256 := ⟨.zero, .one⟩

/-- `zero256` -/
def isZero (n : UInt256) : Bool := n.lower.isZero && n.upper.isZero

def shiftl (n : UInt256) (value : Nat) : UInt256 :=
  if 256 ≤ value then zero
  else if value = 128 then ⟨n.lower, .zero⟩
  else if value = 0 then n
  else if value < 128 then
    ⟨(n.upper.shiftl value).add (n.lower.shiftr (128 - value)), n.lower.shiftl value⟩
  else ⟨n.lower.shiftl (value - 128), .zero⟩

def shiftr (n : UInt256) (value : Nat) : UInt256 :=
  if 256 ≤ value then zero
  else if value = 128 then ⟨.zero, n.upper⟩
  else if value = 0 then n
  else if value < 128 then
    ⟨n.upper.shiftr value, (n.lower.shiftr value).add (n.upper.shiftl (128 - value))⟩
  else ⟨.zero, n.upper.shiftr (value - 128)⟩

/-- The loop of `bits256` on one half; `fuel` bounds its width. -/
def halfBits : Nat → UInt128 → Nat
  | 0, _ => 0
  | fuel + 1, half => if half.isZero then 0 else halfBits fuel (half.shiftr 1) + 1

def bits (n : UInt256) : Nat :=
  if !n.upper.isZero then 128 + halfBits 128 n.upper else halfBits 128 n.lower

def gt (a b : UInt256) : Bool :=
  if a.upper = b.upper then a.lower.gt b.lower else a.upper.gt b.upper

def gte (a b : UInt256) : Bool := gt a b || a = b

def add (a b : UInt256) : UInt256 :=
  let upper := a.upper.add b.upper
  ⟨if a.lower.gt (a.lower.add b.lower) then upper.add .one else upper, a.lower.add b.lower⟩

def minus (a b : UInt256) : UInt256 :=
  let upper := a.upper.minus b.upper
  ⟨if (a.lower.minus b.lower).gt a.lower then upper.minus .one else upper,
    a.lower.minus b.lower⟩

def or (a b : UInt256) : UInt256 := ⟨a.upper.or b.upper, a.lower.or b.lower⟩

/-- The `while` loop of `divmod256`: `copyd` and `adder` shrink by one bit a turn. -/
def divmodLoop (r : UInt256) : Nat → UInt256 → UInt256 → UInt256 → UInt256 → UInt256 × UInt256
  | 0, _, _, resDiv, resMod => (resDiv, resMod)
  | fuel + 1, copyd, adder, resDiv, resMod =>
    if resMod.gte r then
      if resMod.gte copyd then
        divmodLoop r fuel (copyd.shiftr 1) (adder.shiftr 1) (resDiv.or adder) (resMod.minus copyd)
      else divmodLoop r fuel (copyd.shiftr 1) (adder.shiftr 1) resDiv resMod
    else (resDiv, resMod)

/-- Quotient and remainder; the loop runs at most once for each bit. -/
def divmod (l r : UInt256) : UInt256 × UInt256 :=
  let diffBits := l.bits - r.bits
  if r.gt l then (zero, l)
  else
    let copyd := r.shiftl diffBits
    let adder := one.shiftl diffBits
    if copyd.gt l then divmodLoop r 257 (copyd.shiftr 1) (adder.shiftr 1) zero l
    else divmodLoop r 257 copyd adder zero l

def hexDigits : Bytes := ascii "0123456789abcdef"

/-- The `do` loop of `tostring256`: digits are produced from the least significant on, and
`out` holds them most significant first, as `reverseString` leaves them. -/
def tostringLoop (base : UInt256) (outLength : Nat) : Nat → UInt256 → Bytes → Bool × Bytes
  | 0, _, out => (false, out.reverse)
  | fuel + 1, rDiv, out =>
    if outLength - 1 < out.length then (false, out.reverse)
    else
      let (quotient, rMod) := rDiv.divmod base
      let out := hexDigits.getD (rMod.lower.lower.toNat % 256) 0 :: out
      if quotient.isZero then (true, out) else tostringLoop base outLength fuel quotient out

/-- `tostring256` for an `outLength` of at least one: its verdict and the characters left in
`out`. When the digits do not fit, those written stay, least significant first. -/
def tostring (number : UInt256) (baseParam : Nat) (outLength : Nat) : Bool × Bytes :=
  if baseParam < 2 ∨ 16 < baseParam then (false, [])
  else tostringLoop ⟨.zero, ⟨0, UInt64.ofNat baseParam⟩⟩ outLength 257 number []

end UInt256

end TronLedger
