import TronLedger.Lib.Buffer

/-!
# SHA-256

The hash function in one call, on naturals below `2 ^ 32`.
-/

namespace TronLedger.Sha256

/-- Addition of 32-bit words. -/
def add (a b : Nat) : Nat := (a + b) % 2 ^ 32

def rotr (n x : Nat) : Nat := (x >>> n) ||| (x <<< (32 - n)) % 2 ^ 32

def smallSigma0 (x : Nat) : Nat := rotr 7 x ^^^ rotr 18 x ^^^ (x >>> 3)

def smallSigma1 (x : Nat) : Nat := rotr 17 x ^^^ rotr 19 x ^^^ (x >>> 10)

def bigSigma0 (x : Nat) : Nat := rotr 2 x ^^^ rotr 13 x ^^^ rotr 22 x

def bigSigma1 (x : Nat) : Nat := rotr 6 x ^^^ rotr 11 x ^^^ rotr 25 x

def ch (x y z : Nat) : Nat := (x &&& y) ^^^ ((0xFFFFFFFF - x) &&& z)

def maj (x y z : Nat) : Nat := (x &&& y) ^^^ (x &&& z) ^^^ (y &&& z)

def roundConstants : List Nat := [
  0x428a2f98, 0x71374491, 0xb5c0fbcf, 0xe9b5dba5, 0x3956c25b, 0x59f111f1, 0x923f82a4, 0xab1c5ed5,
  0xd807aa98, 0x12835b01, 0x243185be, 0x550c7dc3, 0x72be5d74, 0x80deb1fe, 0x9bdc06a7, 0xc19bf174,
  0xe49b69c1, 0xefbe4786, 0x0fc19dc6, 0x240ca1cc, 0x2de92c6f, 0x4a7484aa, 0x5cb0a9dc, 0x76f988da,
  0x983e5152, 0xa831c66d, 0xb00327c8, 0xbf597fc7, 0xc6e00bf3, 0xd5a79147, 0x06ca6351, 0x14292967,
  0x27b70a85, 0x2e1b2138, 0x4d2c6dfc, 0x53380d13, 0x650a7354, 0x766a0abb, 0x81c2c92e, 0x92722c85,
  0xa2bfe8a1, 0xa81a664b, 0xc24b8b70, 0xc76c51a3, 0xd192e819, 0xd6990624, 0xf40e3585, 0x106aa070,
  0x19a4c116, 0x1e376c08, 0x2748774c, 0x34b0bcb5, 0x391c0cb3, 0x4ed8aa4a, 0x5b9cca4f, 0x682e6ff3,
  0x748f82ee, 0x78a5636f, 0x84c87814, 0x8cc70208, 0x90befffa, 0xa4506ceb, 0xbef9a3f7, 0xc67178f2]

/-- The chaining value. -/
structure State where
  a : Nat
  b : Nat
  c : Nat
  d : Nat
  e : Nat
  f : Nat
  g : Nat
  h : Nat

def State.initial : State :=
  ⟨0x6a09e667, 0xbb67ae85, 0x3c6ef372, 0xa54ff53a, 0x510e527f, 0x9b05688c, 0x1f83d9ab, 0x5be0cd19⟩

def State.add (s t : State) : State :=
  ⟨Sha256.add s.a t.a, Sha256.add s.b t.b, Sha256.add s.c t.c, Sha256.add s.d t.d,
    Sha256.add s.e t.e, Sha256.add s.f t.f, Sha256.add s.g t.g, Sha256.add s.h t.h⟩

def State.words (s : State) : List Nat := [s.a, s.b, s.c, s.d, s.e, s.f, s.g, s.h]

def round (s : State) (kw : Nat) : State :=
  let t1 := (s.h + bigSigma1 s.e + ch s.e s.f s.g + kw) % 2 ^ 32
  let t2 := bigSigma0 s.a + maj s.a s.b s.c
  ⟨Sha256.add t1 t2, s.a, s.b, s.c, Sha256.add s.d t1, s.e, s.f, s.g⟩

/-- The message schedule, newest word first. -/
def schedule : Nat → List Nat → List Nat
  | 0, ws => ws
  | n + 1, ws =>
    let next := (smallSigma1 (ws.getD 1 0) + ws.getD 6 0 + smallSigma0 (ws.getD 14 0) +
      ws.getD 15 0) % 2 ^ 32
    schedule n (next :: ws)

def compress (s : State) (block : List Nat) : State :=
  let ws := (schedule 48 block.reverse).reverse
  s.add ((List.zipWith (· + ·) roundConstants ws).foldl round s)

/-- `n` big-endian bytes. -/
def toBytes : Nat → Nat → Bytes
  | 0, _ => []
  | n + 1, value => UInt8.ofNat (value / 256 ^ n) :: toBytes n value

/-- A one bit, zeros, and the length in bits, up to a multiple of 64 bytes. -/
def pad (msg : Bytes) : Bytes :=
  msg ++ [0x80] ++ List.replicate ((119 - msg.length % 64) % 64) 0 ++ toBytes 8 (8 * msg.length)

def words : Nat → Bytes → List Nat
  | 0, _ => []
  | n + 1, bs => beNat (bs.take 4) :: words n (bs.drop 4)

def blocks : Nat → State → Bytes → State
  | 0, s, _ => s
  | n + 1, s, bs => blocks n (compress s (words 16 bs)) (bs.drop 64)

def hash (msg : Bytes) : Buf 32 :=
  let padded := pad msg
  Buf.ofBytes 32 ((blocks (padded.length / 64) .initial padded).words.flatMap (toBytes 4))

end TronLedger.Sha256
