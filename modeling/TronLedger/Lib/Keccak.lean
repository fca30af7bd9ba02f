import TronLedger.Lib.Buffer

/-!
# Keccak-256

The original Keccak padding, as Ethereum and TRON use it, on lanes that are naturals below
`2 ^ 64`. Lane `(x, y)` is at index `x + 5 * y`.
-/

namespace TronLedger.Keccak

def rotl (x n : Nat) : Nat := (x <<< n) % 2 ^ 64 ||| (x >>> (64 - n))

def roundConstants : List Nat := [
  0x0000000000000001, 0x0000000000008082, 0x800000000000808a, 0x8000000080008000,
  0x000000000000808b, 0x0000000080000001, 0x8000000080008081, 0x8000000000008009,
  0x000000000000008a, 0x0000000000000088, 0x0000000080008009, 0x000000008000000a,
  0x000000008000808b, 0x800000000000008b, 0x8000000000008089, 0x8000000000008003,
  0x8000000000008002, 0x8000000000000080, 0x000000000000800a, 0x800000008000000a,
  0x8000000080008081, 0x8000000000008080, 0x0000000080000001, 0x8000000080008008]

/-- Rotation of each lane. -/
def rotations : List Nat :=
  [0, 1, 62, 28, 27, 36, 44, 6, 55, 20, 3, 10, 43, 25, 39, 41, 45, 15, 21, 8, 18, 2, 61, 56, 14]

def lane (a : List Nat) (x y : Nat) : Nat := a.getD (x % 5 + 5 * (y % 5)) 0

/-- A state given by its lanes. -/
def lanes (f : Nat → Nat → Nat) : List Nat := (List.range 25).map fun i => f (i % 5) (i / 5)

def theta (a : List Nat) : List Nat :=
  let c := (List.range 5).map fun x =>
    lane a x 0 ^^^ lane a x 1 ^^^ lane a x 2 ^^^ lane a x 3 ^^^ lane a x 4
  let d := (List.range 5).map fun x => c.getD ((x + 4) % 5) 0 ^^^ rotl (c.getD ((x + 1) % 5) 0) 1
  lanes fun x y => lane a x y ^^^ d.getD x 0

/-- Lane `(x, y)` comes from `(x + 3 * y, x)`. -/
def rhoPi (a : List Nat) : List Nat :=
  lanes fun x y => rotl (lane a (x + 3 * y) x) (lane rotations (x + 3 * y) x)

def chi (a : List Nat) : List Nat :=
  lanes fun x y => lane a x y ^^^ ((2 ^ 64 - 1 - lane a (x + 1) y) &&& lane a (x + 2) y)

def iota (rc : Nat) (a : List Nat) : List Nat :=
  match a with
  | [] => []
  | first :: rest => (first ^^^ rc) :: rest

def permute (a : List Nat) : List Nat :=
  roundConstants.foldl (fun a rc => iota rc (chi (rhoPi (theta a)))) a

def leNat (bs : Bytes) : Nat := bs.foldr (fun b acc => b.toNat + 256 * acc) 0

def toLe : Nat → Nat → Bytes
  | 0, _ => []
  | n + 1, value => UInt8.ofNat value :: toLe n (value / 256)

/-- The 17 lanes of a block of 136 bytes. -/
def words : Nat → Bytes → List Nat
  | 0, _ => []
  | n + 1, bs => leNat (bs.take 8) :: words n (bs.drop 8)

def absorbBlock (a : List Nat) (block : Bytes) : List Nat :=
  permute (List.zipWith (· ^^^ ·) a (words 17 block ++ List.replicate 8 0))

/-- `10*1` padding to a multiple of the rate of 136 bytes. -/
def pad (msg : Bytes) : Bytes :=
  let room := 136 - msg.length % 136
  if room = 1 then msg ++ [0x81] else msg ++ [0x01] ++ List.replicate (room - 2) 0 ++ [0x80]

def blocks : Nat → List Nat → Bytes → List Nat
  | 0, a, _ => a
  | n + 1, a, bs => blocks n (absorbBlock a (bs.take 136)) (bs.drop 136)

def hash (msg : Bytes) : Buf 32 :=
  let padded := pad msg
  let state := blocks (padded.length / 136) (List.replicate 25 0) padded
  Buf.ofBytes 32 ((state.take 4).flatMap (toLe 8))

end TronLedger.Keccak
