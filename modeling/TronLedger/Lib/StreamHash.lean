import Mathlib.Data.List.Induction
import TronLedger.Lib.Buffer

/-!
# Streaming hashes

A hash context absorbs chunks and is finalised once. What a caller relies on is that
the digest depends only on the concatenation of the chunks; nothing is assumed about a
context after it was finalised.
-/

namespace TronLedger

/-- The operations of a hash context of type `σ`. -/
structure StreamHash (σ : Type) where
  /-- the zeroed context, before any initialisation -/
  zeroed : σ
  init : σ
  update : σ → Bytes → σ
  /-- `CX_LAST` with no data: the digest, and the context it leaves -/
  last : σ → Buf 32 × σ

namespace StreamHash

variable {σ : Type} (h : StreamHash σ)

/-- The context after absorbing a list of chunks. -/
def absorb (chunks : List Bytes) : σ := chunks.foldl h.update h.init

/-- The streaming hash computes the function `digest` of the absorbed bytes. -/
def Correct (digest : Bytes → Buf 32) : Prop :=
  ∀ chunks, (h.last (h.absorb chunks)).1 = digest chunks.flatten

theorem absorb_snoc (chunks : List Bytes) (chunk : Bytes) :
    h.absorb (chunks ++ [chunk]) = h.update (h.absorb chunks) chunk := by
  simp [absorb, List.foldl_append]

end StreamHash

/-- The streaming hash that buffers its input and applies `digest` at the end. -/
def bufferedHash (digest : Bytes → Buf 32) : StreamHash Bytes where
  zeroed := []
  init := []
  update ctx chunk := ctx ++ chunk
  last ctx := (digest ctx, ctx)

theorem bufferedHash_absorb (digest : Bytes → Buf 32) (chunks : List Bytes) :
    (bufferedHash digest).absorb chunks = chunks.flatten := by
  induction chunks using List.reverseRecOn with
  | nil => rfl
  | append_singleton chunks chunk ih =>
    rw [StreamHash.absorb_snoc, ih]
    simp [bufferedHash]

theorem bufferedHash_correct (digest : Bytes → Buf 32) : (bufferedHash digest).Correct digest := by
  intro chunks
  rw [bufferedHash_absorb]
  rfl

end TronLedger
