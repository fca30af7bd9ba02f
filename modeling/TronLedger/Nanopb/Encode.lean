import TronLedger.Nanopb.Decode
import TronLedger.Lib.Base128

/-!
# nanopb message encoding

`pb_encode.c`: the writers, and the encoders of the field types that occur in the generated
descriptors.

* An `Ostream` keeps what was written; the sizing stream of `pb_encode_submessage` has no
  buffer, and nothing it is given is read back.
* An encoder that cannot fail but by a full stream does what one `pb_write` of its bytes does.
-/

namespace TronLedger.Nanopb

/-- `pb_ostream_t`; `maxSize` is `none` where there is no callback, and only the size counts. -/
structure Ostream where
  maxSize : Option Nat
  written : Bytes
  deriving DecidableEq

def pbOstreamFromBuffer (bufsize : Nat) : Ostream := ⟨some bufsize, []⟩

/-- `PB_OSTREAM_SIZING` -/
def Ostream.sizing : Ostream := ⟨none, []⟩

/-- More than the stream has room for. -/
def Ostream.full (stream : Ostream) (count : Nat) : Bool :=
  0 < count ∧ stream.maxSize.any fun max => max < stream.written.length + count

abbrev Encoder := Ostream → Option Ostream

def pbWrite (buf : Bytes) : Encoder := fun stream =>
  if stream.full buf.length then none else some { stream with written := stream.written ++ buf }

/-- The loop of `pb_encode_varint_32` over the low word: what goes to its buffer, what is left
of the word and the byte to come. `room` is what is left of four turns. -/
def varint32Low : Nat → UInt32 → UInt32 → UInt8 → Bytes × UInt32 × UInt8
  | 0, low, _, byte => ([], low, byte)
  | room + 1, low, high, byte =>
    if low ≠ 0 ∨ high ≠ 0 then
      let (buffer, low, last) := varint32Low room (low >>> 7) high (low &&& 0x7F).toUInt8
      ((byte ||| 0x80) :: buffer, low, last)
    else ([], low, byte)

/-- The loop over the high word; 29 bits of it take at most five turns. -/
def varint32High : Nat → UInt32 → UInt8 → Bytes × UInt8
  | 0, _, byte => ([], byte)
  | turns + 1, high, byte =>
    if high ≠ 0 then
      let (buffer, last) := varint32High turns (high >>> 7) (high &&& 0x7F).toUInt8
      ((byte ||| 0x80) :: buffer, last)
    else ([], byte)

/-- The bytes `pb_encode_varint_32` collects. -/
def varint32Bytes (low high : UInt32) : Bytes :=
  let (buffer, _, byte) := varint32Low 4 (low >>> 7) high (low &&& 0x7F).toUInt8
  if high ≠ 0 then
    let byte := byte ||| ((high &&& 0x07) <<< 4).toUInt8
    let (rest, byte) := varint32High 5 (high >>> 3) byte
    buffer ++ rest ++ [byte]
  else buffer ++ [byte]

def pbEncodeVarint32 (low high : UInt32) : Encoder := pbWrite (varint32Bytes low high)

def pbEncodeVarint (value : UInt64) : Encoder :=
  if value ≤ 0x7F then pbWrite [value.toUInt8]
  else pbEncodeVarint32 value.toUInt32 (value >>> 32).toUInt32

/-- `pb_wire_type_t` of what is encoded -/
inductive EncodedType
  | varint
  | string
  deriving DecidableEq

def EncodedType.bits : EncodedType → UInt64
  | .varint => 0
  | .string => 2

def pbEncodeTag (wiretype : EncodedType) (fieldNumber : UInt32) : Encoder :=
  pbEncodeVarint ((fieldNumber.toUInt64 <<< 3) ||| wiretype.bits)

/-- One encoder behind the other, as long as none fails. -/
def Encoder.andThen (first next : Encoder) : Encoder := fun stream => (first stream).bind next

/-- `pb_encode_string` -/
def pbEncodeString (buffer : Bytes) : Encoder :=
  (pbEncodeVarint (UInt64.ofNat buffer.length)).andThen (pbWrite buffer)

/-- `pb_encode_submessage`: the size first, with a stream that only counts. -/
def pbEncodeSubmessage (encode : Encoder) : Encoder := fun stream =>
  match encode .sizing with
  | none => none
  | some counted =>
    let size := counted.written.length
    match pbEncodeVarint (UInt64.ofNat size) stream with
    | none => none
    | some stream =>
      match stream.maxSize with
      | none => pbWrite counted.written stream
      | some max =>
        if max < stream.written.length + size then none
        else
          match encode (pbOstreamFromBuffer size) with
          | none => none
          | some substream =>
            -- "submsg size changed"
            if substream.written.length ≠ size then none
            else some { stream with written := stream.written ++ substream.written }

section Fields

variable {σ τ : Type}

/-- `pb_msgdesc_t`, as `pb_encode` walks it: the fields in the order of their numbers. -/
abbrev Layout (σ : Type) := List (σ → Encoder)

/-- `pb_encode` -/
def pbEncode : Layout σ → σ → Encoder
  | [], _ => some
  | field :: fields, src => (field src).andThen (pbEncode fields src)

/-- `encode_field` of an integer: the default 0 is not written. -/
def encodeVarint (tag : UInt32) (get : σ → UInt64) (src : σ) : Encoder :=
  if get src = 0 then some
  else (pbEncodeTag .varint tag).andThen (pbEncodeVarint (get src))

/-- A length-delimited field that is written even when empty. -/
def encodeString (tag : UInt32) (content : Bytes) : Encoder :=
  (pbEncodeTag .string tag).andThen (pbEncodeString content)

/-- INT64 -/
def encodeInt64 (tag : UInt32) (get : σ → Int64) : σ → Encoder := encodeVarint tag fun src => (get src).toUInt64

/-- INT32, sign-extended -/
def encodeInt32 (tag : UInt32) (get : σ → Int32) : σ → Encoder :=
  encodeVarint tag fun src => (get src).toInt64.toUInt64

/-- UINT32 and UENUM -/
def encodeUint32 (tag : UInt32) (get : σ → UInt32) : σ → Encoder := encodeVarint tag fun src => (get src).toUInt64

/-- BOOL -/
def encodeBool (tag : UInt32) (get : σ → Bool) : σ → Encoder := encodeVarint tag fun src => if get src then 1 else 0

/-- FIXED_LENGTH_BYTES, never the default -/
def encodeFixedLengthBytes {n : Nat} (tag : UInt32) (get : σ → Buf n) (src : σ) : Encoder :=
  encodeString tag (get src).bytes

/-- BYTES -/
def encodeBytes {n : Nat} (tag : UInt32) (get : σ → PbBytes n) (src : σ) : Encoder :=
  if (get src).size = 0 then some
  else if n < (get src).size then fun _ => none
  else encodeString tag (get src).content

/-- MESSAGE, when it is marked as present -/
def encodeOptional (tag : UInt32) (has : σ → Bool) (fields : Layout τ) (get : σ → τ) (src : σ) : Encoder :=
  if has src then
    (pbEncodeTag .string tag).andThen (pbEncodeSubmessage (pbEncode fields (get src)))
  else some

/-- The entries of a repeated message, one after the other. -/
def encodeEntries (tag : UInt32) (fields : Layout τ) : List τ → Encoder
  | [] => some
  | entry :: entries =>
    ((pbEncodeTag .string tag).andThen (pbEncodeSubmessage (pbEncode fields entry))).andThen
      (encodeEntries tag fields entries)

/-- `encode_array` of messages -/
def encodeRepeated (tag : UInt32) (max : Nat) (fields : Layout τ) (get : σ → List τ) (src : σ) : Encoder :=
  if max < (get src).length then fun _ => none else encodeEntries tag fields (get src)

/-- A callback field that writes `content`, or whose `funcs.encode` is NULL. -/
def encodeCallback (tag : UInt32) (content : σ → Option Bytes) (src : σ) : Encoder :=
  match content src with
  | none => some
  | some content => encodeString tag content

end Fields

end TronLedger.Nanopb
