import FramedLink.Crc
import FramedLink.Error
import FramedLink.MessageType

set_option autoImplicit false
set_option relaxedAutoImplicit false

/-!
# Frame headers

A frame consists of an eight-byte header and a payload. Fields of two bytes are written with
the low byte first:

| bytes | field                                                     |
|-------|-----------------------------------------------------------|
| 0, 1  | length of header and payload together                     |
| 2     | protocol version                                          |
| 3, 4  | sequence number                                           |
| 5     | message type                                              |
| 6, 7  | check over the header, these bytes taken as zero, and the payload |

## Main definitions

* `FramedLink.FrameHeader` — the fields of a header.
* `FramedLink.FrameHeader.toBytes`, `FramedLink.FrameHeader.ofBytes` — the two directions of
  the wire format.
* `FramedLink.FrameHeader.prepare` — the header of the next outbound frame.
* `FramedLink.FrameHeader.verify` — does a payload belong to this header?

## Main results

* `FramedLink.FrameHeader.length_toBytes` — a header takes eight bytes.
-/

namespace FramedLink

/-- The size of a header on the wire, before stuffing. -/
def headerSize : Nat := 8

/-- The only version of the protocol that is spoken. -/
def protocolVersion : UInt8 := 0

/-- The largest payload whose frame length fits into sixteen bits. -/
def maxPayload : Nat := 65535 - headerSize

/-! ## Sixteen-bit fields -/

/-- A sixteen-bit field, the low byte first. -/
def leBytes (n : UInt16) : List UInt8 := [n.toUInt8, (n >>> 8).toUInt8]

/-- The value of a sixteen-bit field from its low and its high byte. -/
def leValue (low high : UInt8) : UInt16 := low.toUInt16 ||| (high.toUInt16 <<< 8)

/-- The value of two bytes, the low one first. -/
theorem toNat_leValue (low high : UInt8) :
    (leValue low high).toNat = low.toNat + 256 * high.toNat := by
  have hlow := low.toNat_lt
  have hhigh := high.toNat_lt
  have hshift : high.toNat <<< 8 % 65536 = high.toNat <<< 8 := by
    rw [Nat.shiftLeft_eq]
    omega
  have hor := Nat.shiftLeft_add_eq_or_of_lt (i := 8) hlow high.toNat
  have hvalue : (leValue low high).toNat = high.toNat <<< 8 ||| low.toNat := by
    simp [leValue, hshift, Nat.or_comm]
  rw [hvalue, ← hor, Nat.shiftLeft_eq]
  omega

/-- The low byte of a number. -/
theorem toNat_lowByte (n : UInt16) : n.toUInt8.toNat = n.toNat % 256 := by simp

/-- The high byte of a number. -/
theorem toNat_highByte (n : UInt16) : (n >>> 8).toUInt8.toNat = n.toNat / 256 := by
  have := n.toNat_lt
  simp [Nat.shiftRight_eq_div_pow]
  omega

/-- The bytes of a field are those it was read from. -/
theorem leBytes_leValue (low high : UInt8) : leBytes (leValue low high) = [low, high] := by
  have hlow := low.toNat_lt
  have hhigh := high.toNat_lt
  have hvalue := toNat_leValue low high
  simp only [leBytes, List.cons.injEq, and_true]
  constructor
  · apply UInt8.toNat_inj.mp
    rw [toNat_lowByte]
    omega
  · apply UInt8.toNat_inj.mp
    rw [toNat_highByte]
    omega

/-- The value of a field is the one it was written with. -/
theorem leValue_leBytes (n : UInt16) : leValue n.toUInt8 (n >>> 8).toUInt8 = n := by
  apply UInt16.toNat_inj.mp
  rw [toNat_leValue, toNat_lowByte, toNat_highByte]
  omega

/-! ## Headers -/

/-- The fields of a frame header. -/
structure FrameHeader where
  /-- The length of header and payload together. -/
  length : UInt16
  /-- The protocol version. -/
  version : UInt8
  /-- The sequence number. -/
  sequence : UInt16
  /-- The kind of the frame. -/
  messageType : MessageType
  /-- The check. -/
  crc : UInt16
  deriving DecidableEq, Repr

namespace FrameHeader

/-- The eight bytes of a header. -/
def toBytes (h : FrameHeader) : List UInt8 :=
  leBytes h.length ++ [h.version] ++ leBytes h.sequence ++ [h.messageType.code] ++ leBytes h.crc

/-- The header behind eight bytes. Bytes that are not there count as zero. -/
def ofBytes (bytes : List UInt8) : FrameHeader where
  length := leValue (bytes.getD 0 0) (bytes.getD 1 0)
  version := bytes.getD 2 0
  sequence := leValue (bytes.getD 3 0) (bytes.getD 4 0)
  messageType := MessageType.ofCode (bytes.getD 5 0)
  crc := leValue (bytes.getD 6 0) (bytes.getD 7 0)

/-- The check that belongs to a header and a payload. The field `crc` of the header itself
counts as zero. -/
def computeCrc (h : FrameHeader) (payload : List UInt8) : UInt16 :=
  Crc.checksum ({ h with crc := 0 }.toBytes ++ payload)

/-- The check of the header is the one that belongs to the payload. -/
def verify (h : FrameHeader) (payload : List UInt8) : Bool := h.crc == h.computeCrc payload

/-- The length of the payload that a header announces, unless its length field is too small for
the header itself. -/
def payloadLength (h : FrameHeader) : Option Nat :=
  if headerSize ≤ h.length.toNat then some (h.length.toNat - headerSize) else none

/-- The header of the next outbound frame, and the sequence number of the frame after it. A
payload that does not fit uses up no number. -/
def prepare (sequence : UInt16) (messageType : MessageType) (payload : List UInt8) :
    Except FrameError FrameHeader × UInt16 :=
  if payload.length > maxPayload then
    (.error (.payloadTooLarge payload.length maxPayload), sequence)
  else
    let blank : FrameHeader :=
      { length := UInt16.ofNat (headerSize + payload.length)
        version := protocolVersion
        sequence
        messageType
        crc := 0 }
    (.ok { blank with crc := blank.computeCrc payload }, sequence + 1)

/-- A header takes eight bytes. -/
@[simp] theorem length_toBytes (h : FrameHeader) : h.toBytes.length = headerSize := rfl

end FrameHeader

end FramedLink
