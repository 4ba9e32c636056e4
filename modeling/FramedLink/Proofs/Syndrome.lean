import FramedLink.Proofs.HeaderCodec
import FramedLink.Proofs.Remainder

set_option autoImplicit false
set_option relaxedAutoImplicit false

/-!
# Which bit errors go unnoticed

A frame is looked at here as its header and payload in one byte string, before stuffing. On its way
some of its bits may be flipped. The receiver reads a header from the first eight bytes and compares
its check with the one that belongs to the header and the bytes behind it. Bits are counted from the
most significant bit of the first byte, which is bit `0`. The check is found in the bits `48` to
`63`.

The check stands in the middle of a frame, its low byte first, and counts as zero in its own
computation. If it is moved to the end, high byte first, and zeros take its place, then a frame
passes its check exactly if the generator divides its polynomial. This polynomial is linear in the
bits of the frame. **So a mask of bit errors goes unnoticed exactly if the generator divides the
polynomial of the mask,** whatever the frame is.

## Main definitions

* `FramedLink.distort`, `FramedLink.flipBit` — a byte string with some of its bits flipped.
* `FramedLink.weight` — the number of bits that a mask flips.
* `FramedLink.intact` — does a received frame pass its check?
* `FramedLink.arranged` — a frame with its check at the end.
* `FramedLink.syndrome` — the value at a point of the polynomial of the arranged frame.

## Main results

* `FramedLink.intact_iff` — when a frame passes its check.
* `FramedLink.syndrome_distort` — the syndrome of a distorted frame is a sum.
* `FramedLink.intact_distort_iff` — which masks of bit errors go unnoticed.
* `FramedLink.exists_prepared`, `FramedLink.exists_prepared_distort_iff` — a prepared frame passes
  its check, and what the receiver says of it after bit errors.
-/

namespace FramedLink

/-! ## Frames with bit errors -/

/-- A byte string in which the bits are flipped that are set in the mask. -/
def distort (mask bytes : List UInt8) : List UInt8 := List.zipWith (· ^^^ ·) mask bytes

/-- The number of bits that are set. -/
def weight (mask : List UInt8) : Nat := (Crc.bitsOfBytes mask).count true

/-- A byte string with one bit flipped. -/
def flipBit (i : Nat) (bytes : List UInt8) : List UInt8 :=
  bytes.modify (i / 8) (· ^^^ (0x80 >>> UInt8.ofNat (i % 8)))

/-- A received frame passes its check: the header behind its first eight bytes belongs to the bytes
that follow. -/
def intact (frame : List UInt8) : Bool :=
  (FrameHeader.ofBytes (frame.take headerSize)).verify (frame.drop headerSize)

/-- Flipping a bit adds no byte and takes none. -/
@[simp] theorem length_flipBit (i : Nat) (bytes : List UInt8) :
    (flipBit i bytes).length = bytes.length := by
  simp [flipBit]

/-- A distorted byte string keeps its length. -/
theorem length_distort {mask bytes : List UInt8} (h : mask.length = bytes.length) :
    (distort mask bytes).length = bytes.length := by
  simp [distort, h]

/-! ## Frames with their check at the end -/

open Crc Polynomial

variable {mask frame : List UInt8}

/-- A frame with its check at the end, the high byte first, and zeros in its place. -/
def arranged : List UInt8 → List UInt8
  | l₀ :: l₁ :: v :: s₀ :: s₁ :: t :: low :: high :: payload =>
    l₀ :: l₁ :: v :: s₀ :: s₁ :: t :: 0 :: 0 :: payload ++ [high, low]
  | short => short

/-- A frame that holds a header, byte by byte. -/
lemma exists_eq_cons (h : headerSize ≤ frame.length) :
    ∃ l₀ l₁ v s₀ s₁ t low high payload,
      frame = l₀ :: l₁ :: v :: s₀ :: s₁ :: t :: low :: high :: payload := by
  rcases frame with _ | ⟨l₀, _ | ⟨l₁, _ | ⟨v, _ | ⟨s₀, _ | ⟨s₁, _ | ⟨t, _ | ⟨low, _ |
    ⟨high, payload⟩⟩⟩⟩⟩⟩⟩⟩
  case cons => exact ⟨l₀, l₁, v, s₀, s₁, t, low, high, payload, rfl⟩
  all_goals simp [headerSize] at h

/-- Two bytes are added to a frame when it is arranged. -/
lemma length_arranged (h : headerSize ≤ frame.length) :
    (arranged frame).length = frame.length + 2 := by
  obtain ⟨_, _, _, _, _, _, _, _, payload, rfl⟩ := exists_eq_cons h
  simp [arranged]

/-! ## Frames that pass their check -/

/-- The receiver compares the check with that of the other bytes. -/
lemma intact_cons (l₀ l₁ v s₀ s₁ t low high : UInt8) (payload : List UInt8) :
    intact (l₀ :: l₁ :: v :: s₀ :: s₁ :: t :: low :: high :: payload) =
      (leValue low high == checksum (l₀ :: l₁ :: v :: s₀ :: s₁ :: t :: 0 :: 0 :: payload)) := by
  set header := FrameHeader.ofBytes [l₀, l₁, v, s₀, s₁, t, low, high] with hheader
  have hblank : { header with crc := 0 }.toBytes = [l₀, l₁, v, s₀, s₁, t, 0, 0] := by
    have hbytes : { header with crc := 0 }.toBytes = leBytes (leValue l₀ l₁) ++ [v] ++
        leBytes (leValue s₀ s₁) ++ [(MessageType.ofCode t).code] ++ leBytes 0 := rfl
    rw [hbytes, leBytes_leValue, leBytes_leValue, MessageType.code_ofCode]
    rfl
  have hintact : intact (l₀ :: l₁ :: v :: s₀ :: s₁ :: t :: low :: high :: payload) =
      header.verify payload := rfl
  rw [hintact, FrameHeader.verify, FrameHeader.computeCrc, hblank]
  rfl

/-- The length of a frame. -/
lemma length_toBytes_append (header : FrameHeader) (payload : List UInt8) :
    (header.toBytes ++ payload).length = headerSize + payload.length := by
  rw [List.length_append, FrameHeader.length_toBytes]

/-- A header passes in front of the payload that it belongs to. -/
lemma intact_toBytes (header : FrameHeader) (payload : List UInt8) :
    intact (header.toBytes ++ payload) = header.verify payload := by
  have hbytes : header.toBytes ++ payload = header.length.toUInt8 ::
      (header.length >>> 8).toUInt8 :: header.version :: header.sequence.toUInt8 ::
      (header.sequence >>> 8).toUInt8 :: header.messageType.code :: header.crc.toUInt8 ::
      (header.crc >>> 8).toUInt8 :: payload := rfl
  have hblank : { header with crc := 0 }.toBytes ++ payload = header.length.toUInt8 ::
      (header.length >>> 8).toUInt8 :: header.version :: header.sequence.toUInt8 ::
      (header.sequence >>> 8).toUInt8 :: header.messageType.code :: 0 :: 0 :: payload := by
    simp [FrameHeader.toBytes, leBytes]
  rw [hbytes, intact_cons, leValue_leBytes, FrameHeader.verify, FrameHeader.computeCrc, hblank]

/-- The bits of a field of two bytes, the most significant first. -/
lemma registerBits_leValue (low high : UInt8) :
    registerBits (leValue low high) = bitsOfBytes [high, low] := by
  have hbytes := leBytes_leValue low high
  obtain ⟨hlow, hrest⟩ := List.cons.inj hbytes
  obtain ⟨hhigh, -⟩ := List.cons.inj hrest
  rw [registerBits, hlow, hhigh]

/-- The value at `x` of the polynomial of the arranged frame. -/
def syndrome {R : Type*} [Semiring R] (x : R) (frame : List UInt8) : R :=
  evaluate x (bitsOfBytes (arranged frame))

/-- The syndrome modulo the generator is zero exactly if the generator divides the polynomial. -/
lemma syndrome_root_eq_zero_iff :
    syndrome root frame = 0 ↔ generatorPolynomial ∣ syndrome X frame := by
  rw [syndrome, evaluate_root, AdjoinRoot.mk_eq_zero]
  rfl

/-- **A frame passes its check exactly if its syndrome modulo the generator is zero.** -/
theorem intact_iff (hsize : headerSize ≤ frame.length) :
    intact frame = true ↔ syndrome root frame = 0 := by
  obtain ⟨l₀, l₁, v, s₀, s₁, t, low, high, payload, rfl⟩ := exists_eq_cons hsize
  set message := l₀ :: l₁ :: v :: s₀ :: s₁ :: t :: 0 :: 0 :: payload with hmessage
  have hsyndrome : syndrome root (l₀ :: l₁ :: v :: s₀ :: s₁ :: t :: low :: high :: payload) =
      evaluate root (registerBits (checksum message)) +
        evaluate root (registerBits (leValue low high)) := by
    have harranged : arranged (l₀ :: l₁ :: v :: s₀ :: s₁ :: t :: low :: high :: payload) =
        message ++ [high, low] := rfl
    rw [evaluate_checksum root_pow_sixteen, registerBits_leValue, syndrome, harranged,
      bitsOfBytes_append, evaluate_append]
    rfl
  rw [intact_cons, beq_iff_eq, hsyndrome, CharTwo.add_eq_zero, evaluate_root_inj]
  exact eq_comm

/-- A frame that was prepared for sending passes its check. -/
theorem exists_prepared (sequence : UInt16) (messageType : MessageType) {payload : List UInt8}
    (hfits : payload.length ≤ maxPayload) :
    ∃ header, FrameHeader.prepare sequence messageType payload = (.ok header, sequence + 1) ∧
      intact (header.toBytes ++ payload) = true := by
  obtain ⟨header, hprepare, hdescribes⟩ := FrameHeader.prepare_of_fits sequence messageType hfits
  exact ⟨header, hprepare, (intact_toBytes header payload).trans hdescribes.verified⟩

/-! ## Distortion -/

/-- A mask is added bit by bit. -/
lemma bitsOfBytes_distort {bytes : List UInt8} (h : mask.length = bytes.length) :
    bitsOfBytes (distort mask bytes) = List.zipWith xor (bitsOfBytes mask) (bitsOfBytes bytes) := by
  induction mask generalizing bytes with
  | nil => simp [distort, bitsOfBytes]
  | cons a mask ih =>
    rcases bytes with _ | ⟨b, bytes⟩
    · cases h
    have hlen : mask.length = bytes.length := by simpa using h
    have hdistort : distort (a :: mask) (b :: bytes) = (a ^^^ b) :: distort mask bytes := rfl
    have hbyte : (bitsOfByte a).length = (bitsOfByte b).length := rfl
    rw [hdistort, bitsOfBytes_cons, bitsOfBytes_cons, bitsOfBytes_cons, bitsOfByte_xor, ih hlen,
      List.zipWith_append hbyte]

/-- The mask of a frame is arranged like the frame. -/
lemma arranged_distort (h : mask.length = frame.length) (hsize : headerSize ≤ frame.length) :
    arranged (distort mask frame) = distort (arranged mask) (arranged frame) := by
  obtain ⟨_, _, _, _, _, _, _, _, payload, rfl⟩ := exists_eq_cons hsize
  obtain ⟨_, _, _, _, _, _, _, _, rest, rfl⟩ := exists_eq_cons (h ▸ hsize)
  have hlen : rest.length = payload.length := by simpa using h
  simp [distort, arranged, List.zipWith_append hlen]

/-- **The syndrome of a distorted frame is the sum of those of the mask and of the frame.** -/
theorem syndrome_distort {R : Type*} [CommRing R] [CharP R 2] (x : R)
    (h : mask.length = frame.length) (hsize : headerSize ≤ frame.length) :
    syndrome x (distort mask frame) = syndrome x mask + syndrome x frame := by
  have hlen : (arranged mask).length = (arranged frame).length := by
    rw [length_arranged hsize, length_arranged (h ▸ hsize), h]
  rw [syndrome, arranged_distort h hsize, bitsOfBytes_distort hlen,
    evaluate_zipWith x (by simp [hlen])]
  rfl

/-- **A mask of bit errors goes unnoticed exactly if the generator divides its polynomial.** -/
theorem intact_distort_iff (hintact : intact frame = true) (h : mask.length = frame.length)
    (hsize : headerSize ≤ frame.length) :
    intact (distort mask frame) = true ↔ generatorPolynomial ∣ syndrome X mask := by
  have hdistorted : headerSize ≤ (distort mask frame).length := by rwa [length_distort h]
  rw [intact_iff hdistorted, syndrome_distort root h hsize, (intact_iff hsize).mp hintact, add_zero,
    syndrome_root_eq_zero_iff]

/-- What the receiver says of a prepared frame with bit errors. -/
theorem exists_prepared_distort_iff (sequence : UInt16) (messageType : MessageType)
    {payload : List UInt8} (hfits : payload.length ≤ maxPayload) :
    ∃ header, FrameHeader.prepare sequence messageType payload = (.ok header, sequence + 1) ∧
      ∀ mask, mask.length = headerSize + payload.length →
        (intact (distort mask (header.toBytes ++ payload)) = true ↔
          generatorPolynomial ∣ syndrome X mask) := by
  obtain ⟨header, hprepare, hintact⟩ := exists_prepared sequence messageType hfits
  refine ⟨header, hprepare, fun mask hmask => ?_⟩
  have hlength := length_toBytes_append header payload
  exact intact_distort_iff hintact (hmask.trans hlength.symm) (by omega)

end FramedLink
