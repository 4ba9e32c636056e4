set_option autoImplicit false
set_option relaxedAutoImplicit false

/-!
# The cyclic redundancy check of a frame

The check is the remainder of the message, read as a polynomial over the two-element field with
the most significant bit of each byte first and multiplied by `x ^ 16`, modulo
`x ^ 16 + x ^ 12 + x ^ 5 + 1`. It is computed by a sixteen-bit shift register that starts at
zero and takes in one bit at a time.

## Main definitions

* `FramedLink.Crc.feedBit` — one step of the register.
* `FramedLink.Crc.bitsOfByte`, `FramedLink.Crc.bitsOfBytes` — a message as bits.
* `FramedLink.Crc.checksum` — the check of a byte string.

## Main results

* `FramedLink.Crc.feed_append` — the register runs over a message piece by piece.
* `FramedLink.Crc.checksum_eq_foldl` — the check is one run of the register over all bits.
-/

namespace FramedLink.Crc

/-- The register: the coefficients of a polynomial of degree below sixteen. -/
abbrev Register := UInt16

/-- The low coefficients of the generator, `x ^ 12 + x ^ 5 + 1`. -/
def generator : Register := 0x1021

/-- Shift one message bit into the register. The bit meets the coefficient that is shifted out;
when their sum is one, the generator is subtracted. -/
def feedBit (register : Register) (bit : Bool) : Register :=
  let shifted := register <<< 1
  if (decide (0x8000 ≤ register)) != bit then shifted ^^^ generator else shifted

/-- The bits of a byte, the most significant first. -/
def bitsOfByte (b : UInt8) : List Bool :=
  [b &&& 0x80 != 0, b &&& 0x40 != 0, b &&& 0x20 != 0, b &&& 0x10 != 0,
   b &&& 0x08 != 0, b &&& 0x04 != 0, b &&& 0x02 != 0, b &&& 0x01 != 0]

/-- The bits of a byte string, in the order in which the register takes them in. -/
def bitsOfBytes (bytes : List UInt8) : List Bool := bytes.flatMap bitsOfByte

/-- Take in a whole byte. -/
def feedByte (register : Register) (b : UInt8) : Register := (bitsOfByte b).foldl feedBit register

/-- Take in a byte string. -/
def feed (register : Register) (bytes : List UInt8) : Register := bytes.foldl feedByte register

/-- The check of a byte string: the register after all of it, started at zero. -/
def checksum (bytes : List UInt8) : Register := feed 0 bytes

/-- The register runs over a message piece by piece. -/
theorem feed_append (register : Register) (xs ys : List UInt8) :
    feed register (xs ++ ys) = feed (feed register xs) ys := by
  simp [feed]

/-- Feeding bytes is feeding their bits. -/
theorem feed_eq_foldl (register : Register) (bytes : List UInt8) :
    feed register bytes = (bitsOfBytes bytes).foldl feedBit register := by
  induction bytes generalizing register with
  | nil => rfl
  | cons b bytes ih =>
    simp only [feed, List.foldl_cons] at ih ⊢
    simp only [ih, feedByte, bitsOfBytes, List.flatMap_cons, List.foldl_append]

/-- **The check is one run of the register over all bits of the message.** -/
theorem checksum_eq_foldl (bytes : List UInt8) :
    checksum bytes = (bitsOfBytes bytes).foldl feedBit 0 := feed_eq_foldl 0 bytes

end FramedLink.Crc
