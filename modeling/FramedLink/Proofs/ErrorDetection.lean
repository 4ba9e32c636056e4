import FramedLink.Proofs.Syndrome
import Mathlib.Algebra.Ring.Parity

set_option autoImplicit false
set_option relaxedAutoImplicit false

/-!
# Odd errors and short bursts

The generator has an even number of terms, so its value at `1` is zero, and so is that of each of
its multiples: **an odd number of flipped bits never goes unnoticed.** The generator has degree
sixteen and no factor `x`, so it divides no polynomial of a smaller degree, however far this is
shifted: **a burst of at most sixteen bits outside the check never goes unnoticed.**

## Main results

* `FramedLink.even_weight_of_dvd` — a multiple of the generator has an even number of terms.
* `FramedLink.odd_weight_detected` — an odd number of flipped bits is noticed.
* `FramedLink.evaluate_of_span` — a burst is a short polynomial times a power of `x`.
* `FramedLink.burst_detected` — a short burst outside the check is noticed.
-/

namespace FramedLink

open Crc Polynomial

variable {mask : List UInt8}

/-! ## An odd number of flipped bits -/

/-- An empty mask flips no bit. -/
@[simp] lemma weight_nil : weight [] = 0 := rfl

/-- A mask flips the bits of its first byte and those of the others. -/
@[simp] lemma weight_cons (b : UInt8) (mask : List UInt8) :
    weight (b :: mask) = (bitsOfByte b).count true + weight mask := by
  rw [weight, bitsOfBytes_cons, List.count_append, weight]

/-- Two masks, one behind the other, flip the bits of both. -/
lemma weight_append (xs ys : List UInt8) : weight (xs ++ ys) = weight xs + weight ys := by
  rw [weight, bitsOfBytes_append, List.count_append, weight, weight]

/-- Arranging a mask moves its bits and adds none. -/
lemma weight_arranged (hsize : headerSize ≤ mask.length) :
    weight (arranged mask) = weight mask := by
  obtain ⟨_, _, _, _, _, _, _, _, payload, rfl⟩ := exists_eq_cons hsize
  have hzero : (bitsOfByte 0).count true = 0 := rfl
  simp only [arranged, weight_append, weight_cons, weight_nil, hzero]
  omega

/-- **A multiple of the generator has an even number of terms.** -/
theorem even_weight_of_dvd (hsize : headerSize ≤ mask.length)
    (h : generatorPolynomial ∣ syndrome X mask) : Even (weight mask) := by
  obtain ⟨q, hq⟩ := h
  have hgenerator : eval 1 generatorPolynomial = 0 := by
    simp [generatorPolynomial]
    decide
  have hvalue : eval 1 (syndrome X mask) = (weight mask : ZMod 2) := by
    have hmap := map_evaluate (evalRingHom (1 : ZMod 2)) X (bitsOfBytes (arranged mask))
    rw [coe_evalRingHom, eval_X] at hmap
    rw [syndrome, hmap, evaluate_one, ← weight_arranged hsize, weight]
  rw [hq, eval_mul, hgenerator, zero_mul] at hvalue
  exact (ZMod.natCast_eq_zero_iff_even).mp hvalue.symm

/-- **An odd number of flipped bits is noticed,** in the header, in the check and in the payload. -/
theorem odd_weight_detected (sequence : UInt16) (messageType : MessageType)
    {payload mask : List UInt8} (hfits : payload.length ≤ maxPayload)
    (hmask : mask.length = headerSize + payload.length) (hodd : Odd (weight mask)) :
    ∃ header, FrameHeader.prepare sequence messageType payload = (.ok header, sequence + 1) ∧
      intact (distort mask (header.toBytes ++ payload)) = false := by
  obtain ⟨header, hprepare, hiff⟩ := exists_prepared_distort_iff sequence messageType hfits
  refine ⟨header, hprepare, ?_⟩
  rw [← Bool.not_eq_true, hiff mask hmask]
  intro hdvd
  exact Nat.not_even_iff_odd.mpr hodd (even_weight_of_dvd (by omega) hdvd)

/-- A mask that flips a bit of the sequence number, a bit of the check and a bit of the payload. -/
def tripleError : List UInt8 := [0, 0, 0, 0x80, 0, 0, 0, 1, 0, 0x10]

/-- Three flipped bits of an acknowledgement are noticed. -/
theorem tripleError_detected :
    ∃ header, FrameHeader.prepare 0xFFFF .ack [7, 0] = (.ok header, 0) ∧
      intact (distort tripleError (header.toBytes ++ [7, 0])) = false :=
  odd_weight_detected 0xFFFF .ack (by decide) rfl (by decide)

/-! ## Bursts -/

/-- The class of the variable can be inverted, since the generator has no factor `x`. -/
lemma isUnit_root : IsUnit root := by
  refine IsUnit.of_mul_eq_one (root ^ 15 + root ^ 11 + root ^ 4) ?_
  have htwice : (root ^ 12 + root ^ 5) + (root ^ 12 + root ^ 5) = 0 := CharTwo.add_self_eq_zero _
  linear_combination root_pow_sixteen + htwice

/-- If all set bits lie in a span, the polynomial is that of the span times a power of `x`.

**Proof sketch.** Split the bits into those before the span, those in it and those behind it. The
first and the last part are zero, but the last one shifts the span. -/
lemma evaluate_of_span {R : Type*} [Semiring R] (x : R) {bits : List Bool} {start length : Nat}
    (h : ∀ i, bits[i]? = some true → start ≤ i ∧ i < start + length) :
    evaluate x bits =
      evaluate x ((bits.drop start).take length) * x ^ (bits.length - (start + length)) := by
  have hbefore : true ∉ bits.take start := by
    intro hmem
    obtain ⟨i, hi⟩ := List.mem_iff_getElem?.mp hmem
    rw [List.getElem?_take] at hi
    split at hi
    · have := h i hi
      omega
    · cases hi
  have hbehind : true ∉ bits.drop (start + length) := by
    intro hmem
    obtain ⟨i, hi⟩ := List.mem_iff_getElem?.mp hmem
    rw [List.getElem?_drop] at hi
    have := h _ hi
    omega
  have hsplit : bits = bits.take start ++
      ((bits.drop start).take length ++ bits.drop (start + length)) := by
    rw [← List.drop_drop, List.take_append_drop, List.take_append_drop]
  conv_lhs => rw [hsplit]
  rw [evaluate_append, evaluate_append, evaluate_of_not_mem x hbefore,
    evaluate_of_not_mem x hbehind, List.length_drop, zero_mul, zero_add, add_zero]

/-- If all set bits lie in a span and there is one, then one is set in the span. -/
lemma mem_of_span {bits : List Bool} {start length : Nat} (hset : true ∈ bits)
    (h : ∀ i, bits[i]? = some true → start ≤ i ∧ i < start + length) :
    true ∈ (bits.drop start).take length := by
  obtain ⟨i, hi⟩ := List.mem_iff_getElem?.mp hset
  obtain ⟨hfrom, hto⟩ := h i hi
  refine List.mem_iff_getElem?.mpr ⟨i - start, ?_⟩
  rw [List.getElem?_take, if_pos (by omega), List.getElem?_drop, ← hi]
  congr 1
  omega

/-- If no bit of the check is set, arranging a mask only adds two zero bytes behind it.

**Proof sketch.** The bits of the check are those from 48 to 63. None of them is set, so both of its
bytes are zero, and to arrange the mask moves these two zeros behind the rest. -/
lemma arranged_of_check (hsize : headerSize ≤ mask.length)
    (hcheck : ∀ i, (bitsOfBytes mask)[i]? = some true → i < 48 ∨ 64 ≤ i) :
    arranged mask = mask ++ [0, 0] := by
  obtain ⟨l₀, l₁, v, s₀, s₁, t, low, high, payload, rfl⟩ := exists_eq_cons hsize
  have hclear : true ∉ bitsOfBytes [low, high] := by
    intro hmem
    obtain ⟨i, hi⟩ := List.mem_iff_getElem?.mp hmem
    have hlt : i < 16 := (List.getElem?_eq_some_iff.mp hi).1
    have hsplit : bitsOfBytes (l₀ :: l₁ :: v :: s₀ :: s₁ :: t :: low :: high :: payload) =
        bitsOfBytes [l₀, l₁, v, s₀, s₁, t] ++ (bitsOfBytes [low, high] ++ bitsOfBytes payload) :=
      rfl
    have hbit : (bitsOfBytes (l₀ :: l₁ :: v :: s₀ :: s₁ :: t :: low :: high :: payload))[48 + i]? =
        some true := by
      rw [hsplit, List.getElem?_append_right (by simp),
        List.getElem?_append_left (by simpa using hlt)]
      simpa using hi
    have := hcheck _ hbit
    omega
  rw [← registerBits_leValue high low] at hclear
  have hbytes := leBytes_leValue high low
  rw [eq_zero_of_registerBits hclear] at hbytes
  obtain ⟨rfl, hrest⟩ := List.cons.inj hbytes
  obtain ⟨rfl, -⟩ := List.cons.inj hrest
  simp [arranged]

/-- **A mask whose set bits lie in a short span outside the check is no multiple of the generator.**

**Proof sketch.** The polynomial of the mask is that of the span times a power of `x`. The class of
`x` can be inverted, so if the generator divides the one, it divides the other. But this has a
degree below sixteen and is not zero. -/
theorem not_dvd_of_burst {start length : Nat} (hsize : headerSize ≤ mask.length)
    (hset : 0 < weight mask) (hlength : length ≤ 16)
    (hspan : ∀ i, start ≤ i → i < start + length → i < 48 ∨ 64 ≤ i)
    (hburst : ∀ i, (bitsOfBytes mask)[i]? = some true → start ≤ i ∧ i < start + length) :
    ¬ generatorPolynomial ∣ syndrome X mask := by
  set bits := bitsOfBytes mask with hbits
  have harranged : arranged mask = mask ++ [0, 0] :=
    arranged_of_check hsize fun i hi => hspan i (hburst i hi).1 (hburst i hi).2
  have hsyndrome : syndrome root mask = evaluate root ((bits.drop start).take length) *
      root ^ (bits.length - (start + length)) * root ^ 16 := by
    have hzero : evaluate root (bitsOfBytes [0, 0]) = 0 := evaluate_of_not_mem root (by decide)
    rw [syndrome, harranged, bitsOfBytes_append, evaluate_append, hzero, ← hbits,
      evaluate_of_span root hburst, add_zero]
    rfl
  have hmem : true ∈ (bits.drop start).take length :=
    mem_of_span (List.count_pos_iff.mp hset) hburst
  have hshort : ((bits.drop start).take length).length ≤ 16 := by
    rw [List.length_take]
    omega
  rw [← syndrome_root_eq_zero_iff, hsyndrome, (isUnit_root.pow 16).mul_left_eq_zero,
    (isUnit_root.pow _).mul_left_eq_zero, evaluate_root_eq_zero_iff hshort]
  exact not_not_intro hmem

/-- **A burst of at most sixteen bits outside the check is noticed.** The set bits of the mask lie
in a span of at most sixteen bits, none of which belongs to the check. -/
theorem burst_detected (sequence : UInt16) (messageType : MessageType)
    {payload mask : List UInt8} {start length : Nat} (hfits : payload.length ≤ maxPayload)
    (hmask : mask.length = headerSize + payload.length) (hset : 0 < weight mask)
    (hlength : length ≤ 16) (hspan : ∀ i, start ≤ i → i < start + length → i < 48 ∨ 64 ≤ i)
    (hburst : ∀ i, (bitsOfBytes mask)[i]? = some true → start ≤ i ∧ i < start + length) :
    ∃ header, FrameHeader.prepare sequence messageType payload = (.ok header, sequence + 1) ∧
      intact (distort mask (header.toBytes ++ payload)) = false := by
  obtain ⟨header, hprepare, hiff⟩ := exists_prepared_distort_iff sequence messageType hfits
  refine ⟨header, hprepare, ?_⟩
  rw [← Bool.not_eq_true, hiff mask hmask]
  exact not_dvd_of_burst (by omega) hset hlength hspan hburst

/-- A mask with a burst of sixteen bits, from the bit `70` to the bit `85`. -/
def payloadBurst : List UInt8 := [0, 0, 0, 0, 0, 0, 0, 0, 0x02, 0x41, 0x04]

/-- A burst across three bytes of a payload is noticed. -/
theorem payloadBurst_detected :
    ∃ header, FrameHeader.prepare 7 .flashUpload [1, 0x73, 0xFF] = (.ok header, 8) ∧
      intact (distort payloadBurst (header.toBytes ++ [1, 0x73, 0xFF])) = false := by
  have hwithin : ∀ i < 88, (bitsOfBytes payloadBurst)[i]? = some true → 70 ≤ i ∧ i < 70 + 16 := by
    decide
  refine burst_detected 7 .flashUpload (by decide) rfl (by decide) (Nat.le_refl 16)
    (fun i _ _ => by omega) (fun i hi => hwithin i ?_ hi)
  exact (List.getElem?_eq_some_iff.mp hi).1

end FramedLink
