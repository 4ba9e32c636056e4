import FramedLink.Crc
import Mathlib.Algebra.CharP.Algebra
import Mathlib.Algebra.CharP.Two
import Mathlib.Algebra.Field.ZMod
import Mathlib.RingTheory.AdjoinRoot
import Mathlib.Tactic.ComputeDegree
import Mathlib.Tactic.LinearCombination
import Mathlib.Tactic.Ring

set_option autoImplicit false
set_option relaxedAutoImplicit false

/-!
# The check as a remainder

A list of bits is read as a polynomial over the two-element field, the first bit being the highest
coefficient. **The check of a message is the remainder of its polynomial, multiplied by `x ^ 16`,
modulo the generator** `x ^ 16 + x ^ 12 + x ^ 5 + 1`.

All laws are first stated for the value of the polynomial at a point `x` of any commutative ring of
characteristic two in which `x` is a root of the generator. At such a point a step of the register
is the multiplication by `x`. The point `1` of the two-element field counts bits modulo two, and the
class of the variable modulo the generator tells apart all polynomials of a degree below sixteen.

## Main definitions

* `FramedLink.Crc.evaluate` — the value of a list of bits at a point.
* `FramedLink.Crc.registerBits` — the register as a list of bits.
* `FramedLink.Crc.generatorPolynomial`, `FramedLink.Crc.root` — the generator and the class of the
  variable modulo it.

## Main results

* `FramedLink.Crc.evaluate_checksum` — the value of a check at a root of the generator.
* `FramedLink.Crc.checksum_eq_remainder` — the check is the remainder of the message.
* `FramedLink.Crc.evaluate_root_eq_zero_iff` — at most sixteen bits have a value other than zero at
  `root`, unless none is set.
-/

namespace FramedLink.Crc

open Polynomial

/-! ## Lists of bits as polynomials -/

section Evaluate

variable {R S : Type*} [Semiring R] [Semiring S]

/-- The value at `x` of the polynomial with the given coefficients, the highest first. -/
def evaluate (x : R) : List Bool → R
  | [] => 0
  | bit :: bits => (if bit then x ^ bits.length else 0) + evaluate x bits

/-- The bits in front are multiplied by a power of the point for each bit behind them. -/
lemma evaluate_append (x : R) (xs ys : List Bool) :
    evaluate x (xs ++ ys) = evaluate x xs * x ^ ys.length + evaluate x ys := by
  induction xs with
  | nil => simp [evaluate]
  | cons bit xs ih =>
    rw [List.cons_append, evaluate, evaluate, ih, List.length_append, add_mul, add_assoc]
    cases bit
    · simp
    · simp [pow_add]

/-- Where no bit is set, the polynomial is zero. -/
lemma evaluate_of_not_mem (x : R) {bits : List Bool} (h : true ∉ bits) :
    evaluate x bits = 0 := by
  induction bits with
  | nil => rfl
  | cons bit bits ih =>
    cases bit with
    | true => exact absurd List.mem_cons_self h
    | false => simpa [evaluate] using ih fun hbits => h (List.mem_cons_of_mem _ hbits)

/-- At the point `1` the value is the number of bits that are set. -/
lemma evaluate_one (bits : List Bool) : evaluate (1 : R) bits = (bits.count true : ℕ) := by
  induction bits with
  | nil => simp [evaluate]
  | cons bit bits ih =>
    rw [evaluate, ih]
    cases bit
    · simp
    · simp [add_comm]

/-- A homomorphism maps the value at a point to the value at the image of the point. -/
lemma map_evaluate (f : R →+* S) (x : R) (bits : List Bool) :
    f (evaluate x bits) = evaluate (f x) bits := by
  induction bits with
  | nil => exact map_zero f
  | cons bit bits ih =>
    rw [evaluate, evaluate, map_add, ih]
    cases bit <;> simp

end Evaluate

/-- The degree is less than the number of bits. -/
lemma degree_evaluate_lt (bits : List Bool) :
    (evaluate X bits : (ZMod 2)[X]).degree < bits.length := by
  induction bits with
  | nil => simp [evaluate]
  | cons bit bits ih =>
    have hn : (bits.length : WithBot ℕ) < (bits.length + 1 : ℕ) := by
      exact_mod_cast Nat.lt_succ_self bits.length
    rw [evaluate, List.length_cons]
    refine lt_of_le_of_lt (degree_add_le _ _) (max_lt ?_ (ih.trans hn))
    cases bit
    · simp
    · simpa using hn

/-- The polynomial is zero only if no bit is set. -/
lemma evaluate_X_eq_zero_iff {bits : List Bool} :
    (evaluate X bits : (ZMod 2)[X]) = 0 ↔ true ∉ bits := by
  refine ⟨fun h => ?_, evaluate_of_not_mem X⟩
  induction bits with
  | nil => exact List.not_mem_nil
  | cons bit bits ih =>
    cases bit with
    | false => simpa using ih (by simpa [evaluate] using h)
    | true =>
      have hdegree : (evaluate X (true :: bits) : (ZMod 2)[X]).degree = bits.length := by
        rw [evaluate, if_pos rfl, degree_add_eq_left_of_degree_lt, degree_X_pow]
        simpa using degree_evaluate_lt bits
      simp [h] at hdegree

/-! ## The bits of bytes and registers -/

/-- The bits of a byte string are those of its first byte and then those of the others. -/
lemma bitsOfBytes_cons (b : UInt8) (bytes : List UInt8) :
    bitsOfBytes (b :: bytes) = bitsOfByte b ++ bitsOfBytes bytes := rfl

/-- A byte has eight bits. -/
@[simp] lemma length_bitsOfByte (b : UInt8) : (bitsOfByte b).length = 8 := rfl

/-- A byte string has eight bits for each byte. -/
@[simp] lemma length_bitsOfBytes (bytes : List UInt8) :
    (bitsOfBytes bytes).length = 8 * bytes.length := by
  induction bytes with
  | nil => rfl
  | cons b bytes ih =>
    rw [bitsOfBytes_cons, List.length_append, ih, List.length_cons, length_bitsOfByte]
    omega

/-- The bits of two byte strings, one behind the other. -/
lemma bitsOfBytes_append (xs ys : List UInt8) :
    bitsOfBytes (xs ++ ys) = bitsOfBytes xs ++ bitsOfBytes ys :=
  List.flatMap_append

/-- The bits of a byte, one by one. -/
lemma bitsOfByte_eq (b : UInt8) : bitsOfByte b =
    [b.toBitVec.getLsbD 7, b.toBitVec.getLsbD 6, b.toBitVec.getLsbD 5, b.toBitVec.getLsbD 4,
     b.toBitVec.getLsbD 3, b.toBitVec.getLsbD 2, b.toBitVec.getLsbD 1, b.toBitVec.getLsbD 0] := by
  suffices h : ∀ n : Fin 256, bitsOfByte ⟨⟨n⟩⟩ = [n.val.testBit 7, n.val.testBit 6, n.val.testBit 5,
      n.val.testBit 4, n.val.testBit 3, n.val.testBit 2, n.val.testBit 1, n.val.testBit 0] from
    h b.toBitVec.toFin
  decide +kernel

/-- Bytes are added bit by bit. -/
lemma bitsOfByte_xor (a b : UInt8) :
    bitsOfByte (a ^^^ b) = List.zipWith xor (bitsOfByte a) (bitsOfByte b) := by
  simp [bitsOfByte_eq]

/-- The bits of the register, the most significant first. -/
def registerBits (register : Register) : List Bool :=
  bitsOfBytes [(register >>> 8).toUInt8, register.toUInt8]

/-- The bits of the register are those of its number, the most significant first. -/
lemma registerBits_eq_map (r : Register) :
    registerBits r = (List.range 16).map r.toBitVec.getMsbD := by
  simp [registerBits, bitsOfBytes, bitsOfByte_eq, List.range_succ, BitVec.getMsbD]

/-- Registers are added bit by bit. -/
lemma registerBits_xor (r s : Register) :
    registerBits (r ^^^ s) = List.zipWith xor (registerBits r) (registerBits s) := by
  simp [registerBits_eq_map, List.zipWith_map, List.zipWith_self]

/-- The first bit is the coefficient that the next step shifts out. -/
lemma registerBits_eq_cons (r : Register) :
    registerBits r = decide (0x8000 ≤ r) :: (registerBits r).tail := by
  have hmsb : r.toBitVec.getMsbD 0 = decide (0x8000 ≤ r) := BitVec.msb_eq_decide r.toBitVec
  rw [registerBits_eq_map, ← hmsb]
  rfl

/-- A shift of the register drops its first bit. -/
lemma registerBits_shiftLeft (r : Register) :
    registerBits (r <<< 1) = (registerBits r).tail ++ [false] := by
  rw [registerBits_eq_map, registerBits_eq_map]
  simp [List.range_succ]

/-- The bits of the generator, without the highest one. -/
lemma registerBits_generator : registerBits generator =
    [false, false, false, true, false, false, false, false,
     false, false, true, false, false, false, false, true] := by
  decide

/-- An empty register has the value zero. -/
lemma evaluate_registerBits_zero {R : Type*} [Semiring R] (x : R) :
    evaluate x (registerBits 0) = 0 :=
  evaluate_of_not_mem x (by decide)

/-- A register with nothing but its last bit has the value one. -/
lemma evaluate_registerBits_one {R : Type*} [Semiring R] (x : R) :
    evaluate x (registerBits 1) = 1 := by
  rw [show registerBits 1 = List.replicate 15 false ++ [true] by decide]
  simp [evaluate]

/-- Only the register zero has no bit set. -/
lemma eq_zero_of_registerBits {r : Register} (h : true ∉ registerBits r) : r = 0 := by
  simp only [registerBits_eq_map, List.mem_map, List.mem_range, not_exists, not_and,
    Bool.not_eq_true] at h
  apply UInt16.toBitVec_inj.mp
  apply BitVec.eq_of_getMsbD_eq
  intro i hi
  simpa using h i hi

/-! ## The register at a root of the generator -/

section Root

variable {R : Type*} [CommRing R] [CharP R 2] {x : R}

/-- The sum of two lists of bits has the sum of their values.

**Proof sketch.** Induction on the bits. In characteristic two, a bit that is set in both adds
nothing. -/
lemma evaluate_zipWith (x : R) {xs ys : List Bool} (h : xs.length = ys.length) :
    evaluate x (List.zipWith xor xs ys) = evaluate x xs + evaluate x ys := by
  induction xs generalizing ys with
  | nil =>
    obtain rfl : ys = [] := List.eq_nil_of_length_eq_zero h.symm
    simp [evaluate]
  | cons a xs ih =>
    rcases ys with _ | ⟨b, ys⟩
    · cases h
    have hlen : xs.length = ys.length := by simpa using h
    have hsum : (if xor a b then x ^ ys.length else 0 : R) =
        (if a then x ^ ys.length else 0) + (if b then x ^ ys.length else 0) := by
      cases a <;> cases b <;> simp [CharTwo.add_self_eq_zero]
    rw [List.zipWith_cons_cons, evaluate, evaluate, evaluate, ih hlen, List.length_zipWith, hlen,
      min_self, hsum]
    ring

/-- Shifting the register multiplies by `x`, but the coefficient that is shifted out is lost. -/
lemma evaluate_shiftLeft (x : R) (r : Register) :
    evaluate x (registerBits (r <<< 1)) =
      evaluate x (registerBits r) * x + if 0x8000 ≤ r then x ^ 16 else 0 := by
  have hsplit : evaluate x (registerBits r) =
      (if 0x8000 ≤ r then x ^ 15 else 0) + evaluate x (registerBits r).tail := by
    rw [registerBits_eq_cons r, evaluate, List.tail_cons,
      show (registerBits r).tail.length = 15 from rfl]
    simp
  rw [registerBits_shiftLeft, evaluate_append, hsplit]
  by_cases htop : 0x8000 ≤ r
  · simp only [htop, if_true, evaluate, List.length_singleton, Bool.false_eq_true, if_false]
    linear_combination -CharTwo.add_self_eq_zero (x ^ 16)
  · simp [htop, evaluate]

/-- **One step of the register multiplies by `x` and adds the new bit times `x ^ 16`.** The
generator is subtracted exactly if the coefficient of `x ^ 16` is one. -/
lemma evaluate_feedBit (hx : x ^ 16 = x ^ 12 + x ^ 5 + 1) (r : Register) (bit : Bool) :
    evaluate x (registerBits (feedBit r bit)) =
      evaluate x (registerBits r) * x + if bit then x ^ 16 else 0 := by
  have hgenerator : evaluate x (registerBits generator) = x ^ 16 := by
    rw [registerBits_generator, hx]
    simp [evaluate, add_assoc]
  have hfeed : evaluate x (registerBits (feedBit r bit)) = evaluate x (registerBits (r <<< 1)) +
      if (decide (0x8000 ≤ r)) != bit then x ^ 16 else 0 := by
    unfold feedBit
    split
    · rw [registerBits_xor, evaluate_zipWith x (by rfl), hgenerator]
    · rw [add_zero]
  have htwice : x ^ 16 + x ^ 16 = 0 := CharTwo.add_self_eq_zero _
  rw [hfeed, evaluate_shiftLeft]
  by_cases htop : 0x8000 ≤ r <;> cases bit <;> simp [htop, add_assoc, htwice]

/-- A run of the register over some bits.

**Proof sketch.** Induction on the bits. Each of them shifts the register by one place and comes in
at the sixteenth. -/
lemma evaluate_foldl_feedBit (hx : x ^ 16 = x ^ 12 + x ^ 5 + 1) (r : Register)
    (bits : List Bool) :
    evaluate x (registerBits (bits.foldl feedBit r)) =
      evaluate x (registerBits r) * x ^ bits.length + evaluate x bits * x ^ 16 := by
  induction bits generalizing r with
  | nil => simp [evaluate]
  | cons bit bits ih =>
    rw [List.foldl_cons, ih, evaluate_feedBit hx, evaluate, List.length_cons]
    cases bit
    · simp only [Bool.false_eq_true, if_false]
      ring
    · simp only [if_true]
      ring

/-- **At a root of the generator, the value of the check is that of the message times `x ^ 16`.** -/
theorem evaluate_checksum (hx : x ^ 16 = x ^ 12 + x ^ 5 + 1) (bytes : List UInt8) :
    evaluate x (registerBits (checksum bytes)) = evaluate x (bitsOfBytes bytes) * x ^ 16 := by
  rw [checksum_eq_foldl, evaluate_foldl_feedBit hx, evaluate_registerBits_zero, zero_mul, zero_add]

end Root

/-! ## The generator -/

/-- The generator as a polynomial. -/
noncomputable def generatorPolynomial : (ZMod 2)[X] := X ^ 16 + X ^ 12 + X ^ 5 + 1

/-- The highest coefficient of the generator is one. -/
lemma monic_generatorPolynomial : generatorPolynomial.Monic := by
  unfold generatorPolynomial
  monicity!

/-- The generator has the degree sixteen. -/
lemma degree_generatorPolynomial : generatorPolynomial.degree = 16 := by
  unfold generatorPolynomial
  compute_degree!

/-- The polynomials modulo the generator. -/
abbrev Residue := AdjoinRoot generatorPolynomial

/-- The class of the variable modulo the generator. -/
noncomputable def root : Residue := AdjoinRoot.root generatorPolynomial

instance : Nontrivial Residue :=
  AdjoinRoot.nontrivial generatorPolynomial (by rw [degree_generatorPolynomial]; decide)

instance : CharP Residue 2 :=
  charP_of_injective_algebraMap (algebraMap (ZMod 2) Residue).injective 2

/-- The class of the variable is a root of the generator. -/
lemma root_pow_sixteen : root ^ 16 = root ^ 12 + root ^ 5 + 1 := by
  have h : AdjoinRoot.mk generatorPolynomial (X ^ 16 + X ^ 12 + X ^ 5 + 1) = 0 :=
    AdjoinRoot.mk_self
  simp only [map_add, map_pow, map_one, AdjoinRoot.mk_X] at h
  rw [← sub_eq_zero, CharTwo.sub_eq_add, ← h, root]
  ring

/-- The value at `root` is the class of the polynomial modulo the generator. -/
lemma evaluate_root (bits : List Bool) :
    evaluate root bits = AdjoinRoot.mk generatorPolynomial (evaluate X bits) := by
  rw [map_evaluate, AdjoinRoot.mk_X, root]

/-- **The check is the remainder of the message modulo the generator.** -/
theorem checksum_eq_remainder (bytes : List UInt8) :
    evaluate X (registerBits (checksum bytes)) =
      (evaluate X (bitsOfBytes bytes) * X ^ 16) %ₘ generatorPolynomial := by
  have hclass : AdjoinRoot.mk generatorPolynomial (evaluate X (bitsOfBytes bytes) * X ^ 16) =
      AdjoinRoot.mk generatorPolynomial (evaluate X (registerBits (checksum bytes))) := by
    rw [map_mul, map_pow, AdjoinRoot.mk_X, ← evaluate_root, ← evaluate_root]
    exact (evaluate_checksum root_pow_sixteen bytes).symm
  obtain ⟨q, hq⟩ := AdjoinRoot.mk_eq_mk.mp hclass
  refine (div_modByMonic_unique q _ monic_generatorPolynomial ⟨?_, ?_⟩).2.symm
  · rw [← hq]
    ring
  · rw [degree_generatorPolynomial]
    exact degree_evaluate_lt _

/-- The check of the nine digits in ASCII. -/
example : checksum [0x31, 0x32, 0x33, 0x34, 0x35, 0x36, 0x37, 0x38, 0x39] = 0x31C3 := by
  decide +kernel

/-- **At most sixteen bits have a value other than zero at `root`,** unless none of them is set. -/
theorem evaluate_root_eq_zero_iff {bits : List Bool} (hbits : bits.length ≤ 16) :
    evaluate root bits = 0 ↔ true ∉ bits := by
  rw [evaluate_root, AdjoinRoot.mk_eq_zero, ← evaluate_X_eq_zero_iff]
  refine ⟨fun hdvd => ?_, fun h => h ▸ dvd_zero _⟩
  have hdegree : (evaluate X bits : (ZMod 2)[X]).degree < generatorPolynomial.degree := by
    rw [degree_generatorPolynomial]
    exact lt_of_lt_of_le (degree_evaluate_lt bits) (by exact_mod_cast hbits)
  exact eq_zero_of_dvd_of_degree_lt hdvd hdegree

/-- Two registers with the same value at `root` are equal. -/
lemma evaluate_root_inj {r s : Register} :
    evaluate root (registerBits r) = evaluate root (registerBits s) ↔ r = s := by
  refine ⟨fun h => ?_, fun h => h ▸ rfl⟩
  have hsum : evaluate root (registerBits (r ^^^ s)) = 0 := by
    rw [registerBits_xor, evaluate_zipWith root (by rfl), h]
    exact CharTwo.add_self_eq_zero _
  have hzero :=
    eq_zero_of_registerBits ((evaluate_root_eq_zero_iff (by exact Nat.le_refl 16)).mp hsum)
  exact UInt16.xor_eq_zero_iff.mp hzero

end FramedLink.Crc
