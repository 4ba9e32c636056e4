import FramedLink.Proofs.Syndrome
import Mathlib.GroupTheory.OrderOfElement
import Mathlib.Tactic.IntervalCases
import Mathlib.Tactic.NormNum.Prime

set_option autoImplicit false
set_option relaxedAutoImplicit false

/-!
# Two flipped bits

Each bit of a frame stands for a power of `x`. Two flipped bits go unnoticed exactly if their powers
are the same modulo the generator, and the powers of `x` repeat with the period `32767`. In a frame
with a payload of `n` bytes the powers run from `0` to `8 * n + 79`. **So any two flipped bits are
noticed exactly if the payload has at most 4085 bytes.**

The period is found by computing with registers: a power of `x` is a register, and repeated squaring
gives the powers whose exponents are `32767` and `32767` divided by one of its prime factors `7`,
`31` and `151`.

## Main definitions

* `FramedLink.Crc.times`, `FramedLink.Crc.powerOfX` — products and powers as registers.
* `FramedLink.exponent` — the power of `x` for which a bit of a frame stands.

## Main results

* `FramedLink.Crc.orderOf_root` — the period of the powers of `x`.
* `FramedLink.syndrome_flipBit` — what a flipped bit adds to the syndrome.
* `FramedLink.intact_flipBit_flipBit_iff` — which two flipped bits go unnoticed.
* `FramedLink.exponents_incongruent_iff` — up to which size the bits of a frame stand for different
  powers of `x`.
* `FramedLink.twoFlips_detected_iff` — up to which size any two flipped bits are noticed.
-/

namespace FramedLink

open Crc

/-! ## Powers of `x` as registers -/

namespace Crc

/-- The product of two registers modulo the generator. -/
def times (r s : Register) : Register :=
  (registerBits r).foldl (fun t bit => if bit then feedBit t false ^^^ s else feedBit t false) 0

/-- The power of `x` whose exponent has the given binary digits, the highest first. -/
def powerOfX (digits : List Bool) : Register :=
  digits.foldl (fun r digit => if digit then feedBit (times r r) false else times r r) 1

section Root

variable {R : Type*} [CommRing R] [CharP R 2] {x : R}

/-- A zero bit multiplies the register by `x`. -/
lemma evaluate_feedBit_false (hx : x ^ 16 = x ^ 12 + x ^ 5 + 1) (r : Register) :
    evaluate x (registerBits (feedBit r false)) = evaluate x (registerBits r) * x := by
  rw [evaluate_feedBit hx]
  simp

/-- The product of two registers has the product of their values.

**Proof sketch.** Induction on the bits of the one factor, from the highest. Each of them shifts the
product by one place, and a set bit adds the other factor. -/
lemma evaluate_times (hx : x ^ 16 = x ^ 12 + x ^ 5 + 1) (r s : Register) :
    evaluate x (registerBits (times r s)) =
      evaluate x (registerBits r) * evaluate x (registerBits s) := by
  suffices h : ∀ (bits : List Bool) (t : Register),
      evaluate x (registerBits (bits.foldl (fun t bit =>
        if bit then feedBit t false ^^^ s else feedBit t false) t)) =
      evaluate x (registerBits t) * x ^ bits.length +
        evaluate x bits * evaluate x (registerBits s) by
    rw [times, h, evaluate_registerBits_zero, zero_mul, zero_add]
  intro bits
  induction bits with
  | nil => simp [evaluate]
  | cons bit bits ih =>
    intro t
    rw [List.foldl_cons, ih, evaluate, List.length_cons]
    cases bit
    · simp only [Bool.false_eq_true, if_false]
      rw [evaluate_feedBit_false hx]
      ring
    · simp only [if_true]
      rw [registerBits_xor, evaluate_zipWith x (by rfl), evaluate_feedBit_false hx]
      ring

/-- The power of `x` with the given digits of its exponent has the value of this power.

**Proof sketch.** Induction on the digits, for every register with the value `x ^ n`. A digit
squares the register, which doubles the exponent, and a set digit shifts it by one place more. -/
lemma evaluate_powerOfX (hx : x ^ 16 = x ^ 12 + x ^ 5 + 1) (digits : List Bool) :
    evaluate x (registerBits (powerOfX digits)) = x ^ evaluate 2 digits := by
  suffices h : ∀ (r : Register) (n : ℕ), evaluate x (registerBits r) = x ^ n →
      evaluate x (registerBits (digits.foldl (fun r digit =>
        if digit then feedBit (times r r) false else times r r) r)) =
      x ^ (n * 2 ^ digits.length + evaluate 2 digits) by
    have hone : evaluate x (registerBits 1) = x ^ 0 := by
      rw [evaluate_registerBits_one, pow_zero]
    rw [powerOfX, h 1 0 hone, zero_mul, zero_add]
  induction digits with
  | nil =>
    intro r n hr
    simpa [evaluate] using hr
  | cons digit digits ih =>
    intro r n hr
    have hsquare : evaluate x (registerBits (times r r)) = x ^ (2 * n) := by
      rw [evaluate_times hx, hr]
      ring
    rw [List.foldl_cons, List.length_cons, evaluate]
    cases digit
    · simp only [Bool.false_eq_true, if_false]
      rw [ih _ (2 * n) hsquare]
      congr 1
      ring
    · simp only [if_true]
      rw [ih _ (2 * n + 1) (by rw [evaluate_feedBit_false hx, hsquare, pow_succ])]
      congr 1
      ring

end Root

/-- A power of `x` is one modulo the generator exactly if its register is one. -/
lemma root_pow_eq_one_iff (n : ℕ) (digits : List Bool) (h : evaluate 2 digits = n) :
    root ^ n = 1 ↔ powerOfX digits = 1 := by
  rw [← h, ← evaluate_powerOfX root_pow_sixteen, ← evaluate_registerBits_one root,
    evaluate_root_inj]

/-- **The powers of `x` modulo the generator repeat with the period `32767`.** -/
theorem orderOf_root : orderOf root = 32767 := by
  refine orderOf_eq_of_pow_and_pow_div_prime (by decide) ?_ fun p hp hdvd => ?_
  · rw [root_pow_eq_one_iff 32767 (List.replicate 15 true) rfl]
    decide +kernel
  have hfactor : p = 7 ∨ p = 31 ∨ p = 151 := by
    rw [show 32767 = 7 * (31 * 151) from rfl, hp.dvd_mul, hp.dvd_mul] at hdvd
    simpa only [Nat.prime_dvd_prime_iff_eq hp (by norm_num : Nat.Prime 7),
      Nat.prime_dvd_prime_iff_eq hp (by norm_num : Nat.Prime 31),
      Nat.prime_dvd_prime_iff_eq hp (by norm_num : Nat.Prime 151)] using hdvd
  obtain rfl | rfl | rfl := hfactor
  · rw [Ne, root_pow_eq_one_iff (32767 / 7) [true, false, false, true, false, false, true, false,
      false, true, false, false, true] rfl]
    decide +kernel
  · rw [Ne, root_pow_eq_one_iff (32767 / 31) [true, false, false, false, false, true, false, false,
      false, false, true] rfl]
    decide +kernel
  · rw [Ne, root_pow_eq_one_iff (32767 / 151) [true, true, false, true, true, false, false, true]
      rfl]
    decide +kernel

end Crc

/-! ## What a flipped bit adds to the syndrome -/

section Modify

variable {α : Type*} (f : α → α)

/-- A place in the first list is changed there. -/
lemma modify_append_left {xs : List α} {i : Nat} (h : i < xs.length) (ys : List α) :
    (xs ++ ys).modify i f = xs.modify i f ++ ys := by
  induction xs generalizing i with
  | nil => cases h
  | cons a xs ih =>
    cases i with
    | zero => rfl
    | succ i => simp [ih (Nat.lt_of_succ_lt_succ h)]

/-- A place behind the first list is changed in the second. -/
lemma modify_append_right (xs ys : List α) (i : Nat) :
    (xs ++ ys).modify (xs.length + i) f = xs ++ ys.modify i f := by
  induction xs with
  | nil => simp
  | cons a xs ih => simp [Nat.succ_add, ih]

end Modify

/-- Where a byte of a frame of the given size stands after it has been arranged. -/
def place (size k : Nat) : Nat := if k = 6 then size + 1 else if k = 7 then size else k

variable {frame : List UInt8}

/-- A byte that is changed before a frame is arranged is changed at its place.

**Proof sketch.** To arrange a frame is to move the two bytes of its check behind the rest, the
second before the first. So each of the two is one case, and all other bytes keep their order in
front. -/
lemma arranged_modify (f : UInt8 → UInt8) {k : Nat} (hsize : headerSize ≤ frame.length)
    (hk : k < frame.length) :
    arranged (frame.modify k f) = (arranged frame).modify (place frame.length k) f := by
  obtain ⟨l₀, l₁, v, s₀, s₁, t, low, high, payload, rfl⟩ := exists_eq_cons hsize
  set message := l₀ :: l₁ :: v :: s₀ :: s₁ :: t :: 0 :: 0 :: payload with hmessage
  have harranged : arranged (l₀ :: l₁ :: v :: s₀ :: s₁ :: t :: low :: high :: payload) =
      message ++ [high, low] := rfl
  have hlength : (l₀ :: l₁ :: v :: s₀ :: s₁ :: t :: low :: high :: payload).length =
      message.length := rfl
  rw [harranged, hlength]
  rw [hlength] at hk
  by_cases hlow : k = 6
  · subst hlow
    rw [place, if_pos rfl, modify_append_right]
    rfl
  by_cases hhigh : k = 7
  · subst hhigh
    have hplace : place message.length 7 = message.length + 0 := rfl
    rw [hplace, modify_append_right]
    rfl
  · rw [place, if_neg hlow, if_neg hhigh, modify_append_left f hk]
    by_cases hheader : k < 8
    · interval_cases k <;> first | rfl | omega
    · obtain ⟨j, rfl⟩ := Nat.exists_eq_add_of_le (Nat.le_of_not_lt hheader)
      rw [Nat.add_comm 8 j]
      rfl

/-- The power of `x` for which the bit `i` of a frame of the given size stands. -/
def exponent (size i : Nat) : Nat :=
  if i / 8 = 6 then 7 - i % 8 else if i / 8 = 7 then 15 - i % 8 else 8 * size + 15 - i

/-- The value of a byte with a single bit. -/
lemma evaluate_bitsOfByte_shiftRight {R : Type*} [Semiring R] (x : R) {k : Nat} (hk : k < 8) :
    evaluate x (bitsOfByte (0x80 >>> UInt8.ofNat k)) = x ^ (7 - k) := by
  have hbits : bitsOfByte (0x80 >>> UInt8.ofNat k) =
      List.replicate k false ++ true :: List.replicate (7 - k) false := by
    revert k
    decide
  rw [hbits, evaluate_append, evaluate, evaluate_of_not_mem, evaluate_of_not_mem]
  · simp
  · simp
  · simp

section Root

variable {R : Type*} [CommRing R] [CharP R 2]

/-- Bits that are flipped in one byte add their value, times the power of `x` that the bytes behind
it make up. -/
lemma evaluate_xor_byte (x : R) (front behind : List UInt8) (b m : UInt8) :
    evaluate x (bitsOfBytes (front ++ (b ^^^ m) :: behind)) =
      evaluate x (bitsOfBytes (front ++ b :: behind)) +
        evaluate x (bitsOfByte m) * x ^ (8 * behind.length) := by
  have hsplit : ∀ c, evaluate x (bitsOfBytes (front ++ c :: behind)) =
      evaluate x (bitsOfBytes front) * x ^ (8 + 8 * behind.length) +
        (evaluate x (bitsOfByte c) * x ^ (8 * behind.length) +
          evaluate x (bitsOfBytes behind)) := by
    intro c
    rw [bitsOfBytes_append, bitsOfBytes_cons, evaluate_append, evaluate_append,
      List.length_append, length_bitsOfByte, length_bitsOfBytes]
  have hlength : (bitsOfByte b).length = (bitsOfByte m).length := rfl
  rw [hsplit, hsplit, bitsOfByte_xor, evaluate_zipWith x hlength]
  ring

/-- **A flipped bit adds its power of `x` to the syndrome.** -/
theorem syndrome_flipBit (x : R) {i : Nat} (hsize : headerSize ≤ frame.length)
    (hi : i < 8 * frame.length) :
    syndrome x (flipBit i frame) = syndrome x frame + x ^ exponent frame.length i := by
  have hbyte : i / 8 < frame.length := by omega
  have hplace : place frame.length (i / 8) < (arranged frame).length := by
    rw [length_arranged hsize, place]
    split_ifs <;> omega
  obtain ⟨front, b, behind, harranged, hfront, hmodify⟩ :=
    List.exists_of_modify (· ^^^ (0x80 >>> UInt8.ofNat (i % 8))) hplace
  have hbehind : 7 - i % 8 + 8 * behind.length = exponent frame.length i := by
    have hlength := congrArg List.length harranged
    rw [length_arranged hsize, List.length_append, List.length_cons, hfront, place] at hlength
    unfold exponent
    split_ifs at hlength ⊢ <;> omega
  rw [syndrome, flipBit, arranged_modify _ hsize hbyte, hmodify, evaluate_xor_byte, ← harranged,
    evaluate_bitsOfByte_shiftRight x (Nat.mod_lt i (by decide)), ← pow_add, hbehind, syndrome]

end Root

/-! ## Two flipped bits -/

/-- **Two flipped bits go unnoticed exactly if their powers of `x` are the same modulo the
generator.** -/
theorem intact_flipBit_flipBit_iff {i j : Nat} (hintact : intact frame = true)
    (hsize : headerSize ≤ frame.length) (hi : i < 8 * frame.length) (hj : j < 8 * frame.length) :
    intact (flipBit i (flipBit j frame)) = true ↔
      exponent frame.length i ≡ exponent frame.length j [MOD 32767] := by
  have hfinite : IsOfFinOrder root := by
    rw [← orderOf_pos_iff, orderOf_root]
    decide
  have hsyndrome : syndrome root (flipBit i (flipBit j frame)) =
      root ^ exponent frame.length j + root ^ exponent frame.length i := by
    rw [syndrome_flipBit root (by simpa using hsize) (by simpa using hi),
      syndrome_flipBit root hsize hj, (intact_iff hsize).mp hintact, zero_add, length_flipBit]
  rw [intact_iff (by simpa using hsize), hsyndrome, CharTwo.add_eq_zero,
    hfinite.pow_eq_pow_iff_modEq, orderOf_root]
  exact ⟨Nat.ModEq.symm, Nat.ModEq.symm⟩

/-- Different bits stand for different powers of `x`. -/
lemma exponent_ne {size i j : Nat} (hi : i < 8 * size) (hj : j < 8 * size) (h : i ≠ j) :
    exponent size i ≠ exponent size j := by
  unfold exponent
  split_ifs <;> omega

/-- The first bit of a frame stands for the highest power of `x`. -/
lemma exponent_le {size i : Nat} (hi : i < 8 * size) : exponent size i ≤ 8 * size + 15 := by
  unfold exponent
  split_ifs <;> omega

/-- In a large frame the power of the first bit is a period above that of another bit. With 4094 and
4095 bytes the other bit belongs to the check, with more it belongs to the payload. -/
lemma exists_exponent_eq {size : Nat} (hsize : 4094 ≤ size) :
    ∃ j, 0 < j ∧ j < 8 * size ∧ exponent size 0 = exponent size j + 32767 := by
  have hfirst : exponent size 0 = 8 * size + 15 := by simp [exponent]
  obtain rfl | rfl | hlarge : size = 4094 ∨ size = 4095 ∨ 4096 ≤ size := by omega
  · exact ⟨55, by omega, by omega, by simp [exponent]⟩
  · exact ⟨63, by omega, by omega, by simp [exponent]⟩
  · refine ⟨32767, by omega, by omega, ?_⟩
    have hother : exponent size 32767 = 8 * size + 15 - 32767 := by simp [exponent]
    omega

/-- **The bits of a frame stand for different powers of `x` modulo the generator exactly if it has
at most 4093 bytes.** -/
theorem exponents_incongruent_iff {size : Nat} (hsize : 0 < size) :
    (∀ i j, i < 8 * size → j < 8 * size → i ≠ j →
      ¬ exponent size i ≡ exponent size j [MOD 32767]) ↔ size ≤ 4093 := by
  constructor
  · intro hall
    by_contra hlarge
    obtain ⟨j, hpos, hj, hexponent⟩ := exists_exponent_eq (Nat.lt_of_not_le hlarge)
    apply hall 0 j (by omega) hj (by omega)
    rw [hexponent]
    exact Nat.add_modEq_right
  · intro hsmall i j hi hj hne hmod
    have hile := exponent_le hi
    have hjle := exponent_le hj
    exact exponent_ne hi hj hne (hmod.eq_of_lt_of_lt (by omega) (by omega))

/-- **Any two flipped bits of a frame are noticed exactly if its payload has at most 4085 bytes.**

**Proof sketch.** Two bits go unnoticed together exactly if the exponents of their powers of `x`
differ by a multiple of the period. The exponents are different numbers from `0` to `8 * n + 79`,
where `n` is the size of the payload, and the first bit has the largest. -/
theorem twoFlips_detected_iff (sequence : UInt16) (messageType : MessageType)
    {payload : List UInt8} (hfits : payload.length ≤ maxPayload) :
    ∃ header, FrameHeader.prepare sequence messageType payload = (.ok header, sequence + 1) ∧
      ((∀ i j, i < 8 * (headerSize + payload.length) → j < 8 * (headerSize + payload.length) →
          i ≠ j → intact (flipBit i (flipBit j (header.toBytes ++ payload))) = false) ↔
        payload.length ≤ 4085) := by
  obtain ⟨header, hprepare, hintact⟩ := exists_prepared sequence messageType hfits
  refine ⟨header, hprepare, ?_⟩
  have hlength := length_toBytes_append header payload
  have hpositive : 0 < headerSize + payload.length := Nat.add_pos_left (by decide) _
  have hnoticed : ∀ i j, i < 8 * (headerSize + payload.length) →
      j < 8 * (headerSize + payload.length) →
      (intact (flipBit i (flipBit j (header.toBytes ++ payload))) = false ↔
        ¬ exponent (headerSize + payload.length) i ≡ exponent (headerSize + payload.length) j
          [MOD 32767]) := by
    rw [← hlength]
    intro i j hi hj
    rw [← Bool.not_eq_true, intact_flipBit_flipBit_iff hintact (by omega) hi hj]
  calc (∀ i j, i < 8 * (headerSize + payload.length) → j < 8 * (headerSize + payload.length) →
          i ≠ j → intact (flipBit i (flipBit j (header.toBytes ++ payload))) = false)
      ↔ ∀ i j, i < 8 * (headerSize + payload.length) → j < 8 * (headerSize + payload.length) →
          i ≠ j → ¬ exponent (headerSize + payload.length) i ≡
            exponent (headerSize + payload.length) j [MOD 32767] :=
        forall₄_congr fun i j hi hj => imp_congr_right fun _ => hnoticed i j hi hj
    _ ↔ headerSize + payload.length ≤ 4093 := exponents_incongruent_iff hpositive
    _ ↔ payload.length ≤ 4085 := by
        unfold headerSize
        omega

/-- Any two flipped bits are noticed behind a header with 4085 bytes of payload, but not behind one
with 4086. -/
theorem limit_twoFlips :
    (∃ header, FrameHeader.prepare 0x0201 .nack (List.replicate 4085 0xFF) = (.ok header, 0x0202) ∧
      ∀ i j, i < 32744 → j < 32744 → i ≠ j →
        intact (flipBit i (flipBit j (header.toBytes ++ List.replicate 4085 0xFF))) = false) ∧
    (∃ header, FrameHeader.prepare 0x0201 .nack (List.replicate 4086 0xFF) = (.ok header, 0x0202) ∧
      ∃ i j, i < 32752 ∧ j < 32752 ∧ i ≠ j ∧
        intact (flipBit i (flipBit j (header.toBytes ++ List.replicate 4086 0xFF))) = true) := by
  have hfits : ∀ n, n ≤ maxPayload → (List.replicate n (0xFF : UInt8)).length ≤ maxPayload :=
    fun n hn => by rwa [List.length_replicate]
  constructor
  · obtain ⟨header, hprepare, hiff⟩ :=
      twoFlips_detected_iff 0x0201 .nack (hfits 4085 (by decide))
    rw [List.length_replicate] at hiff
    exact ⟨header, hprepare, hiff.mpr (Nat.le_refl 4085)⟩
  · obtain ⟨header, hprepare, hiff⟩ :=
      twoFlips_detected_iff 0x0201 .nack (hfits 4086 (by decide))
    rw [List.length_replicate] at hiff
    have hnot := mt hiff.mp (by omega)
    push Not at hnot
    obtain ⟨i, j, hi, hj, hne, hunnoticed⟩ := hnot
    exact ⟨header, hprepare, i, j, hi, hj, hne, (Bool.not_eq_false _).mp hunnoticed⟩

end FramedLink
