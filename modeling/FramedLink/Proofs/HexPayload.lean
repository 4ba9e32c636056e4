import FramedLink.Argument
import Mathlib.Tactic.IntervalCases
import Mathlib.Tactic.Lemma

set_option autoImplicit false
set_option relaxedAutoImplicit false

/-!
# Payloads in hexadecimal

A payload is read in pairs of characters, each of them as a number. Such a number is meant to have
two digits, but a number may also have a plus in front, and then one digit is enough. **A payload is
accepted exactly if it consists of hexadecimal digits once every plus at the head of a pair is taken
for a zero.** So a text that is no hexadecimal notation may be accepted all the same, but only if
there is a plus in it.

## Main definitions

* `FramedLink.Hex.IsDigit` — the hexadecimal digits.
* `FramedLink.Argument.significant` — a text without its layout.
* `FramedLink.Argument.signless` — a text in which zeros stand for the signs of pairs.
* `FramedLink.Argument.Denotes` — a text is the hexadecimal notation of some bytes.

## Main results

* `FramedLink.Hex.digitValue?_eq_some_iff` — which characters are digits, and of what.
* `FramedLink.Argument.readPairs?_eq_some_iff` — which texts are read, pair by pair.
* `FramedLink.Argument.payload_accepts` — which payloads are accepted.
* `FramedLink.Argument.not_payload_hex_only` — not only hexadecimal notation is.
-/

namespace FramedLink

/-! ## Digits -/

namespace Hex

/-- A hexadecimal digit, of either letter case. -/
def IsDigit (c : Char) : Prop :=
  '0' ≤ c ∧ c ≤ '9' ∨ 'a' ≤ c ∧ c ≤ 'f' ∨ 'A' ≤ c ∧ c ≤ 'F'

instance (c : Char) : Decidable (IsDigit c) := inferInstanceAs (Decidable (_ ∨ _))

/-- There is one lower-case digit for each number below sixteen. -/
lemma digit_injective : ∀ m < 16, ∀ n < 16, digit m = digit n → m = n := by decide

/-- The digits are those of `digitValue?`. -/
lemma isDigit_iff (c : Char) : IsDigit c ↔ ∃ n, digitValue? c = some n := by
  unfold IsDigit digitValue?
  split_ifs <;> simp_all

/-- A digit that has a value is one for it. -/
lemma digit_of_digitValue? {c : Char} {n : Nat} (h : digitValue? c = some n) :
    n < 16 ∧ c.toLower = digit n := by
  have hdigit : IsDigit c := (isDigit_iff c).mpr ⟨n, h⟩
  rw [← Char.ofNat_toNat c] at h ⊢
  unfold IsDigit at hdigit
  simp only [Char.le_def, UInt32.le_iff_toNat_le] at hdigit
  change 48 ≤ c.toNat ∧ c.toNat ≤ 57 ∨ 97 ≤ c.toNat ∧ c.toNat ≤ 102 ∨
    65 ≤ c.toNat ∧ c.toNat ≤ 70 at hdigit
  generalize c.toNat = k at h hdigit
  obtain ⟨hlow, hhigh⟩ | ⟨hlow, hhigh⟩ | ⟨hlow, hhigh⟩ := hdigit <;> interval_cases k <;>
    cases h <;> decide

/-- **Which characters are digits, and of what.** -/
theorem digitValue?_eq_some_iff (c : Char) (n : Nat) :
    digitValue? c = some n ↔ IsDigit c ∧ n < 16 ∧ c.toLower = digit n := by
  refine ⟨fun h => ⟨(isDigit_iff c).mpr ⟨n, h⟩, digit_of_digitValue? h⟩, ?_⟩
  rintro ⟨hdigit, hn, hlower⟩
  obtain ⟨m, hm⟩ := (isDigit_iff c).mp hdigit
  obtain ⟨hm', hlower'⟩ := digit_of_digitValue? hm
  rw [hm, digit_injective m hm' n hn (hlower'.symm.trans hlower)]

end Hex

/-! ## Notations of bytes -/

namespace Argument

open Hex (IsDigit digitValue?)

/-- A text is the hexadecimal notation of some bytes, in either letter case. -/
def Denotes (text : List Char) (bytes : List UInt8) : Prop :=
  (∀ c ∈ text, IsDigit c) ∧ text.map Char.toLower = Hex.ofBytes bytes

instance (text : List Char) (bytes : List UInt8) : Decidable (Denotes text bytes) :=
  -- the characters of the text are gone through, not all characters
  @instDecidableAnd _ _ (List.decidableBAll IsDigit text) (List.hasDecEq _ _)

variable {a b : Char} {text : List Char} {bytes : List UInt8}

/-- A notation has two digits for each byte. -/
lemma Denotes.length (h : Denotes text bytes) : text.length = 2 * bytes.length := by
  rw [← Hex.length_ofBytes, ← h.2, List.length_map]

/-- An empty text denotes no bytes and nothing else. -/
lemma denotes_nil : Denotes [] bytes ↔ bytes = [] := by
  refine ⟨fun h => List.length_eq_zero_iff.mp ?_, ?_⟩
  · have hlength := h.length
    rw [List.length_nil] at hlength
    omega
  · rintro rfl
    exact ⟨fun c hc => absurd hc List.not_mem_nil, rfl⟩

/-- The first two digits of a notation are those of the first byte.

**Proof sketch.** A byte is sixteen times its first digit and its second one, and this determines
both digits. -/
lemma denotes_cons : Denotes (a :: b :: text) bytes ↔
    ∃ x y rest, digitValue? a = some x ∧ digitValue? b = some y ∧ Denotes text rest ∧
      bytes = UInt8.ofNat (16 * x + y) :: rest := by
  constructor
  · intro h
    obtain ⟨hdigits, hlower⟩ := h
    cases bytes with
    | nil => cases hlower
    | cons value rest =>
      obtain ⟨ha, hlower⟩ := List.cons.inj hlower
      obtain ⟨hb, hlower⟩ := List.cons.inj hlower
      have hvalue := value.toNat_lt
      refine ⟨value.toNat / 16, value.toNat % 16, rest,
        (Hex.digitValue?_eq_some_iff a _).mpr ⟨hdigits a (by simp), by omega, ha⟩,
        (Hex.digitValue?_eq_some_iff b _).mpr ⟨hdigits b (by simp), by omega, hb⟩,
        ⟨fun c hc => hdigits c (by simp [hc]), hlower⟩, ?_⟩
      rw [Nat.div_add_mod, UInt8.ofNat_toNat]
  · rintro ⟨x, y, rest, ha, hb, ⟨hdigits, hlower⟩, rfl⟩
    obtain ⟨hda, hx, hla⟩ := (Hex.digitValue?_eq_some_iff a x).mp ha
    obtain ⟨hdb, hy, hlb⟩ := (Hex.digitValue?_eq_some_iff b y).mp hb
    have hvalue : (UInt8.ofNat (16 * x + y)).toNat = 16 * x + y :=
      UInt8.toNat_ofNat_of_lt' (show 16 * x + y < 256 by omega)
    refine ⟨by simpa [hda, hdb] using hdigits, ?_⟩
    show a.toLower :: b.toLower :: text.map Char.toLower = _
    rw [hla, hlb, hlower, Hex.ofBytes, Hex.ofBytes, List.flatMap_cons, Hex.ofByte, hvalue,
      show (16 * x + y) / 16 = x by omega, show (16 * x + y) % 16 = y by omega]
    rfl

/-! ## Signs -/

/-- The character for which one at the head of a pair counts: a plus is as good as a zero. -/
def unsigned (c : Char) : Char := if c = '+' then '0' else c

/-- A text in which zeros stand for the pluses at the heads of pairs. -/
def signless : List Char → List Char
  | [] => []
  | [c] => [c]
  | a :: b :: rest => unsigned a :: b :: signless rest

/-- Replacing signs does not change the length of a text. -/
@[simp] lemma length_signless (text : List Char) : (signless text).length = text.length := by
  fun_induction signless text with
  | case3 a b rest ih => simp only [List.length_cons, ih]
  | _ => rfl

/-- Nothing happens to a text without pluses. -/
lemma signless_of_not_mem (h : '+' ∉ text) : signless text = text := by
  fun_induction signless text with
  | case3 a b rest ih =>
    rw [List.mem_cons, List.mem_cons, not_or, not_or] at h
    rw [unsigned, if_neg fun ha => h.1 ha.symm, ih h.2.2]
  | _ => rfl

/-! ## Pairs -/

/-- Every hexadecimal digit is one in the radix sixteen. -/
lemma digitIn?_sixteen (c : Char) : Text.digitIn? 16 c = digitValue? c := by
  unfold Text.digitIn?
  cases h : digitValue? c with
  | none => rfl
  | some n => simp [(Hex.digit_of_digitValue? h).1]

/-- Reading one more digit. -/
lemma readDigits?_cons (value : Nat) (c : Char) (text : List Char) :
    Text.readDigits? 16 255 value (c :: text) =
      (digitValue? c).bind fun d =>
        if value * 16 + d ≤ 255 then Text.readDigits? 16 255 (value * 16 + d) text else none := by
  rw [Text.readDigits?, digitIn?_sixteen]
  cases digitValue? c <;> rfl

/-- What two digits stand for. -/
lemma readDigits?_pair (a b : Char) (n : Nat) : Text.readDigits? 16 255 0 [a, b] = some n ↔
    ∃ x y, digitValue? a = some x ∧ digitValue? b = some y ∧ n = 16 * x + y := by
  rw [readDigits?_cons]
  cases ha : digitValue? a with
  | none => simp
  | some x =>
    rw [Option.bind_some, readDigits?_cons]
    have hx := (Hex.digit_of_digitValue? ha).1
    rw [if_pos (by omega)]
    cases hb : digitValue? b with
    | none => simp
    | some y =>
      have hy := (Hex.digit_of_digitValue? hb).1
      rw [Option.bind_some, if_pos (by omega), Text.readDigits?]
      simp only [Option.some.injEq, exists_and_left, exists_eq_left']
      omega

/-- **What a pair stands for:** the number of its two digits, with a plus taken for a zero. -/
lemma readNumber?_pair (a b : Char) (n : Nat) : Text.readNumber? 16 255 [a, b] = some n ↔
    ∃ x y, digitValue? (unsigned a) = some x ∧ digitValue? b = some y ∧ n = 16 * x + y := by
  rw [← readDigits?_pair]
  by_cases ha : a = '+'
  · obtain rfl := ha
    -- the digit behind the plus is read as it is behind a zero
    have hzero : Text.readDigits? 16 255 0 [unsigned '+', b] = Text.readDigits? 16 255 0 [b] := by
      rw [readDigits?_cons]
      rfl
    rw [hzero]
    rfl
  · have hpair : Text.readNumber? 16 255 [a, b] = Text.readDigits? 16 255 0 [a, b] := by
      unfold Text.readNumber?
      split <;> simp_all
    rw [hpair, unsigned, if_neg ha]

/-- **Which texts are read, pair by pair:** those that are the notation of some bytes, once the
signs are taken for zeros.

**Proof sketch.** Induction on the pairs. A pair has a number exactly if it consists of two digits
once a sign in front is taken for a zero, and this number is the first byte of the notation. A
single character is left over only if the length is odd, which that of a notation is not. -/
theorem readPairs?_eq_some_iff (done : List UInt8) (text : List Char) (bytes : List UInt8) :
    readPairs? done text = some bytes ↔
      ∃ rest, bytes = done.reverse ++ rest ∧ Denotes (signless text) rest := by
  fun_induction readPairs? done text with
  | case1 done =>
    rw [signless]
    simp only [denotes_nil, exists_eq_right, List.append_nil, Option.some.injEq, eq_comm]
  | case2 done c =>
    refine iff_of_false (by simp) ?_
    rintro ⟨rest, -, hdenotes⟩
    have hlength := hdenotes.length
    rw [length_signless, List.length_singleton] at hlength
    omega
  | case3 done a b rest n hpair ih =>
    obtain ⟨x, y, ha, hb, rfl⟩ := (readNumber?_pair a b n).mp hpair
    rw [ih, signless]
    constructor
    · rintro ⟨bytes', rfl, hdenotes⟩
      refine ⟨UInt8.ofNat (16 * x + y) :: bytes', ?_,
        denotes_cons.mpr ⟨x, y, bytes', ha, hb, hdenotes, rfl⟩⟩
      rw [List.reverse_cons, List.append_assoc, List.singleton_append]
    · rintro ⟨bytes', rfl, hdenotes⟩
      obtain ⟨x', y', bytes', ha', hb', hdenotes', rfl⟩ := denotes_cons.mp hdenotes
      obtain rfl := Option.some.inj (ha.symm.trans ha')
      obtain rfl := Option.some.inj (hb.symm.trans hb')
      refine ⟨bytes', ?_, hdenotes'⟩
      rw [List.reverse_cons, List.append_assoc, List.singleton_append]
  | case4 done a b rest hpair =>
    refine iff_of_false (by simp) ?_
    rintro ⟨bytes', -, hdenotes⟩
    rw [signless] at hdenotes
    obtain ⟨x, y, rest', ha, hb, -, -⟩ := denotes_cons.mp hdenotes
    rw [(readNumber?_pair a b _).mpr ⟨x, y, ha, hb, rfl⟩] at hpair
    cases hpair

/-! ## Payloads -/

/-- A text without its layout. -/
def significant (input : String) : List Char := input.toList.filter (!isLayout ·)

/-- A digit is a character of one byte. -/
lemma utf8Size_of_isDigit {c : Char} (h : IsDigit c) : c.utf8Size = 1 := by
  have hle (last : Char) (hlast : last.val ≤ 127) (hc : c ≤ last) : c.utf8Size = 1 :=
    Char.utf8Size_eq_one_iff.mpr (UInt32.le_trans hc hlast)
  obtain ⟨-, hc⟩ | ⟨-, hc⟩ | ⟨-, hc⟩ := h
  · exact hle '9' (by decide) hc
  · exact hle 'f' (by decide) hc
  · exact hle 'F' (by decide) hc

/-- So is a plus. -/
lemma utf8Size_of_unsigned {c : Char} (h : IsDigit (unsigned c)) : c.utf8Size = 1 := by
  unfold unsigned at h
  split at h
  · next hc =>
    rw [hc]
    rfl
  · exact utf8Size_of_isDigit h

/-- The size of a text of digits and of signs is its length. -/
lemma textSize_of_digits (h : ∀ c ∈ signless text, IsDigit c) : textSize text = text.length := by
  fun_induction signless text with
  | case1 => rfl
  | case2 c =>
    show c.utf8Size + 0 = 1
    rw [utf8Size_of_isDigit (h c List.mem_cons_self)]
  | case3 a b rest ih =>
    have hrest := ih fun c hc => h c (List.mem_cons_of_mem _ (List.mem_cons_of_mem _ hc))
    show a.utf8Size + (b.utf8Size + textSize rest) = rest.length + 1 + 1
    rw [utf8Size_of_unsigned (h _ List.mem_cons_self),
      utf8Size_of_isDigit (h b (List.mem_cons_of_mem _ List.mem_cons_self)), hrest]
    omega

/-- A payload is accepted exactly if its pairs are.

**Proof sketch.** The pairs are read only if the size of the text is even. Nothing is refused
wrongly by this, since the characters of a notation are of one byte each and come in pairs. -/
lemma payload_eq_ok_iff (input : String) (bytes : List UInt8) :
    payload input = .ok bytes ↔ Denotes (signless (significant input)) bytes := by
  have hread := readPairs?_eq_some_iff [] (significant input) bytes
  simp only [List.reverse_nil, List.nil_append, exists_eq_left'] at hread
  rw [← hread]
  unfold payload
  dsimp only
  split
  · next hodd =>
    refine iff_of_false (by simp) fun hsome => ?_
    have hdenotes := hread.mp hsome
    have hsize := textSize_of_digits hdenotes.1
    have hlength := hdenotes.length
    rw [length_signless] at hlength
    change textSize (significant input) % 2 = 1 at hodd
    omega
  · split
    · next bytes' hsome =>
      change readPairs? [] (significant input) = some bytes' at hsome
      rw [hsome]
      simp
    · next hnone =>
      change readPairs? [] (significant input) = none at hnone
      rw [hnone]
      simp

/-- A payload that is not accepted is a mistake of the one who has written it. -/
lemma status_of_payload_eq_error {input : String} {failure : Failure}
    (h : payload input = .error failure) : failure.status = .usage := by
  unfold payload at h
  dsimp only at h
  split at h
  · cases h
    rfl
  · split at h <;> cases h
    rfl

/-- A hexadecimal notation has no plus in it. -/
lemma Denotes.not_mem_plus (h : Denotes text bytes) : '+' ∉ text :=
  fun hplus => absurd (h.1 '+' hplus) (by decide)

/-- **Which payloads are accepted.** A payload stands for some bytes exactly if it is the
hexadecimal notation of these bytes, with white space anywhere in it and with a zero for every plus
at the head of a pair. It is the notation itself exactly if there is no plus in it besides. Whatever
else is given is a mistake of use. -/
theorem payload_accepts (input : String) :
    (∀ bytes, payload input = .ok bytes ↔ Denotes (signless (significant input)) bytes) ∧
    (∀ bytes, Denotes (significant input) bytes ↔
      payload input = .ok bytes ∧ '+' ∉ significant input) ∧
    ∀ failure, payload input = .error failure → failure.status = .usage := by
  refine ⟨payload_eq_ok_iff input, fun bytes => ?_, fun failure => status_of_payload_eq_error⟩
  rw [payload_eq_ok_iff]
  constructor
  · intro hdenotes
    rw [signless_of_not_mem hdenotes.not_mem_plus]
    exact ⟨hdenotes, hdenotes.not_mem_plus⟩
  · rintro ⟨hdenotes, hplus⟩
    rwa [signless_of_not_mem hplus] at hdenotes

/-- White space may stand inside of a byte, and a plus may stand for a zero. -/
theorem payload_accepts_plus :
    payload " 7\t3 +F" = .ok [0x73, 0x0f] ∧ ¬ Denotes (significant " 7\t3 +F") [0x73, 0x0f] := by
  obtain ⟨haccepted, hexact, -⟩ := payload_accepts " 7\t3 +F"
  refine ⟨(haccepted _).mpr (by decide +kernel), fun hdenotes => ?_⟩
  exact ((hexact _).mp hdenotes).2 (by decide +kernel)

/-- Not only hexadecimal notation is accepted. -/
theorem not_payload_hex_only :
    ¬ ∀ (input : String) (bytes : List UInt8), payload input = .ok bytes →
      (∀ c ∈ significant input, IsDigit c) ∧
        (significant input).map Char.toLower = Hex.ofBytes bytes := by
  intro h
  exact absurd ((h "+f" [15] (by decide +kernel)).1 '+' (by decide +kernel)) (by decide)

end Argument

end FramedLink
