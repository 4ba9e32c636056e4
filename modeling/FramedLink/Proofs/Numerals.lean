import FramedLink.Proofs.HexLayout
import Mathlib.Data.List.Forall2
import Mathlib.Data.Nat.Digits.Defs

set_option autoImplicit false
set_option relaxedAutoImplicit false

/-!
# Numerals

A numeral is a row of digits in some radix, and the number that it writes is the sum of the values
of its digits, each times its power of the radix. A reader goes over the digits from left to right
and gives up as soon as the number so far exceeds a bound. **So it reads the numerals of the numbers
up to the bound, and no other text,** however many zeros stand in front.

## Main definitions

* `FramedLink.Text.DigitOf` — a character is the digit of a number.
* `FramedLink.Text.Numeral` — some characters write a number.

## Main results

* `FramedLink.Text.readDigits?_eq_some_iff` — what is read from digits behind those read before.
* `FramedLink.Text.readNumber?_eq_some_iff` — which texts are read as numbers.
-/

namespace FramedLink.Text

variable {radix bound n : Nat} {c : Char} {d : Nat} {digits text : List Char}

/-! ## Digits -/

/-- A character is the digit of `d` in the radix, in either letter case. -/
def DigitOf (radix : Nat) (c : Char) (d : Nat) : Prop := d < radix ∧ c.toLower = Hex.digit d

/-- The digits of a radix up to sixteen are those that are read. -/
lemma digitIn?_eq_some_iff (hradix : radix ≤ 16) (c : Char) (d : Nat) :
    digitIn? radix c = some d ↔ DigitOf radix c d := by
  rw [digitIn?, Option.filter_eq_some_iff, Hex.digitValue?_eq_some_iff, decide_eq_true_eq]
  constructor
  · rintro ⟨⟨-, -, hlower⟩, hlt⟩
    exact ⟨hlt, hlower⟩
  · rintro ⟨hlt, hlower⟩
    have hd : d < 16 := Nat.lt_of_lt_of_le hlt hradix
    exact ⟨⟨Hex.isDigit_of_toLower (hlower ▸ Hex.isDigit_digit d hd), hd, hlower⟩, hlt⟩

/-- The digits of such a radix are hexadecimal digits. -/
lemma DigitOf.isDigit (hradix : radix ≤ 16) (h : DigitOf radix c d) : Hex.IsDigit c :=
  Hex.isDigit_of_toLower (h.2 ▸ Hex.isDigit_digit d (Nat.lt_of_lt_of_le h.1 hradix))

/-! ## Rows of digits -/

/-- `Numeral radix digits n`: the digits, of which there is at least one, write the number `n` in
the radix. -/
structure Numeral (radix : Nat) (digits : List Char) (n : Nat) : Prop where
  /-- There is a digit. -/
  nonempty : digits ≠ []
  /-- The number is made of the values of the digits, of which the last counts once. -/
  values : ∃ values, List.Forall₂ (DigitOf radix) digits values ∧
    n = Nat.ofDigits radix values.reverse

/-- Every character of a numeral is a digit. -/
lemma Numeral.digitOf (h : Numeral radix digits n) (hc : c ∈ digits) : ∃ d, DigitOf radix c d := by
  obtain ⟨values, hdigits, -⟩ := h.values
  obtain ⟨i, hi, rfl⟩ := List.getElem_of_mem hc
  have hi' : i < values.length := hdigits.length_eq ▸ hi
  exact ⟨values[i], hdigits.get hi hi'⟩

/-- A number is not smaller than what stands in front of its last digits. -/
lemma le_ofDigits_append (hradix : 0 < radix) (values : List Nat) (value : Nat) :
    value ≤ Nat.ofDigits radix (values ++ [value]) := by
  rw [Nat.ofDigits_append, Nat.ofDigits_singleton]
  have hpower : 0 < radix ^ values.length := Nat.pow_pos hradix
  calc value ≤ radix ^ values.length * value := Nat.le_mul_of_pos_left value hpower
    _ ≤ _ := Nat.le_add_left _ _

/-- One more digit behind those read before. -/
lemma ofDigits_append_pair (values : List Nat) (d value : Nat) :
    Nat.ofDigits radix (values ++ [d, value]) =
      Nat.ofDigits radix (values ++ [value * radix + d]) := by
  rw [Nat.ofDigits_append, Nat.ofDigits_append, Nat.ofDigits_singleton, Nat.ofDigits_cons,
    Nat.ofDigits_singleton, Nat.add_comm d, Nat.mul_comm radix]

/-- **What is read from digits behind those read before:** the number that all of them write, unless
it exceeds the bound. The number before them counts as one digit in front.

**Proof sketch.** By induction on the digits. A digit that is read is put together with the number
before it. If the number exceeds the bound then, so does the number that all digits write. -/
theorem readDigits?_eq_some_iff (hradix : radix ≤ 16) (value : Nat) (hvalue : value ≤ bound)
    (digits : List Char) (n : Nat) :
    readDigits? radix bound value digits = some n ↔
      n ≤ bound ∧ ∃ values, List.Forall₂ (DigitOf radix) digits values ∧
        n = Nat.ofDigits radix (values.reverse ++ [value]) := by
  induction digits generalizing value with
  | nil =>
    simp only [readDigits?, Option.some.injEq, List.forall₂_nil_left_iff, exists_eq_left,
      List.reverse_nil, List.nil_append, Nat.ofDigits_singleton]
    omega
  | cons c digits ih =>
    rw [readDigits?]
    cases hc : digitIn? radix c with
    | none =>
      refine iff_of_false (by simp) ?_
      rintro ⟨-, all, hall, -⟩
      obtain ⟨d, values, hd, -, rfl⟩ := List.forall₂_cons_left_iff.mp hall
      rw [(digitIn?_eq_some_iff hradix c d).mpr hd] at hc
      cases hc
    | some d =>
      have hd := (digitIn?_eq_some_iff hradix c d).mp hc
      have hmore (values : List Nat) : Nat.ofDigits radix ((d :: values).reverse ++ [value]) =
          Nat.ofDigits radix (values.reverse ++ [value * radix + d]) := by
        rw [List.reverse_cons, List.append_assoc, List.singleton_append, ofDigits_append_pair]
      dsimp only
      split
      · next hfits =>
        rw [ih _ hfits]
        refine and_congr_right fun _ => ?_
        constructor
        · rintro ⟨values, hdigits, rfl⟩
          exact ⟨d :: values, .cons hd hdigits, (hmore values).symm⟩
        · rintro ⟨all, hall, rfl⟩
          obtain ⟨d', values, hd', hdigits, rfl⟩ := List.forall₂_cons_left_iff.mp hall
          rw [(digitIn?_eq_some_iff hradix c d').mpr hd'] at hc
          obtain rfl := Option.some.inj hc
          exact ⟨values, hdigits, hmore values⟩
      · next hlarge =>
        refine iff_of_false (by simp) ?_
        rintro ⟨hn, all, hall, rfl⟩
        obtain ⟨d', values, hd', -, rfl⟩ := List.forall₂_cons_left_iff.mp hall
        rw [(digitIn?_eq_some_iff hradix c d').mpr hd'] at hc
        obtain rfl := Option.some.inj hc
        rw [hmore] at hn
        exact hlarge ((le_ofDigits_append (Nat.zero_lt_of_lt hd.1) _ _).trans hn)

/-- Digits are read as the number that they write. -/
lemma readDigits?_zero_eq_some_iff (hradix : radix ≤ 16) (hdigits : digits ≠ []) :
    readDigits? radix bound 0 digits = some n ↔ n ≤ bound ∧ Numeral radix digits n := by
  rw [readDigits?_eq_some_iff hradix 0 (Nat.zero_le bound)]
  have hzero (values : List Nat) :
      Nat.ofDigits radix (values.reverse ++ [0]) = Nat.ofDigits radix values.reverse := by
    rw [Nat.ofDigits_append, Nat.ofDigits_singleton, Nat.mul_zero, Nat.add_zero]
  simp only [hzero]
  exact and_congr_right fun _ => ⟨fun h => ⟨hdigits, h⟩, Numeral.values⟩

/-! ## Numbers -/

/-- No numeral begins with a plus. -/
lemma Numeral.not_mem_plus (hradix : radix ≤ 16) (h : Numeral radix digits n) : '+' ∉ digits := by
  intro hplus
  obtain ⟨d, hd⟩ := h.digitOf hplus
  exact absurd (hd.isDigit hradix) (by decide)

/-- **Which texts are read as numbers:** the numerals of the numbers up to the bound, with a plus in
front or without.

**Proof sketch.** One case for each way in which a text may start. A plus is taken off if digits
follow. No numeral holds a plus, so there is only one way to split a text into a sign and a numeral.
-/
theorem readNumber?_eq_some_iff (hradix : radix ≤ 16) (bound : Nat) (text : List Char) (n : Nat) :
    readNumber? radix bound text = some n ↔
      n ≤ bound ∧ ∃ sign digits, (sign = [] ∨ sign = ['+']) ∧ text = sign ++ digits ∧
        Numeral radix digits n := by
  unfold readNumber?
  split
  · refine iff_of_false (by simp) ?_
    rintro ⟨-, sign, digits, -, htext, hnumeral⟩
    exact hnumeral.nonempty (List.append_eq_nil_iff.mp htext.symm).2
  · refine iff_of_false (by simp) ?_
    rintro ⟨-, sign, digits, rfl | rfl, htext, hnumeral⟩
    · obtain rfl : ['+'] = digits := htext
      exact hnumeral.not_mem_plus hradix (List.mem_singleton_self '+')
    · exact hnumeral.nonempty (List.cons.inj htext).2.symm
  · next digits hdigits =>
    rw [readDigits?_zero_eq_some_iff hradix hdigits]
    refine and_congr_right fun _ => ⟨fun h => ⟨['+'], digits, .inr rfl, rfl, h⟩, ?_⟩
    rintro ⟨sign, digits', rfl | rfl, htext, hnumeral⟩
    · obtain rfl : '+' :: digits = digits' := htext
      exact absurd List.mem_cons_self (hnumeral.not_mem_plus hradix)
    · obtain ⟨-, rfl⟩ := List.cons.inj htext
      exact hnumeral
  · next hnil hplus hcons =>
    rw [readDigits?_zero_eq_some_iff hradix hnil]
    refine and_congr_right fun _ => ⟨fun h => ⟨[], text, .inl rfl, rfl, h⟩, ?_⟩
    rintro ⟨sign, digits, rfl | rfl, rfl, hnumeral⟩
    · exact hnumeral
    · exact absurd rfl (hcons digits)

end FramedLink.Text
