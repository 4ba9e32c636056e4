import FramedLink.Proofs.Numerals

set_option autoImplicit false
set_option relaxedAutoImplicit false

/-!
# Timeouts

A timeout is a decimal numeral with a plus in front or without, and with a unit behind it or
without: `ms` for milliseconds, `s` or nothing for seconds. One unit is the end of the other, so the
longer one has to be looked for first. **What is read is exact, and whatever is written otherwise is
refused.**

Spans of time are natural numbers here. A program that counts in machine words could lose a part of
a number. It does not, if it gives up at the first operation whose result takes more than a word:
the numbers that are lost then are those beyond the largest number of a timeout, and the span of
every other number fits into a word of seconds and a word of nanoseconds.

## Main definitions

* `FramedLink.Argument.Measures` — the units.
* `FramedLink.Argument.IsTimeout` — how timeouts are written.
* `FramedLink.Duration` — a span of time in machine words.
* `FramedLink.Argument.timeoutInWords` — the reading of timeouts in machine words.

## Main results

* `FramedLink.Argument.timeout_eq_ok_iff` — which texts are timeouts, and of which length.
* `FramedLink.Argument.toNanos_timeoutInWords` — machine words are wide enough.
* `FramedLink.Argument.timeout_accepts` — both together, with the deadlines.
-/

namespace FramedLink

/-! ## Spans in machine words -/

/-- A span of time as a number of seconds and the nanoseconds beyond them. -/
structure Duration where
  /-- The whole seconds. -/
  whole : UInt64
  /-- The nanoseconds beyond the whole seconds. -/
  nanos : UInt32
  /-- The nanoseconds are less than a second. -/
  nanos_lt : nanos.toNat < 1000000000

namespace Duration

/-- The nanoseconds of a span. -/
def toNanos (d : Duration) : Nat := seconds d.whole.toNat + d.nanos.toNat

/-- A number of seconds. -/
def ofSeconds (n : UInt64) : Duration := ⟨n, 0, by decide⟩

/-- The nanoseconds of the milliseconds beyond a second fit into a word. -/
lemma toNat_millis_mod (n : UInt64) :
    ((n % 1000).toUInt32 * 1000000).toNat = n.toNat % 1000 * 1000000 := by
  rw [UInt32.toNat_mul, UInt64.toNat_toUInt32, UInt64.toNat_mod]
  change n.toNat % 1000 % 4294967296 * 1000000 % 4294967296 = n.toNat % 1000 * 1000000
  omega

/-- A number of milliseconds. -/
def ofMillis (n : UInt64) : Duration where
  whole := n / 1000
  nanos := (n % 1000).toUInt32 * 1000000
  nanos_lt := by
    rw [toNat_millis_mod]
    omega

/-- A span, but no more than a year of 365 days. -/
def capped (d : Duration) : Duration := if d.whole < 31536000 then d else ofSeconds 31536000

/-- The nanoseconds of whole seconds. -/
@[simp] lemma toNanos_ofSeconds (n : UInt64) : (ofSeconds n).toNanos = seconds n.toNat :=
  Nat.add_zero _

/-- The nanoseconds of milliseconds. -/
@[simp] lemma toNanos_ofMillis (n : UInt64) : (ofMillis n).toNanos = millis n.toNat := by
  simp only [toNanos, ofMillis, toNat_millis_mod, UInt64.toNat_div, seconds, millis]
  change n.toNat / 1000 * 1000000000 + n.toNat % 1000 * 1000000 = n.toNat * 1000000
  omega

/-- The cut is made where the longest timeout lies. -/
lemma toNanos_capped (d : Duration) : d.capped.toNanos = min d.toNanos maxTimeout := by
  have hnanos := d.nanos_lt
  unfold capped
  split
  · next hlt =>
    have hwhole : d.whole.toNat < 31536000 := UInt64.lt_iff_toNat_lt.mp hlt
    simp only [toNanos, maxTimeout, seconds]
    omega
  · next hge =>
    have hwhole : 31536000 ≤ d.whole.toNat :=
      Nat.not_lt.mp fun hlt => hge (UInt64.lt_iff_toNat_lt.mpr hlt)
    rw [toNanos_ofSeconds]
    simp only [toNanos, maxTimeout, seconds]
    change 31536000 * 1000000000 = _
    omega

end Duration

namespace Argument

/-! ## Units -/

/-- `Measures ending size`: a number with this ending counts spans of so many nanoseconds. -/
inductive Measures : List Char → Nat → Prop
  /-- Milliseconds. -/
  | millis : Measures ['m', 's'] (millis 1)
  /-- Seconds. -/
  | seconds : Measures ['s'] (seconds 1)
  /-- Seconds are counted without a unit, too. -/
  | bare : Measures [] (seconds 1)

/-- The unit that is split off stands at the end. -/
lemma splitUnit_measures (text : List Char) :
    ∃ ending, text = (splitUnit text).1 ++ ending ∧ Measures ending (splitUnit text).2 := by
  unfold splitUnit
  split
  · next number h => exact ⟨_, (stripEnd?_eq_some_iff _ _ _).mp h, .millis⟩
  split
  · next number h => exact ⟨_, (stripEnd?_eq_some_iff _ _ _).mp h, .seconds⟩
  · exact ⟨[], (List.append_nil text).symm, .bare⟩

/-- A unit is split off behind anything that does not end as units do.

**Proof sketch.** The endings are tried from the longest to the shortest. None that is longer than
the unit fits, because the text in front of the unit holds no letter of a unit. -/
lemma splitUnit_append {number ending : List Char} {size : Nat} (h : Measures ending size)
    (hnumber : ∀ c ∈ number, c ≠ 'm' ∧ c ≠ 's') :
    splitUnit (number ++ ending) = (number, size) := by
  have hlacks {rest tail : List Char} {c : Char} (hc : c = 'm' ∨ c = 's') :
      number ≠ rest ++ c :: tail := by
    rintro rfl
    obtain ⟨hm, hs⟩ := hnumber c (List.mem_append_right rest List.mem_cons_self)
    exact hc.elim hm hs
  have hnone {text strip : List Char} (hne : ∀ rest, text ≠ rest ++ strip) :
      stripEnd? strip text = none :=
    Option.eq_none_iff_forall_ne_some.mpr fun rest hrest =>
      hne rest ((stripEnd?_eq_some_iff _ _ _).mp hrest)
  unfold splitUnit
  cases h with
  | millis => rw [(stripEnd?_eq_some_iff _ _ _).mpr rfl]
  | seconds =>
    have hlong : stripEnd? ['m', 's'] (number ++ ['s']) = none := hnone fun rest hrest => by
      have hcut : number ++ ['s'] = rest ++ ['m'] ++ ['s'] := by
        rw [hrest, List.append_assoc]
        rfl
      exact hlacks (.inl rfl) (List.append_cancel_right hcut)
    rw [hlong, (stripEnd?_eq_some_iff _ _ _).mpr rfl]
  | bare =>
    rw [List.append_nil, hnone fun rest => hlacks (.inl rfl), hnone fun rest => hlacks (.inr rfl)]

/-! ## Notations -/

/-- `IsTimeout text span`: the text is a timeout of so many nanoseconds. -/
inductive IsTimeout : List Char → Nat → Prop
  /-- A plus at most, a numeral, and a unit or none. -/
  | intro {sign digits ending : List Char} {n size : Nat} (optional : sign = [] ∨ sign = ['+'])
      (numeral : Text.Numeral 10 digits n) (least : 1 ≤ n) (most : n ≤ 2 ^ 64 - 1)
      (unit : Measures ending size) : IsTimeout (sign ++ digits ++ ending) (n * size)

/-- There is no unit in a number. -/
lemma ne_unit_of_mem_number {sign digits : List Char} {n : Nat}
    (optional : sign = [] ∨ sign = ['+']) (numeral : Text.Numeral 10 digits n) :
    ∀ c ∈ sign ++ digits, c ≠ 'm' ∧ c ≠ 's' := by
  intro c hc
  obtain hsign | hdigits := List.mem_append.mp hc
  · obtain rfl | rfl := optional
    · exact absurd hsign List.not_mem_nil
    · obtain rfl := List.mem_singleton.mp hsign
      decide
  · obtain ⟨d, hd⟩ := numeral.digitOf hdigits
    have hdigit := hd.isDigit (by decide)
    constructor <;> rintro rfl <;> exact absurd hdigit (by decide)

/-- **Which texts are timeouts,** and of which length: those whose trimmed form is a numeral with a
unit.

**Proof sketch.** A unit is split off at the end, and the rest is read as a number. These are the
parts of the grammar. Conversely, the unit of the grammar is the one that is split off, because no
number holds a letter of a unit. -/
theorem timeout_eq_ok_iff (input : String) (span : Nat) :
    timeout input = .ok span ↔ IsTimeout (Text.trim input.toList) span := by
  unfold timeout
  generalize Text.trim input.toList = text
  dsimp only
  split
  · next hempty =>
    refine iff_of_false nofun fun h => ?_
    obtain rfl := List.isEmpty_iff.mp hempty
    generalize htext : ([] : List Char) = text at h
    cases h with
    | intro optional numeral least most unit =>
      have hrow := List.append_eq_nil_iff.mp htext.symm
      exact numeral.nonempty (List.append_eq_nil_iff.mp hrow.1).2
  · next hne =>
    constructor
    · intro h
      obtain ⟨ending, htext, hunit⟩ := splitUnit_measures text
      split at h
      · cases h
      · cases h
      · next count hzero hcount =>
        obtain ⟨hmost, sign, digits, optional, hnumber, numeral⟩ :=
          (Text.readNumber?_eq_some_iff (by decide) _ _ _).mp hcount
        obtain rfl := Except.ok.inj h
        have hspells := IsTimeout.intro optional numeral (Nat.pos_of_ne_zero hzero) hmost hunit
        rwa [← hnumber, ← htext] at hspells
    · rintro ⟨optional, numeral, least, most, unit⟩
      next sign digits ending n size =>
      have hread : Text.readNumber? 10 maxCount (sign ++ digits) = some n :=
        (Text.readNumber?_eq_some_iff (by decide) _ _ _).mpr
          ⟨most, sign, digits, optional, rfl, numeral⟩
      rw [splitUnit_append unit (ne_unit_of_mem_number optional numeral)]
      dsimp only
      rw [hread]
      obtain ⟨k, rfl⟩ : ∃ k, n = k + 1 := ⟨n - 1, by omega⟩
      rfl

/-- A timeout that cannot be read is a mistake of the one who has written it. -/
lemma status_of_timeout_eq_error {input : String} {failure : Failure}
    (h : timeout input = .error failure) : failure.status = .usage := by
  unfold timeout at h
  dsimp only at h
  split at h
  · cases h
    rfl
  · split at h <;> cases h <;> rfl

/-! ## Machine words -/

/-- A product that takes no more than a word. -/
def mulWord? (a b : UInt64) : Option UInt64 :=
  if a.toNat * b.toNat < UInt64.size then some (a * b) else none

/-- A sum that takes no more than a word. -/
def addWord? (a b : UInt64) : Option UInt64 :=
  if a.toNat + b.toNat < UInt64.size then some (a + b) else none

/-- Go on with the number `value` over more digits. -/
def readWord? (value : UInt64) : List Char → Option UInt64
  | [] => some value
  | c :: rest =>
    (Text.digitIn? 10 c).bind fun d =>
      ((mulWord? value 10).bind (addWord? · (UInt64.ofNat d))).bind fun value =>
        readWord? value rest

/-- The number written by a text: a plus at most, then digits. -/
def readCount? : List Char → Option UInt64
  | [] => none
  | ['+'] => none
  | '+' :: digits => readWord? 0 digits
  | digits => readWord? 0 digits

/-- The span of a timeout. -/
def timeoutInWords (input : String) : Except Failure Duration :=
  let text := Text.trim input.toList
  if text.isEmpty then .error ⟨.usage, "duration must not be empty"⟩
  else
    let (number, unit) := splitUnit text
    match readCount? number with
    | none => .error ⟨.usage, "invalid duration value: " ++ String.ofList text⟩
    | some count =>
      if count = 0 then .error ⟨.usage, "duration must be greater than zero"⟩
      else if unit = millis 1 then .ok (.ofMillis count)
      else .ok (.ofSeconds count)

/-- A product is exact, or there is none. -/
lemma map_mulWord? (a b : UInt64) : (mulWord? a b).map UInt64.toNat =
    if a.toNat * b.toNat < UInt64.size then some (a.toNat * b.toNat) else none := by
  unfold mulWord?
  split
  · next h => rw [Option.map_some, UInt64.toNat_mul, Nat.mod_eq_of_lt h]
  · rfl

/-- So is a sum. -/
lemma map_addWord? (a b : UInt64) : (addWord? a b).map UInt64.toNat =
    if a.toNat + b.toNat < UInt64.size then some (a.toNat + b.toNat) else none := by
  unfold addWord?
  split
  · next h => rw [Option.map_some, UInt64.toNat_add, Nat.mod_eq_of_lt h]
  · rfl

/-- One more digit is put behind a number exactly if the result takes no more than a word.

**Proof sketch.** If ten times the number does not fit into a word, it does not with one more digit
either. If it does, the product is exact, and the sum fits exactly if it is within the bound. -/
lemma map_pushDigit (value : UInt64) {d : Nat} (hd : d < 10) :
    ((mulWord? value 10).bind (addWord? · (UInt64.ofNat d))).map UInt64.toNat =
      if value.toNat * 10 + d ≤ maxCount then some (value.toNat * 10 + d) else none := by
  have hdigit : (UInt64.ofNat d).toNat = d :=
    UInt64.toNat_ofNat_of_lt' (Nat.lt_trans hd (by decide))
  have hten : (10 : UInt64).toNat = 10 := rfl
  have hmul := map_mulWord? value 10
  rw [hten] at hmul
  cases hproduct : mulWord? value 10 with
  | none =>
    rw [hproduct] at hmul
    split at hmul
    · cases hmul
    · next hlarge =>
      rw [if_neg fun h => hlarge (Nat.lt_of_le_of_lt (Nat.le_of_add_right_le h) (by decide))]
      rfl
  | some product =>
    rw [hproduct] at hmul
    split at hmul
    · have hvalue : product.toNat = value.toNat * 10 := Option.some.inj hmul
      have hfits : value.toNat * 10 + d < UInt64.size ↔ value.toNat * 10 + d ≤ maxCount :=
        Nat.lt_iff_le_pred (by decide)
      rw [Option.bind_some, map_addWord?, hdigit, hvalue]
      simp only [hfits]
    · cases hmul

/-- Digits are read in words as they are read in numbers.

**Proof sketch.** Induction on the digits. By `map_pushDigit`, the next number fits into a word
exactly if it is within the bound, and then it is the same number. -/
lemma map_readWord? (value : UInt64) (text : List Char) :
    (readWord? value text).map UInt64.toNat =
      Text.readDigits? 10 maxCount value.toNat text := by
  induction text generalizing value with
  | nil => rfl
  | cons c text ih =>
    rw [readWord?, Text.readDigits?]
    cases hc : Text.digitIn? 10 c with
    | none => rfl
    | some d =>
      have hd := ((Text.digitIn?_eq_some_iff (by decide) c d).mp hc).1
      have hpush := map_pushDigit value hd
      rw [Option.bind_some]
      dsimp only
      cases hnext : (mulWord? value 10).bind (addWord? · (UInt64.ofNat d)) with
      | none =>
        rw [hnext] at hpush
        split at hpush
        · cases hpush
        · next hlarge =>
          rw [if_neg hlarge]
          rfl
      | some next =>
        rw [hnext] at hpush
        split at hpush
        · next hfits =>
          rw [Option.bind_some, ih, if_pos hfits]
          exact congrArg (Text.readDigits? 10 maxCount · text) (Option.some.inj hpush)
        · cases hpush

/-- So are signed numbers. -/
lemma map_readCount? (text : List Char) :
    (readCount? text).map UInt64.toNat = Text.readNumber? 10 maxCount text := by
  unfold readCount?
  split
  · rfl
  · rfl
  · next digits hdigits =>
    rw [Text.readNumber?]
    · exact map_readWord? 0 digits
    · exact hdigits
  · next hnil hplus hcons =>
    rw [Text.readNumber?]
    · exact map_readWord? 0 text
    · exact hnil
    · exact hplus
    · exact hcons

/-- **Machine words are wide enough:** what is read in words is what is read in numbers, for every
text and whatever the outcome.

**Proof sketch.** Both readers split the text in the same way and read the same number. For each
unit, the conversion of this number into a span is exact. -/
theorem toNanos_timeoutInWords (input : String) :
    (timeoutInWords input).map Duration.toNanos = timeout input := by
  unfold timeoutInWords timeout
  generalize Text.trim input.toList = text
  dsimp only
  split
  · rfl
  · obtain ⟨ending, -, hunit⟩ := splitUnit_measures text
    rw [← map_readCount?]
    cases readCount? (splitUnit text).1 with
    | none => rfl
    | some count =>
      rw [Option.map_some]
      dsimp only
      by_cases hzero : count = 0
      · rw [if_pos hzero, hzero]
        rfl
      · rw [if_neg hzero]
        obtain ⟨k, hk⟩ : ∃ k, count.toNat = k + 1 :=
          Nat.exists_eq_succ_of_ne_zero fun h => hzero (UInt64.toNat_inj.mp h)
        generalize (splitUnit text).2 = size at hunit
        cases hunit with
        | millis =>
          rw [if_pos rfl, hk]
          show Except.ok (Duration.ofMillis count).toNanos = .ok ((k + 1) * millis 1)
          rw [Duration.toNanos_ofMillis, hk]
          rfl
        | seconds | bare =>
          rw [if_neg (by decide), hk]
          show Except.ok (Duration.ofSeconds count).toNanos = .ok ((k + 1) * seconds 1)
          rw [Duration.toNanos_ofSeconds, hk]
          rfl

/-! ## The whole -/

/-- **Which timeouts are accepted, and what they stand for.** A text is accepted exactly if what is
left of it without the blanks at its ends is a plus or none, a decimal numeral of a number from one
to the largest of a word, and a unit or none; it stands for this number of milliseconds behind `ms`,
and of seconds otherwise. Whatever else is given is a mistake of use. Nothing is lost when all this
is computed in machine words. The deadline lies behind the present by the span of the timeout, or by
the longest timeout if that is less.

**Proof sketch.** A text has one trimmed form, and by `timeout_eq_ok_iff` the grammar is about this
form. The span in words is the same one, and capping it is taking the minimum. -/
theorem timeout_accepts (input : String) :
    (∀ span, timeout input = .ok span ↔
      ∃ core, Text.Trims input.toList core ∧ IsTimeout core span) ∧
    (∀ failure, timeout input = .error failure → failure.status = .usage) ∧
    (timeoutInWords input).map Duration.toNanos = timeout input ∧
    ∀ now span, timeout input = .ok span →
      (Deadline.after now span).instant = now + min span maxTimeout ∧
      ∃ d, timeoutInWords input = .ok d ∧
        now + d.capped.toNanos = (Deadline.after now span).instant := by
  have hwords := toNanos_timeoutInWords input
  refine ⟨fun span => ?_, fun failure => status_of_timeout_eq_error, hwords, ?_⟩
  · rw [timeout_eq_ok_iff]
    constructor
    · intro h
      exact ⟨_, Text.trims_trim _, h⟩
    · rintro ⟨core, htrims, h⟩
      rwa [(Text.trim_eq_iff _ _).mpr htrims]
  · intro now span hspan
    refine ⟨rfl, ?_⟩
    cases hd : timeoutInWords input with
    | error failure =>
      rw [hd, hspan] at hwords
      cases hwords
    | ok d =>
      rw [hd, hspan] at hwords
      refine ⟨d, rfl, ?_⟩
      rw [Duration.toNanos_capped, Except.ok.inj hwords]
      rfl

/-- Blanks, a plus and zeros in front do not matter, but the unit does; and zero is refused however
it is written. -/
theorem timeout_accepts_millis :
    timeout "\u3000+00250ms\n" = .ok 250000000 ∧
    (∃ core, Text.Trims "\u3000+00250ms\n".toList core ∧ IsTimeout core 250000000) ∧
    (Deadline.after 7 250000000).instant = 250000007 ∧
    timeout "+000s" = .error ⟨.usage, "duration must be greater than zero"⟩ ∧
    ¬ ∃ core span, Text.Trims "+000s".toList core ∧ IsTimeout core span := by
  obtain ⟨haccepted, -, -, hdeadline⟩ := timeout_accepts "\u3000+00250ms\n"
  have hread : timeout "\u3000+00250ms\n" = .ok 250000000 := by decide +kernel
  have hrefused : timeout "+000s" = .error ⟨.usage, "duration must be greater than zero"⟩ := by
    decide +kernel
  refine ⟨hread, (haccepted _).mp hread, (hdeadline 7 _ hread).1, hrefused, ?_⟩
  rintro ⟨core, span, hcore⟩
  have hspan := ((timeout_accepts "+000s").1 span).mpr ⟨core, hcore⟩
  rw [hrefused] at hspan
  cases hspan

end Argument

end FramedLink
