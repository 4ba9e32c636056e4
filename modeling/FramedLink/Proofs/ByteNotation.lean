import FramedLink.Proofs.Numerals

set_option autoImplicit false
set_option relaxedAutoImplicit false

/-!
# Bytes in decimal and hexadecimal

A byte is given by a decimal numeral, or by a hexadecimal one behind a mark. The digits behind the
mark, or all of the text if there is none, are read as a number, and a number may have a plus in
front. **So a plus is accepted where digits may begin, although no notation of a byte has a sign:**
in front of a decimal numeral, and between the mark and a hexadecimal one. Without a plus in it, a
text is accepted exactly if it is a notation of a byte.

## Main definitions

* `FramedLink.Argument.IsByte` — how bytes are written, with a sign or without.

## Main results

* `FramedLink.Argument.byte_eq_ok_iff` — which texts are read as bytes.
* `FramedLink.Argument.byte_accepts` — how far that goes beyond the notations of bytes.
* `FramedLink.Argument.not_byte_unsigned_only` — it does go beyond them.
-/

namespace FramedLink.Argument

variable {sign digits mark core : List Char} {n : Nat}

/-- `IsByte sign text n`: the text is a notation of the byte `n` with the sign in front of its
digits. -/
inductive IsByte (sign : List Char) : List Char → Nat → Prop
  /-- A decimal numeral. -/
  | decimal {digits : List Char} {n : Nat} (numeral : Text.Numeral 10 digits n)
      (fits : n ≤ 255) : IsByte sign (sign ++ digits) n
  /-- A hexadecimal numeral behind a mark. -/
  | hexadecimal {mark digits : List Char} {n : Nat}
      (marked : mark = ['0', 'x'] ∨ mark = ['0', 'X'])
      (numeral : Text.Numeral 16 digits n) (fits : n ≤ 255) :
      IsByte sign (mark ++ (sign ++ digits)) n

/-- A byte is no larger than 255. -/
lemma IsByte.fits (h : IsByte sign core n) : n ≤ 255 := by
  cases h with
  | decimal _ fits => exact fits
  | hexadecimal _ _ fits => exact fits

/-! ## Marks -/

/-- The mark of hexadecimal notation, in either letter case, is taken off. -/
lemma stripMark_eq_some_iff (text rest : List Char) :
    (stripStart? ['0', 'x'] text).or (stripStart? ['0', 'X'] text) = some rest ↔
      ∃ mark, (mark = ['0', 'x'] ∨ mark = ['0', 'X']) ∧ text = mark ++ rest := by
  rw [Option.or_eq_some_iff, stripStart?_eq_some_iff, stripStart?_eq_some_iff]
  constructor
  · rintro (rfl | ⟨-, rfl⟩)
    · exact ⟨_, .inl rfl, rfl⟩
    · exact ⟨_, .inr rfl, rfl⟩
  · rintro ⟨mark, rfl | rfl, rfl⟩
    · exact .inl rfl
    · exact .inr ⟨rfl, rfl⟩

/-- No decimal numeral begins like a mark, be there a plus in front or not. -/
lemma ne_mark_append (optional : sign = [] ∨ sign = ['+']) (numeral : Text.Numeral 10 digits n)
    (marked : mark = ['0', 'x'] ∨ mark = ['0', 'X']) (rest : List Char) :
    sign ++ digits ≠ mark ++ rest := by
  obtain ⟨x, rfl, hx⟩ : ∃ x, mark = ['0', x] ∧ ¬ Hex.IsDigit x := by
    obtain rfl | rfl := marked
    · exact ⟨'x', rfl, by decide⟩
    · exact ⟨'X', rfl, by decide⟩
  intro h
  obtain rfl | rfl := optional
  · obtain rfl : digits = '0' :: x :: rest := h
    obtain ⟨d, hd⟩ := numeral.digitOf (List.mem_cons_of_mem _ List.mem_cons_self)
    exact hx (hd.isDigit (by decide))
  · obtain ⟨hplus, -⟩ := List.cons.inj h
    exact absurd hplus (by decide)

/-! ## Bytes -/

/-- The number in the text of a byte. -/
def byteValue? (text : List Char) : Option Nat :=
  match (stripStart? ['0', 'x'] text).or (stripStart? ['0', 'X'] text) with
  | some digits => Text.readNumber? 16 255 digits
  | none => Text.readNumber? 10 255 text

/-- Which texts have the number of a byte.

**Proof sketch.** The mark decides on the radix. Behind a mark a text is no decimal numeral, since
none starts in this way; without a mark it is no hexadecimal one. -/
lemma byteValue?_eq_some_iff (text : List Char) (n : Nat) :
    byteValue? text = some n ↔ ∃ sign, (sign = [] ∨ sign = ['+']) ∧ IsByte sign text n := by
  unfold byteValue?
  cases hmark : (stripStart? ['0', 'x'] text).or (stripStart? ['0', 'X'] text) with
  | some rest =>
    obtain ⟨mark, marked, rfl⟩ := (stripMark_eq_some_iff text rest).mp hmark
    dsimp only
    rw [Text.readNumber?_eq_some_iff (by decide)]
    constructor
    · rintro ⟨fits, sign, digits, optional, rfl, numeral⟩
      exact ⟨sign, optional, .hexadecimal marked numeral fits⟩
    · rintro ⟨sign, optional, h⟩
      generalize htext : mark ++ rest = text at h
      cases h with
      | decimal numeral fits =>
        exact absurd htext.symm (ne_mark_append optional numeral marked rest)
      | @hexadecimal mark' digits _ marked' numeral fits =>
        have hrest : some rest = some (sign ++ digits) := by
          rw [← hmark, htext]
          exact (stripMark_eq_some_iff _ _).mpr ⟨mark', marked', rfl⟩
        exact ⟨fits, sign, digits, optional, Option.some.inj hrest, numeral⟩
  | none =>
    dsimp only
    rw [Text.readNumber?_eq_some_iff (by decide)]
    constructor
    · rintro ⟨fits, sign, digits, optional, rfl, numeral⟩
      exact ⟨sign, optional, .decimal numeral fits⟩
    · rintro ⟨sign, optional, h⟩
      cases h with
      | decimal numeral fits => exact ⟨fits, sign, _, optional, rfl, numeral⟩
      | hexadecimal marked numeral fits =>
        rw [(stripMark_eq_some_iff _ _).mpr ⟨_, marked, rfl⟩] at hmark
        cases hmark

/-- The outcome of reading a byte by the number in the trimmed text. -/
lemma byte_eq (input : String) :
    byte input = (byteValue? (Text.trim input.toList)).elim
      (.error ("expected a byte value, got " ++
        Text.quoted (String.ofList (Text.trim input.toList)))) (.ok <| UInt8.ofNat ·) := by
  unfold byte byteValue?
  dsimp only
  split <;> split <;> simp_all

/-- **Which texts are read as bytes:** those whose trimmed form is a notation of the byte, with a
plus in front of the digits or without. -/
theorem byte_eq_ok_iff (input : String) (v : UInt8) :
    byte input = .ok v ↔ ∃ core sign, Text.Trims input.toList core ∧
      (sign = [] ∨ sign = ['+']) ∧ IsByte sign core v.toNat := by
  have hvalue : byte input = .ok v ↔ byteValue? (Text.trim input.toList) = some v.toNat := by
    rw [byte_eq]
    cases hn : byteValue? (Text.trim input.toList) with
    | none => exact iff_of_false nofun nofun
    | some n =>
      obtain ⟨sign, -, h⟩ := (byteValue?_eq_some_iff _ n).mp hn
      have hsmall : (UInt8.ofNat n).toNat = n :=
        UInt8.toNat_ofNat_of_lt' (Nat.lt_succ_of_le h.fits)
      rw [Option.elim_some, Except.ok.injEq, Option.some.injEq, ← UInt8.toNat_inj, hsmall]
  rw [hvalue, byteValue?_eq_some_iff]
  constructor
  · rintro ⟨sign, optional, h⟩
    exact ⟨_, sign, Text.trims_trim _, optional, h⟩
  · rintro ⟨core, sign, htrims, optional, h⟩
    rw [(Text.trim_eq_iff _ _).mpr htrims]
    exact ⟨sign, optional, h⟩

/-- What is not read as a byte is refused with the text as it has been read. -/
lemma byte_eq_error_iff (input : String) (message : String) :
    byte input = .error message ↔
      message = "expected a byte value, got " ++
          Text.quoted (String.ofList (Text.trim input.toList)) ∧
        ¬ ∃ v, byte input = .ok v := by
  rw [byte_eq]
  cases byteValue? (Text.trim input.toList) with
  | none => simp [eq_comm]
  | some n => simp

/-! ## Signs -/

/-- The only plus of a notation is its sign. -/
lemma IsByte.plus_mem_iff (h : IsByte sign core n) : '+' ∈ core ↔ '+' ∈ sign := by
  cases h with
  | decimal numeral fits =>
    rw [List.mem_append, or_iff_left (numeral.not_mem_plus (by decide))]
  | hexadecimal marked numeral fits =>
    rw [List.mem_append, List.mem_append, or_iff_left (numeral.not_mem_plus (by decide)),
      or_iff_right]
    obtain rfl | rfl := marked <;> decide

/-- **Which bytes are accepted.** A text is accepted exactly if what is left of it without the
blanks at its ends is a decimal numeral of a number up to 255, or a hexadecimal one behind the mark
`0x` or `0X`, with a plus in front of the digits or without. It is a notation of the byte without a
sign exactly if there is no plus in it besides. Whatever else is given is refused. -/
theorem byte_accepts (input : String) :
    (∀ v, byte input = .ok v ↔ ∃ core sign, Text.Trims input.toList core ∧
      (sign = [] ∨ sign = ['+']) ∧ IsByte sign core v.toNat) ∧
    (∀ v, (∃ core, Text.Trims input.toList core ∧ IsByte [] core v.toNat) ↔
      byte input = .ok v ∧ '+' ∉ input.toList) ∧
    ∀ message, byte input = .error message ↔
      message = "expected a byte value, got " ++
          Text.quoted (String.ofList (Text.trim input.toList)) ∧
        ¬ ∃ v, byte input = .ok v := by
  have hblank : Text.isBlank '+' = false := by decide
  refine ⟨byte_eq_ok_iff input, fun v => ?_, byte_eq_error_iff input⟩
  rw [byte_eq_ok_iff]
  constructor
  · rintro ⟨core, htrims, h⟩
    refine ⟨⟨core, [], htrims, .inl rfl, h⟩, ?_⟩
    rw [← htrims.mem_iff hblank, h.plus_mem_iff]
    exact List.not_mem_nil
  · rintro ⟨⟨core, sign, htrims, rfl | rfl, h⟩, hplus⟩
    · exact ⟨core, htrims, h⟩
    · rw [← htrims.mem_iff hblank, h.plus_mem_iff] at hplus
      exact absurd (List.mem_singleton_self '+') hplus

/-- Not only notations without a sign are accepted. -/
theorem not_byte_unsigned_only :
    ¬ ∀ (input : String) (v : UInt8), byte input = .ok v ↔
      ∃ core, Text.Trims input.toList core ∧ IsByte [] core v.toNat := by
  intro h
  obtain ⟨core, htrims, hbyte⟩ := (h "+18" 18).mp (by decide +kernel)
  have hplus : '+' ∈ core := (htrims.mem_iff (by decide)).mpr (by decide +kernel)
  exact absurd (hbyte.plus_mem_iff.mp hplus) List.not_mem_nil

/-- A plus is taken behind the mark, but not in front of it. -/
example : byte " 0X+0f " = .ok 15 ∧ byte "+0x0f" ≠ .ok 15 := by decide +kernel

end FramedLink.Argument
