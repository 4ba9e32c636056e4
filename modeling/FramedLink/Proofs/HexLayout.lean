import FramedLink.Proofs.HexPayload

set_option autoImplicit false
set_option relaxedAutoImplicit false

/-!
# Layouts of hexadecimal notation

Bytes are written in lower case and without gaps, but they may be read in any layout: white space
may stand anywhere, and letters may be of either case. **What is read from any layout of a notation
is what has been written,** and the layouts of notations are all that is read, apart from texts with
a plus in them.

## Main definitions

* `FramedLink.Argument.LaidOut` — a text is a layout of some digits.

## Main results

* `FramedLink.Argument.denotes_iff` — a notation is known by its lower-case form alone.
* `FramedLink.Argument.laidOut_iff` — the layouts of digits are the texts that have these digits
  left when white space and letter case are taken away.
* `FramedLink.Argument.payload_laidOut` — the layouts of a notation are read as its bytes.
-/

namespace FramedLink

/-! ## Lower case -/

namespace Hex

/-- The lower-case digits are digits. -/
lemma isDigit_digit : ∀ n < 16, IsDigit (digit n) := by decide

/-- They stay as they are in lower case. -/
lemma toLower_digit : ∀ n < 16, (digit n).toLower = digit n := by decide

/-- Bytes are written with digits below sixteen. -/
lemma mem_ofBytes {c : Char} {bytes : List UInt8} (h : c ∈ ofBytes bytes) :
    ∃ n < 16, c = digit n := by
  obtain ⟨b, -, hc⟩ := List.mem_flatMap.mp h
  have hb := b.toNat_lt
  simp only [ofByte, List.mem_cons, List.not_mem_nil, or_false] at hc
  obtain rfl | rfl := hc
  · exact ⟨b.toNat / 16, by omega, rfl⟩
  · exact ⟨b.toNat % 16, by omega, rfl⟩

/-- What is a digit in lower case is one as it stands. -/
lemma isDigit_of_toLower {c : Char} (h : IsDigit c.toLower) : IsDigit c := by
  unfold Char.toLower at h
  split at h
  · next hupper =>
    -- an upper-case letter is moved by as much as the cases lie apart
    unfold IsDigit at h ⊢
    simp only [Char.le_def, UInt32.le_iff_toNat_le, ge_iff_le, UInt32.toNat_add] at h hupper ⊢
    change 48 ≤ (c.val.toNat + 32) % 4294967296 ∧ (c.val.toNat + 32) % 4294967296 ≤ 57 ∨
      97 ≤ (c.val.toNat + 32) % 4294967296 ∧ (c.val.toNat + 32) % 4294967296 ≤ 102 ∨
      65 ≤ (c.val.toNat + 32) % 4294967296 ∧ (c.val.toNat + 32) % 4294967296 ≤ 70 at h
    change 65 ≤ c.val.toNat ∧ c.val.toNat ≤ 90 at hupper
    change 48 ≤ c.val.toNat ∧ c.val.toNat ≤ 57 ∨ 97 ≤ c.val.toNat ∧ c.val.toNat ≤ 102 ∨
      65 ≤ c.val.toNat ∧ c.val.toNat ≤ 70
    omega
  · exact h

end Hex

namespace Argument

open Hex (IsDigit digit)

variable {c : Char} {digits text : List Char} {bytes : List UInt8}

/-- **A notation is known by its lower-case form alone.** -/
theorem denotes_iff : Denotes text bytes ↔ text.map Char.toLower = Hex.ofBytes bytes := by
  refine ⟨And.right, fun hlower => ⟨fun c hc => ?_, hlower⟩⟩
  have hmem : c.toLower ∈ Hex.ofBytes bytes := hlower ▸ List.mem_map_of_mem hc
  obtain ⟨n, hn, hdigit⟩ := Hex.mem_ofBytes hmem
  exact Hex.isDigit_of_toLower (hdigit ▸ Hex.isDigit_digit n hn)

/-! ## Layouts -/

/-- `LaidOut digits text`: the text is made from the digits by a change of letter case and by white
space of ASCII at any places. -/
inductive LaidOut : List Char → List Char → Prop
  /-- Nothing is laid out. -/
  | nil : LaidOut [] []
  /-- A digit, in either letter case. -/
  | digit {c c' : Char} {digits text : List Char} (same : c'.toLower = c.toLower)
      (rest : LaidOut digits text) : LaidOut (c :: digits) (c' :: text)
  /-- White space. -/
  | blank {c : Char} {digits text : List Char} (white : c ∈ [' ', '\t', '\n', '\x0c', '\r'])
      (rest : LaidOut digits text) : LaidOut digits (c :: text)

/-- White space is what may stand in a payload. -/
lemma isLayout_iff : isLayout c = true ↔ c ∈ [' ', '\t', '\n', '\x0c', '\r'] := by
  simp [isLayout, or_assoc]

/-- No white space is a digit, in whatever case. -/
lemma isLayout_of_toLower (h : ∃ n < 16, c.toLower = digit n) : isLayout c = false := by
  obtain ⟨n, hn, hlower⟩ := h
  have hdigit : IsDigit c := Hex.isDigit_of_toLower (hlower ▸ Hex.isDigit_digit n hn)
  have hwhite : ∀ c ∈ [' ', '\t', '\n', '\x0c', '\r'], ¬ IsDigit c := by simp [IsDigit]
  rw [← Bool.not_eq_true, isLayout_iff]
  exact fun hmem => hwhite c hmem hdigit

/-- **The layouts of digits** are the texts that have these digits left when white space and letter
case are taken away.

**Proof sketch.** From left to right by induction on the layout. From right to left by induction on
the text: white space is taken away, and any other character is the first digit but for its case. -/
theorem laidOut_iff (hdigits : ∀ c ∈ digits, ∃ n < 16, c = digit n) :
    LaidOut digits text ↔ (text.filter (!isLayout ·)).map Char.toLower = digits := by
  constructor
  · intro h
    induction h with
    | nil => rfl
    | @digit c c' digits text same rest ih =>
      obtain ⟨n, hn, rfl⟩ := hdigits c List.mem_cons_self
      rw [Hex.toLower_digit n hn] at same
      rw [List.filter_cons_of_pos (by simp [isLayout_of_toLower ⟨n, hn, same⟩]), List.map_cons,
        same, ih fun c hc => hdigits c (List.mem_cons_of_mem _ hc)]
    | blank white rest ih =>
      rw [List.filter_cons_of_neg (by simp [isLayout_iff.mpr white]), ih hdigits]
  · intro h
    induction text generalizing digits with
    | nil =>
      obtain rfl : [] = digits := h
      exact .nil
    | cons c' text ih =>
      by_cases hblank : isLayout c' = true
      · rw [List.filter_cons_of_neg (by simp [hblank])] at h
        exact .blank (isLayout_iff.mp hblank) (ih hdigits h)
      · rw [List.filter_cons_of_pos (by simp [hblank]), List.map_cons] at h
        obtain rfl := h
        obtain ⟨n, hn, hlower⟩ := hdigits c'.toLower List.mem_cons_self
        refine .digit ?_ (ih (fun c hc => hdigits c (List.mem_cons_of_mem _ hc)) rfl)
        rw [hlower, Hex.toLower_digit n hn]

/-- A text is a layout of the notation of some bytes exactly if it is this notation apart from white
space. -/
lemma laidOut_ofBytes_iff (input : String) :
    LaidOut (Hex.ofBytes bytes) input.toList ↔ Denotes (significant input) bytes := by
  rw [laidOut_iff fun c hc => Hex.mem_ofBytes hc, denotes_iff, significant]

/-- A plus is not white space. -/
lemma plus_mem_significant (input : String) : '+' ∈ significant input ↔ '+' ∈ input.toList := by
  rw [significant, List.mem_filter]
  exact and_iff_left (by decide)

/-- **The layouts of a notation are read as its bytes:** take the digits that are written for some
bytes, change the case of any letters and put white space of ASCII at any places. Then the text is
read as these bytes. Nothing else is read as these bytes, save texts with a plus in them. -/
theorem payload_laidOut (bytes : List UInt8) (input : String) :
    LaidOut (Hex.ofBytes bytes) input.toList ↔ payload input = .ok bytes ∧ '+' ∉ input.toList := by
  rw [laidOut_ofBytes_iff, payload_eq_ok_iff, ← plus_mem_significant]
  constructor
  · intro hdenotes
    rw [signless_of_not_mem hdenotes.not_mem_plus]
    exact ⟨hdenotes, hdenotes.not_mem_plus⟩
  · rintro ⟨hdenotes, hplus⟩
    rwa [signless_of_not_mem hplus] at hdenotes

end Argument

end FramedLink
