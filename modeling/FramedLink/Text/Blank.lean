set_option autoImplicit false
set_option relaxedAutoImplicit false

/-!
# Blanks

The characters that count as white space in running text, and the text between the blanks at
either end.

## Main definitions

* `FramedLink.Text.isBlank` — the class of white space.
* `FramedLink.Text.trim` — a text without the blanks at its ends.
* `FramedLink.Text.Trims` — what is left of a text without the blanks at its ends.

## Main results

* `FramedLink.Text.isBlank_of_isWhitespace` — the class contains the white space of ASCII.
* `FramedLink.Text.trim_eq_iff` — what is trimmed away is blank, and what is left neither starts
  nor ends with a blank; there is only one such text.
-/

namespace FramedLink.Text

/-- White space: the controls from tab to carriage return, the next-line control, the space and
the separators. -/
def isBlank (c : Char) : Bool :=
  let n := c.toNat
  (0x9 ≤ n && n ≤ 0xD) || n == 0x20 || n == 0x85 || n == 0xA0 || n == 0x1680 ||
    (0x2000 ≤ n && n ≤ 0x200A) || n == 0x2028 || n == 0x2029 || n == 0x202F || n == 0x205F ||
    n == 0x3000

/-- A text without the blanks at its ends. -/
def trim (text : List Char) : List Char :=
  ((text.dropWhile isBlank).reverse.dropWhile isBlank).reverse

/-- The class contains the white space of ASCII. -/
theorem isBlank_of_isWhitespace {c : Char} (h : c.isWhitespace = true) : isBlank c = true := by
  simp only [Char.isWhitespace, Bool.or_eq_true, decide_eq_true_eq] at h
  rcases h with ((rfl | rfl) | rfl) | rfl <;> decide

/-- `Trims text core`: the core is what is left of the text without the blanks at its ends. -/
structure Trims (text core : List Char) : Prop where
  /-- There is nothing but blanks around the core. -/
  around : ∃ front back, text = front ++ core ++ back ∧
    front.all isBlank = true ∧ back.all isBlank = true
  /-- The core does not start with a blank. -/
  head : ∀ c ∈ core.head?, isBlank c = false
  /-- The core does not end with a blank. -/
  last : ∀ c ∈ core.getLast?, isBlank c = false

/-- No character but blanks is lost. -/
theorem Trims.mem_iff {text core : List Char} {c : Char} (h : Trims text core)
    (hc : isBlank c = false) : c ∈ core ↔ c ∈ text := by
  obtain ⟨front, back, rfl, hfront, hback⟩ := h.around
  have hnot (blanks : List Char) (hblanks : blanks.all isBlank = true) : c ∉ blanks := by
    intro hmem
    rw [List.all_eq_true.mp hblanks c hmem] at hc
    cases hc
  rw [List.mem_append, List.mem_append, or_iff_right (hnot front hfront),
    or_iff_left (hnot back hback)]

/-- A text is its trimmed form between blanks.

**Proof sketch.** Blanks are dropped at the front, and then, from the text read backwards, at the
back. What is left starts with no blank in either direction. -/
theorem trims_trim (text : List Char) : Trims text (trim text) := by
  have cut (xs : List Char) : ∃ back, xs = (xs.reverse.dropWhile isBlank).reverse ++ back ∧
      back.all isBlank = true := by
    refine ⟨(xs.reverse.takeWhile isBlank).reverse, ?_, ?_⟩
    · rw [← List.reverse_append, List.takeWhile_append_dropWhile, List.reverse_reverse]
    · simp
  have head (xs : List Char) : ∀ c ∈ (xs.dropWhile isBlank).head?, isBlank c = false := by
    induction xs with
    | nil => simp
    | cons x xs ih =>
      rw [List.dropWhile_cons]
      split
      · exact ih
      · next hx => simpa using hx
  obtain ⟨back, hback, hblank⟩ := cut (text.dropWhile isBlank)
  refine ⟨⟨text.takeWhile isBlank, back, ?_, by simp, hblank⟩, ?_, ?_⟩
  · rw [trim, List.append_assoc, ← hback, List.takeWhile_append_dropWhile]
  · intro c hc
    have : c ∈ (text.dropWhile isBlank).head? := by
      rw [trim, Option.mem_def] at hc
      rw [hback, List.head?_append, hc]
      rfl
    exact head text c this
  · intro c hc
    rw [trim, List.getLast?_reverse] at hc
    exact head _ c hc

/-- Blanks in front of a text are dropped, but no other character is. -/
theorem dropWhile_blank_append (front text : List Char) (hfront : front.all isBlank = true)
    (hhead : ∀ c ∈ text.head?, isBlank c = false) :
    (front ++ text).dropWhile isBlank = text := by
  induction front with
  | nil =>
    cases text with
    | nil => rfl
    | cons c text => rw [List.nil_append, List.dropWhile_cons, hhead c rfl, if_neg nofun]
  | cons c front ih =>
    rw [List.all_cons, Bool.and_eq_true] at hfront
    rw [List.cons_append, List.dropWhile_cons, if_pos hfront.1, ih hfront.2]

/-- **The trimmed form of a text is the only one:** what lies between blanks, and neither starts nor
ends with a blank. -/
theorem trim_eq_iff (text core : List Char) : trim text = core ↔ Trims text core := by
  constructor
  · rintro rfl
    exact trims_trim text
  · rintro ⟨⟨front, back, rfl, hfront, hback⟩, hhead, hlast⟩
    cases core with
    | nil =>
      -- the text is blank throughout
      have hblank : (front ++ [] ++ back).all isBlank = true := by
        rw [List.append_nil, List.all_append, hfront, hback, Bool.true_and]
      have hdrop := dropWhile_blank_append _ [] hblank nofun
      rw [List.append_nil] at hdrop
      rw [trim, hdrop]
      rfl
    | cons c core =>
      rw [trim, List.append_assoc, dropWhile_blank_append front (c :: core ++ back) hfront hhead,
        List.reverse_append, dropWhile_blank_append _ _ (by rwa [List.all_reverse])
          (by rwa [List.head?_reverse]), List.reverse_reverse]

end FramedLink.Text
