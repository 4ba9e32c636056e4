import FramedLink.Text.CharWidth
import FramedLink.Text.Emoji

set_option autoImplicit false
set_option relaxedAutoImplicit false

/-!
# Columns taken by a text

A text takes the columns of its characters, except where some of them are drawn as one: letters
that make a ligature, and pictures with a selector, a skin tone or a joiner. Whether a character
is drawn on its own depends on what follows it, so a text is read from its end.

## Main definitions

* `FramedLink.Text.Following` — what has been read of a text, as far as it bears on the character
  before it.
* `FramedLink.Text.weigh` — the columns that a character adds to what follows it.
* `FramedLink.Text.width` — the columns of a text.

## Main results

* `FramedLink.Text.columns_append_blank` — a space keeps what is before it apart from what is
  after it.
-/

namespace FramedLink.Text

/-! ## What follows a character -/

/-- The letters that a ligature may end with, each with what has been read of the ligature. -/
inductive Ending where
  /-- The Hebrew letter that joins an alef. -/
  | lamed
  /-- The Buginese letter that joins a vowel sign. -/
  | ya
  /-- That letter with its vowel sign. -/
  | vowelYa
  /-- A consonant of Tifinagh. -/
  | consonant
  /-- Such a consonant behind a consonant joiner. -/
  | joinedConsonant
  /-- A tone letter of Lisu that joins another one. -/
  | toneLetter
  /-- The Old Turkic vowel that joins a consonant. -/
  | orkhonI
  /-- A Khmer letter that can be written below another one. -/
  | subscribed
  deriving DecidableEq, Repr

/-- What follows a character, as far as it bears on the columns that the character takes. -/
inductive Following where
  /-- Nothing that would be drawn together with it. -/
  | plain
  /-- An Arabic alef. -/
  | alef
  /-- The end of a ligature, with or without a joiner in front. -/
  | ending (letter : Ending) (behindJoiner : Bool)
  /-- The vowel sign `e` of Kirat Rai. -/
  | vowelE
  /-- The vowel sign `ai` of Kirat Rai. -/
  | vowelAi
  /-- A picture. -/
  | picture
  /-- A skin tone. -/
  | tone
  /-- A number of flag letters. -/
  | flagLetters (count : Nat)
  /-- A joiner and a picture. -/
  | joined
  /-- The frame of a key, a joiner and a picture. -/
  | joinedKey
  /-- A number of flag letters, a joiner and a picture. -/
  | joinedFlagLetters (count : Nat)
  /-- A number of tag digits, of tag letters, the end of the tags, a joiner and a picture. -/
  | joinedTags (letters digits : Nat)
  deriving DecidableEq, Repr

/-- The characters that choose a form of the character before them. -/
inductive Selector where
  /-- The selector of the picture. -/
  | picture
  /-- The selector of the plain sign. -/
  | plain
  /-- The selector of the wide form. -/
  | wide
  deriving DecidableEq, Repr

/-- What follows a character: a selector, if there is one, and what is behind it. -/
structure Context where
  /-- What follows, without the selector. -/
  following : Following
  /-- The selector. -/
  selector : Option Selector
  deriving DecidableEq, Repr

/-- What is there at the end of a text. -/
def Context.blank : Context := ⟨.plain, none⟩

/-! ## Classes of letters -/

/-- The selector of the wide form. -/
def wideSelector : Char := Char.ofNat 0xFE01

/-- The selector that a character is. -/
def selector? (c : Char) : Option Selector :=
  if c = pictureSelector then some .picture
  else if c = plainSelector then some .plain
  else if c = wideSelector then some .wide
  else none

/-- A quotation mark that has a wide form. -/
def isQuotationMark (c : Char) : Bool :=
  c.toNat == 0x2018 || c.toNat == 0x2019 || c.toNat == 0x201C || c.toNat == 0x201D

/-- An Arabic letter of the shape of alef. -/
def isAlef (c : Char) : Bool :=
  inRanges [(0x622, 0x623), (0x625, 0x625), (0x627, 0x627), (0x671, 0x673), (0x675, 0x675),
    (0x773, 0x774), (0x870, 0x882)] c

/-- An Arabic letter of the shape of lam. -/
def isLam (c : Char) : Bool :=
  inRanges [(0x644, 0x644), (0x6B5, 0x6B8), (0x76A, 0x76A), (0x8A6, 0x8A6), (0x8C7, 0x8C7)] c

/-- The ranges of the characters that take no column and yet come between Arabic letters,
ascending. -/
def interruptingRanges : List (Nat × Nat) :=
  [(0x605, 0x605), (0x890, 0x891), (0x8E2, 0x8E2), (0x9BE, 0x9BE), (0x9D7, 0x9D7), (0xB3E, 0xB3E),
    (0xB57, 0xB57), (0xBBE, 0xBBE), (0xBD7, 0xBD7), (0xCC0, 0xCC0), (0xCC2, 0xCC2), (0xCC7, 0xCC8),
    (0xCCA, 0xCCB), (0xCD5, 0xCD6), (0xD3E, 0xD3E), (0xD4E, 0xD4E), (0xD57, 0xD57), (0xDCF, 0xDCF),
    (0xDDF, 0xDDF), (0x1160, 0x11FF), (0x1715, 0x1715), (0x1734, 0x1734), (0x180E, 0x180E),
    (0x1B35, 0x1B35), (0x1B3B, 0x1B3B), (0x1B3D, 0x1B3D), (0x1B43, 0x1B44), (0x1BAA, 0x1BAA),
    (0x1BF2, 0x1BF3), (0x200C, 0x200D), (0x2065, 0x2069), (0x302E, 0x302F), (0x3164, 0x3164),
    (0xA8FA, 0xA8FA), (0xA953, 0xA953), (0xA9C0, 0xA9C0), (0xD7B0, 0xD7C6), (0xD7CB, 0xD7FB),
    (0xFFA0, 0xFFA0), (0xFFF0, 0xFFF8), (0x111C0, 0x111C0), (0x111C2, 0x111C3), (0x11235, 0x11235),
    (0x1133E, 0x1133E), (0x1134D, 0x1134D), (0x11357, 0x11357), (0x113B8, 0x113B8),
    (0x113C2, 0x113C2), (0x113C5, 0x113C5), (0x113C7, 0x113C9), (0x113CF, 0x113CF),
    (0x113D1, 0x113D1), (0x114B0, 0x114B0), (0x114BD, 0x114BD), (0x115AF, 0x115AF),
    (0x116B6, 0x116B6), (0x11930, 0x11930), (0x1193D, 0x1193D), (0x1193F, 0x1193F),
    (0x11941, 0x11941), (0x11A3A, 0x11A3A), (0x11A84, 0x11A89), (0x11D46, 0x11D46),
    (0x11F02, 0x11F02), (0x11F41, 0x11F41), (0x16FF0, 0x16FF1), (0x1D165, 0x1D166),
    (0x1D16D, 0x1D172), (0xE0000, 0xE0000), (0xE0002, 0xE001F), (0xE0080, 0xE00FF),
    (0xE01F0, 0xE0FFF)]

/-- A character that takes no column and does not come between Arabic letters. -/
def isTransparent (c : Char) : Bool := charWidth c == 0 && !inRanges interruptingRanges c

/-- A mark that is not drawn. -/
def isHiddenMark (c : Char) : Bool :=
  inRanges [(0x34F, 0x34F), (0x17B4, 0x17B5), (0x180B, 0x180D), (0x180F, 0x180F),
    (0xFE00, 0xFE0F), (0xE0100, 0xE01EF)] c

/-- A consonant of Tifinagh. -/
def isTifinagh (c : Char) : Bool := inRanges [(0x2D31, 0x2D65), (0x2D6F, 0x2D6F)] c

/-- A Khmer letter that can be written below another one. -/
def isSubscribed (c : Char) : Bool :=
  inRanges [(0x1780, 0x1782), (0x1784, 0x1787), (0x1789, 0x178C), (0x178E, 0x1793),
    (0x1795, 0x1798), (0x179B, 0x179D), (0x17A0, 0x17A0), (0x17A2, 0x17A2), (0x17A7, 0x17A7),
    (0x17AB, 0x17AC), (0x17AF, 0x17AF)] c

/-- A letter of a tag. -/
def isTagLetter (c : Char) : Bool := 0xE0061 ≤ c.toNat && c.toNat ≤ 0xE007A

/-- A digit of a tag. -/
def isTagDigit (c : Char) : Bool := 0xE0030 ≤ c.toNat && c.toNat ≤ 0xE0039

/-! ## The columns that a character adds -/

/-- What a character is to the one before it. -/
def Following.ofChar (c : Char) : Following :=
  let n := c.toNat
  if n < 0x300 then .plain
  else if n = 0x5DC then .ending .lamed false
  else if n = 0x1A10 then .ending .ya false
  else if n = 0xA4FC ∨ n = 0xA4FD then .ending .toneLetter true
  else if n = 0x10C03 then .ending .orkhonI false
  else if n = 0x16D67 then .vowelE
  else if n = 0x16D68 then .vowelAi
  else if isAlef c then .alef
  else if isSubscribed c then .ending .subscribed true
  else if isTifinagh c then .ending .consonant false
  else if isTone c then .tone
  else if isFlagLetter c then .flagLetters 1
  else if isPictured c then .picture
  else .plain

/-- A character that is drawn on its own. -/
def alone (c : Char) : Int × Following := (charWidth c, .ofChar c)

/-- The columns that a character adds to the end of a ligature, and what it is to the character
before it. -/
def Ending.weigh (letter : Ending) (behindJoiner : Bool) (c : Char) : Int × Following :=
  match letter with
  | .lamed => if behindJoiner ∧ c.toNat = 0x5D0 then (0, .plain) else alone c
  | .ya => if behindJoiner ∧ c.toNat = 0x1A17 then (0, .ending .vowelYa true) else alone c
  | .vowelYa => if c.toNat = 0x1A15 then (0, .plain) else alone c
  | .consonant =>
    if c = consonantJoiner then (1, .ending .joinedConsonant true)
    else if behindJoiner ∧ isTifinagh c then (0, .plain)
    else alone c
  | .joinedConsonant => if isTifinagh c then (-1, .plain) else alone c
  | .toneLetter => if 0xA4F8 ≤ c.toNat ∧ c.toNat ≤ 0xA4FB then (0, .plain) else alone c
  | .orkhonI => if behindJoiner ∧ c.toNat = 0x10C32 then (0, .plain) else alone c
  | .subscribed => if c.toNat = 0x17D2 then (-1, .plain) else alone c

/-- The columns that a character adds to what follows it, and what it is to the character before
it. A number below zero takes back columns that the character before it turns out not to need. -/
def Following.weigh (next : Following) (c : Char) : Int × Following :=
  match next with
  | .plain | .joinedKey => alone c
  | .alef =>
    if isLam c then (0, .plain) else if isTransparent c then (0, .alef) else alone c
  | .ending letter behindJoiner =>
    if c = joiner then (0, .ending letter true)
    else if isHiddenMark c then (0, next)
    else letter.weigh behindJoiner c
  | .vowelE =>
    if c.toNat = 0x16D63 ∨ c.toNat = 0x16D69 then (0, .plain)
    else if c.toNat = 0x16D67 then (0, .vowelAi)
    else if c.toNat = 0x16D68 then (1, .vowelE)
    else alone c
  | .vowelAi => if c.toNat = 0x16D63 then (0, .plain) else alone c
  | .picture => if c = joiner then (0, .joined) else alone c
  | .tone =>
    if takesTone c then (0, .picture) else if c = joiner then (0, .joined) else alone c
  | .flagLetters count =>
    if isFlagLetter c then (1, .flagLetters (count + 1))
    else if 2 ≤ count ∧ c = joiner then (0, .joined)
    else alone c
  | .joined =>
    if c.toNat = 0x20E3 then (0, .joinedKey)
    else if isFlagLetter c then (1, .joinedFlagLetters 1)
    else if isTone c then (0, .tone)
    else if c.toNat = 0xE007F then (0, .joinedTags 0 0)
    else if isPictured c then (0, .picture)
    else alone c
  | .joinedFlagLetters count =>
    if isFlagLetter c then
      (if count % 2 = 1 then -1 else 3, .joinedFlagLetters (count + 1))
    else if 2 ≤ count ∧ c = joiner then (0, .joined)
    else alone c
  | .joinedTags letters digits =>
    if isTagLetter c ∧ letters < 6 ∧ digits = 0 then (0, .joinedTags (letters + 1) 0)
    else if isTagDigit c ∧ (digits = 0 ∧ letters ≤ 4 ∨ digits = 1 ∨ digits = 2) then
      (0, .joinedTags letters (digits + 1))
    else if c.toNat = 0x1F3F4 ∧ (digits = 0 ∧ 3 ≤ letters ∨ digits = 3) then (0, .picture)
    else alone c

/-- What is left of what follows when a selector has been put in front of it: ligatures see
through it, and a joined picture still lacks the character that it is joined to. -/
def Following.select (next : Following) (s : Selector) : Context :=
  match next, s with
  | .alef, _ | .ending _ _, _ | .joined, .picture | .joinedKey, .picture => ⟨next, some s⟩
  | _, _ => ⟨.plain, some s⟩

/-- What is left of the context when the selector turns out to be idle. -/
def Context.unselected (next : Context) : Following :=
  match next.following, next.selector with
  | .alef, _ | .ending _ _, _ | _, none => next.following
  | _, some _ => .plain

/-- The columns that a character adds to what follows it, and the context of the character before
it. A picture takes two columns, or none when it melts into the one it is joined to. -/
def weigh (c : Char) (next : Context) : Int × Context :=
  if next.selector = some .picture ∧ hasBothForms c then
    (if next.following = .joined ∨ next.following = .joinedKey then 0 else 2, ⟨.picture, none⟩)
  else if c.toNat ≤ 0xA0 then (1, .blank)
  else
    match selector? c with
    | some s => (0, next.unselected.select s)
    | none =>
      if next.selector = some .plain ∧ hasPlainForm c then (1, .blank)
      else if next.selector = some .wide ∧ isQuotationMark c then (2, .blank)
      else
        let weighed := next.unselected.weigh c
        (weighed.1, ⟨weighed.2, none⟩)

/-! ## The columns of a text -/

/-- One character more in front of a text that has been weighed. -/
def addColumns (c : Char) (rest : Int × Context) : Int × Context :=
  let weighed := weigh c rest.2
  (rest.1 + weighed.1, weighed.2)

/-- The columns of a text, and what it is to the character before it. -/
def columns (text : List Char) : Int × Context := text.foldr addColumns (0, .blank)

/-- The columns of a text. -/
def width (text : List Char) : Nat := (columns text).1.toNat

/-- Columns that are there already are added to those of the text. -/
theorem foldr_addColumns (text : List Char) (n : Int) (next : Context) :
    text.foldr addColumns (n, next) =
      (n + (text.foldr addColumns (0, next)).1, (text.foldr addColumns (0, next)).2) := by
  induction text with
  | nil => simp
  | cons c text ih =>
    simp only [List.foldr_cons, ih, addColumns]
    rw [Int.add_assoc]

/-- A space takes one column and is drawn with nothing that follows it. -/
theorem weigh_blank (next : Context) : weigh ' ' next = (1, .blank) := by
  have h : hasBothForms ' ' = false := by decide
  simp [weigh, h]

/-- **A space keeps what is before it apart from what is after it.** -/
theorem columns_append_blank (xs ys : List Char) :
    (columns (xs ++ ' ' :: ys)).1 = (columns xs).1 + 1 + (columns ys).1 := by
  unfold columns
  rw [List.foldr_append, List.foldr_cons]
  simp only [addColumns, weigh_blank]
  rw [foldr_addColumns]
  dsimp only
  omega

end FramedLink.Text
