import FramedLink.Proofs.HexPayload
import Mathlib.Data.List.Basic

set_option autoImplicit false
set_option relaxedAutoImplicit false

/-!
# Payloads, byte by byte

A payload may also be taken as the bytes of its text: without those of white space, they are cut
into pairs, and each pair that is a text itself is read as a number. Such a cut may go through a
character beyond ASCII. **Yet both ways of reading agree on every text**: the bytes of a number are
those of its digits and of its sign, one for each, so that a pair with a part of another character
in it is refused just as a pair with that character is.

## Main definitions

* `FramedLink.Argument.bytesOf`, `FramedLink.Argument.textOf?` — from a text to its bytes, and back.
* `FramedLink.Argument.payloadOfBytes` — the bytes of a payload, from the bytes of its text.

## Main results

* `FramedLink.Argument.textOf?_eq_some_iff` — the text of some bytes is the one that has them.
* `FramedLink.Argument.filter_bytesOf` — layout has the bytes of layout, and nothing else has any.
* `FramedLink.Argument.readBytePairs?_bytesOf` — pairs of bytes are read as pairs of characters are.
* `FramedLink.Argument.payloadOfBytes_eq_payload` — both ways of reading a payload are the same.
-/

namespace FramedLink.Argument

/-! ## Texts and bytes -/

/-- The bytes of a text. -/
def bytesOf (text : List Char) : List UInt8 := text.flatMap String.utf8EncodeChar

/-- The text of some bytes, unless they are the bytes of none. -/
def textOf? (bytes : List UInt8) : Option (List Char) :=
  (String.fromUTF8? bytes.toByteArray).map String.toList

variable {c : Char} {text : List Char}

/-- The bytes of a text are those of its first character and then those of the others. -/
lemma bytesOf_cons (c : Char) (text : List Char) :
    bytesOf (c :: text) = String.utf8EncodeChar c ++ bytesOf text :=
  List.flatMap_cons

/-- The bytes of a text are those of its first two characters and then those of the others. -/
lemma bytesOf_cons_cons (a b : Char) (text : List Char) :
    bytesOf (a :: b :: text) = bytesOf [a, b] ++ bytesOf text := by
  rw [bytesOf_cons, bytesOf_cons, bytesOf_cons a [b], bytesOf_cons b [], List.append_assoc,
    List.append_assoc]
  rfl

/-- A text has as many bytes as its size says. -/
lemma length_bytesOf (text : List Char) : (bytesOf text).length = textSize text := by
  induction text with
  | nil => rfl
  | cons c text ih =>
    rw [bytesOf_cons, List.length_append, ih, String.length_utf8EncodeChar]
    rfl

/-- The bytes of a text are those of the string of it. -/
lemma toByteArray_bytesOf (text : List Char) :
    (bytesOf text).toByteArray = (String.ofList text).toByteArray := by
  rw [String.toByteArray_ofList]
  rfl

/-- **The text of some bytes is the one that has these bytes.** -/
theorem textOf?_eq_some_iff (bytes : List UInt8) (text : List Char) :
    textOf? bytes = some text ↔ bytesOf text = bytes := by
  have hinj : bytesOf text = bytes ↔ (String.ofList text).toByteArray = bytes.toByteArray := by
    rw [← toByteArray_bytesOf]
    refine ⟨congrArg List.toByteArray, fun h => ?_⟩
    simpa using congrArg (Array.toList ∘ ByteArray.data) h
  rw [hinj]
  unfold textOf? String.fromUTF8?
  split
  · next hvalid =>
    rw [Option.map_some, Option.some.injEq, ← String.ofList_inj, String.ofList_toList,
      ← String.toByteArray_inj, eq_comm]
    rfl
  · next hvalid =>
    refine iff_of_false (by simp) fun h => hvalid ?_
    rw [← h]
    exact (String.ofList text).isValidUTF8

/-- Different texts have different bytes. -/
lemma bytesOf_injective {text text' : List Char} (h : bytesOf text = bytesOf text') :
    text = text' := by
  have htext := (textOf?_eq_some_iff _ text).mpr h
  have htext' := (textOf?_eq_some_iff _ text').mpr rfl
  exact Option.some.inj (htext.symm.trans htext')

/-! ## Layout -/

/-- The bytes of the white space that may stand in a payload. -/
def isLayoutByte (byte : UInt8) : Bool :=
  byte == 32 || byte == 9 || byte == 10 || byte == 12 || byte == 13

/-- The bytes of a character beyond ASCII are beyond ASCII themselves. -/
lemma le_toNat_of_mem_utf8EncodeChar (hc : c.utf8Size ≠ 1) {byte : UInt8}
    (hbyte : byte ∈ String.utf8EncodeChar c) : 128 ≤ byte.toNat := by
  have high (front mark : UInt8) (hmark : 128 ≤ mark.toNat) : 128 ≤ (front ||| mark).toNat := by
    rw [UInt8.toNat_or]
    exact hmark.trans Nat.right_le_or
  obtain hsize | hsize | hsize | hsize := Char.utf8Size_eq c
  · exact absurd hsize hc
  · rw [String.utf8EncodeChar_eq_cons_cons hsize] at hbyte
    simp only [List.mem_cons, List.not_mem_nil, or_false] at hbyte
    obtain rfl | rfl := hbyte <;> exact high _ _ (by decide)
  · rw [String.utf8EncodeChar_eq_cons_cons_cons hsize] at hbyte
    simp only [List.mem_cons, List.not_mem_nil, or_false] at hbyte
    obtain rfl | rfl | rfl := hbyte <;> exact high _ _ (by decide)
  · rw [String.utf8EncodeChar_eq_cons_cons_cons_cons hsize] at hbyte
    simp only [List.mem_cons, List.not_mem_nil, or_false] at hbyte
    obtain rfl | rfl | rfl | rfl := hbyte <;> exact high _ _ (by decide)

/-- A character of layout is one of ASCII. -/
lemma utf8Size_of_isLayout (h : isLayout c = true) : c.utf8Size = 1 := by
  simp only [isLayout, Bool.or_eq_true, beq_iff_eq] at h
  obtain (((rfl | rfl) | rfl) | rfl) | rfl := h <;> rfl

/-- So is a byte of layout. -/
lemma toNat_lt_of_isLayoutByte {byte : UInt8} (h : isLayoutByte byte = true) :
    byte.toNat < 128 := by
  simp only [isLayoutByte, Bool.or_eq_true, beq_iff_eq] at h
  obtain (((rfl | rfl) | rfl) | rfl) | rfl := h <;> decide

/-- Of the bytes of a character, those of layout are all or none.

**Proof sketch.** A character of one byte is this byte, which is layout exactly if the character is.
The bytes of a longer one are all above those of layout. -/
lemma filter_utf8EncodeChar (c : Char) :
    (String.utf8EncodeChar c).filter (!isLayoutByte ·) =
      if isLayout c then [] else String.utf8EncodeChar c := by
  by_cases hc : c.utf8Size = 1
  · have hsmall : c.val.toNat < 256 := by
      have hle := UInt32.le_iff_toNat_le.mp (Char.utf8Size_eq_one_iff.mp hc)
      exact Nat.lt_of_le_of_lt hle (by decide)
    have hsame : isLayoutByte c.val.toUInt8 = isLayout c := by
      have hcode (d : Char) (hd : d.val.toNat < 256) :
          (c.val.toUInt8 == d.val.toUInt8) = (c == d) := by
        rw [Bool.eq_iff_iff, beq_iff_eq, beq_iff_eq]
        refine ⟨fun h => ?_, fun h => by rw [h]⟩
        have hnat := congrArg UInt8.toNat h
        rw [UInt32.toNat_toUInt8, UInt32.toNat_toUInt8, Nat.mod_eq_of_lt hsmall,
          Nat.mod_eq_of_lt hd] at hnat
        exact Char.ext (UInt32.toNat_inj.mp hnat)
      unfold isLayout
      rw [← hcode ' ' (by decide), ← hcode '\t' (by decide), ← hcode '\n' (by decide),
        ← hcode '\x0c' (by decide), ← hcode '\r' (by decide)]
      rfl
    rw [String.utf8EncodeChar_eq_singleton hc, List.filter_cons, List.filter_nil, hsame]
    cases isLayout c <;> rfl
  · have hlayout : isLayout c ≠ true := fun h => hc (utf8Size_of_isLayout h)
    rw [if_neg hlayout, List.filter_eq_self]
    intro byte hbyte
    have hlarge := le_toNat_of_mem_utf8EncodeChar hc hbyte
    rw [Bool.not_eq_true', Bool.eq_false_iff]
    exact fun h => Nat.not_le_of_lt (toNat_lt_of_isLayoutByte h) hlarge

/-- **Layout is removed from a text by removing its bytes.** -/
theorem filter_bytesOf (text : List Char) :
    (bytesOf text).filter (!isLayoutByte ·) = bytesOf (text.filter (!isLayout ·)) := by
  induction text with
  | nil => rfl
  | cons c text ih =>
    rw [bytesOf_cons, List.filter_append, ih, filter_utf8EncodeChar, List.filter_cons]
    cases isLayout c
    · exact (bytesOf_cons c _).symm
    · rfl

/-! ## Pairs -/

/-- The number of a pair of bytes, if the pair is a text. -/
def readBytePair? (x y : UInt8) : Option Nat := (textOf? [x, y]).bind (Text.readNumber? 16 255)

/-- Read pairs of bytes, where `done` holds the bytes read so far, the last first. -/
def readBytePairs? (done : List UInt8) : List UInt8 → Option (List UInt8)
  | [] => some done.reverse
  | [_] => none
  | x :: y :: rest =>
    (readBytePair? x y).bind fun n => readBytePairs? (UInt8.ofNat n :: done) rest

/-- Digits have one byte each. -/
lemma utf8Size_of_readDigits? {value n : Nat} {text : List Char}
    (h : Text.readDigits? 16 255 value text = some n) : ∀ c ∈ text, c.utf8Size = 1 := by
  induction text generalizing value with
  | nil => exact fun c hc => absurd hc List.not_mem_nil
  | cons d text ih =>
    rw [readDigits?_cons] at h
    obtain ⟨k, hd, h⟩ := Option.bind_eq_some_iff.mp h
    split at h
    · rw [List.forall_mem_cons]
      exact ⟨utf8Size_of_isDigit ((Hex.isDigit_iff d).mpr ⟨k, hd⟩), ih h⟩
    · cases h

/-- So have the characters of a number. -/
lemma utf8Size_of_readNumber? {n : Nat} {text : List Char}
    (h : Text.readNumber? 16 255 text = some n) : ∀ c ∈ text, c.utf8Size = 1 := by
  unfold Text.readNumber? at h
  split at h
  · cases h
  · cases h
  · rw [List.forall_mem_cons]
    exact ⟨rfl, utf8Size_of_readDigits? h⟩
  · exact utf8Size_of_readDigits? h

/-- The bytes of characters with one byte each. -/
lemma bytesOf_of_utf8Size (h : ∀ c ∈ text, c.utf8Size = 1) :
    bytesOf text = text.map (·.val.toUInt8) := by
  induction text with
  | nil => rfl
  | cons c text ih =>
    rw [List.forall_mem_cons] at h
    rw [bytesOf_cons, String.utf8EncodeChar_eq_singleton h.1, ih h.2]
    rfl

/-- **Which pairs of bytes are numbers:** those of two characters that are one. -/
lemma readBytePair?_eq_some_iff (x y : UInt8) (n : Nat) :
    readBytePair? x y = some n ↔
      ∃ a b, bytesOf [a, b] = [x, y] ∧ Text.readNumber? 16 255 [a, b] = some n := by
  unfold readBytePair?
  rw [Option.bind_eq_some_iff]
  constructor
  · rintro ⟨text, htext, hread⟩
    have hbytes := (textOf?_eq_some_iff _ _).mp htext
    have hlength : text.length = 2 := by
      rw [← List.length_map, ← bytesOf_of_utf8Size (utf8Size_of_readNumber? hread), hbytes]
      rfl
    obtain ⟨a, b, rfl⟩ := List.length_eq_two.mp hlength
    exact ⟨a, b, hbytes, hread⟩
  · rintro ⟨a, b, hbytes, hread⟩
    exact ⟨[a, b], (textOf?_eq_some_iff _ _).mpr hbytes, hread⟩

/-- What is read from pairs of bytes is read from the characters that have these bytes.

**Proof sketch.** Induction on the pairs. Each pair of bytes that is read is a pair of characters of
one byte each. -/
lemma exists_of_readBytePairs? (done bytes out : List UInt8)
    (h : readBytePairs? done bytes = some out) :
    ∃ text, bytesOf text = bytes ∧ readPairs? done text = some out := by
  fun_induction readBytePairs? done bytes with
  | case1 done => exact ⟨[], rfl, h⟩
  | case2 done x => cases h
  | case3 done x y rest ih =>
    obtain ⟨n, hpair, h⟩ := Option.bind_eq_some_iff.mp h
    obtain ⟨a, b, hbytes, hread⟩ := (readBytePair?_eq_some_iff x y n).mp hpair
    obtain ⟨text, rfl, hrest⟩ := ih n h
    refine ⟨a :: b :: text, ?_, ?_⟩
    · rw [bytesOf_cons_cons, hbytes]
      rfl
    · rw [readPairs?, hread]
      exact hrest

/-- What is read from pairs of characters is read from their bytes. -/
lemma readBytePairs?_of_readPairs? (done : List UInt8) (text : List Char) (out : List UInt8)
    (h : readPairs? done text = some out) : readBytePairs? done (bytesOf text) = some out := by
  fun_induction readPairs? done text with
  | case1 done => exact h
  | case2 done c => cases h
  | case3 done a b rest n hread ih =>
    have hpair : bytesOf [a, b] = [a.val.toUInt8, b.val.toUInt8] :=
      bytesOf_of_utf8Size (utf8Size_of_readNumber? hread)
    rw [bytesOf_cons_cons, hpair, List.cons_append, List.singleton_append, readBytePairs?,
      (readBytePair?_eq_some_iff _ _ n).mpr ⟨a, b, hpair, hread⟩]
    exact ih h
  | case4 done a b rest hread => cases h

/-- **Pairs of bytes are read as pairs of characters are.** -/
theorem readBytePairs?_bytesOf (done : List UInt8) (text : List Char) :
    readBytePairs? done (bytesOf text) = readPairs? done text := by
  apply Option.ext
  intro out
  refine ⟨fun h => ?_, readBytePairs?_of_readPairs? done text out⟩
  obtain ⟨text', hbytes, hread⟩ := exists_of_readBytePairs? done _ out h
  rwa [← bytesOf_injective hbytes]

/-! ## Payloads -/

/-- The bytes of a payload, read from the bytes of its text. -/
def payloadOfBytes (input : String) : Except Failure (List UInt8) :=
  let digits := (bytesOf input.toList).filter (!isLayoutByte ·)
  if digits.length % 2 = 1 then .error ⟨.usage, "hex payload has an odd number of digits"⟩
  else
    (readBytePairs? [] digits).elim (.error ⟨.usage, "invalid hex payload: " ++ input⟩) .ok

/-- **Both ways of reading a payload are the same**, also in what they say of a text that is no
payload. -/
theorem payloadOfBytes_eq_payload : payloadOfBytes = payload := by
  funext input
  unfold payloadOfBytes payload
  dsimp only
  rw [filter_bytesOf, length_bytesOf, readBytePairs?_bytesOf]
  cases readPairs? [] (input.toList.filter (!isLayout ·)) <;> rfl

end FramedLink.Argument
