import FramedLink.Text.Emoji
import FramedLink.Text.Extending

set_option autoImplicit false
set_option relaxedAutoImplicit false

/-!
# Clusters of characters

What a reader takes for one character may be written with several: a letter with its marks, a
syllable in its parts, a picture made of others. A text is a sequence of such clusters, and text
is never cut inside one.

## Main definitions

* `FramedLink.Text.Joint` — the end of a text, as far as it bears on whether the next character
  belongs to the same cluster.
* `FramedLink.Text.clusters` — the clusters of a text.

## Main results

* `FramedLink.Text.flatten_clusters` — the clusters make up the text.
-/

namespace FramedLink.Text

/-- The part that a character plays in a cluster. -/
inductive Role where
  /-- A carriage return. -/
  | carriageReturn
  /-- A line feed. -/
  | lineFeed
  /-- Any other control. -/
  | control
  /-- A mark that extends the cluster before it. -/
  | extending
  /-- The joiner. -/
  | joining
  /-- A mark with a width of its own. -/
  | spacing
  /-- A mark that is written before the cluster it belongs to. -/
  | leading
  /-- The first consonant of a Korean syllable. -/
  | initial
  /-- The vowel of a syllable. -/
  | medial
  /-- The last consonant of a Korean syllable. -/
  | final
  /-- A Korean syllable without a last consonant. -/
  | openSyllable
  /-- A Korean syllable with a last consonant. -/
  | closedSyllable
  /-- One of the letters that make a flag in pairs. -/
  | flagLetter
  /-- Any other character. -/
  | other
  deriving DecidableEq, Repr

/-- The ranges of the controls, ascending, without the two that end a line. -/
def controlRanges : List (Nat × Nat) :=
  [(0x0, 0x9), (0xB, 0xC), (0xE, 0x1F), (0x7F, 0x9F), (0xAD, 0xAD), (0x61C, 0x61C),
    (0x180E, 0x180E), (0x200B, 0x200B), (0x200E, 0x200F), (0x2028, 0x202E), (0x2060, 0x206F),
    (0xFEFF, 0xFEFF), (0xFFF0, 0xFFFB), (0x13430, 0x1343F), (0x1BCA0, 0x1BCA3), (0x1D173, 0x1D17A),
    (0xE0000, 0xE001F), (0xE0080, 0xE00FF), (0xE01F0, 0xE0FFF)]

/-- The ranges of the marks with a width of their own, ascending. -/
def spacingRanges : List (Nat × Nat) :=
  [(0x903, 0x903), (0x93B, 0x93B), (0x93E, 0x940), (0x949, 0x94C), (0x94E, 0x94F), (0x982, 0x983),
    (0x9BF, 0x9C0), (0x9C7, 0x9C8), (0x9CB, 0x9CC), (0xA03, 0xA03), (0xA3E, 0xA40), (0xA83, 0xA83),
    (0xABE, 0xAC0), (0xAC9, 0xAC9), (0xACB, 0xACC), (0xB02, 0xB03), (0xB40, 0xB40), (0xB47, 0xB48),
    (0xB4B, 0xB4C), (0xBBF, 0xBBF), (0xBC1, 0xBC2), (0xBC6, 0xBC8), (0xBCA, 0xBCC), (0xC01, 0xC03),
    (0xC41, 0xC44), (0xC82, 0xC83), (0xCBE, 0xCBE), (0xCC1, 0xCC1), (0xCC3, 0xCC4), (0xCF3, 0xCF3),
    (0xD02, 0xD03), (0xD3F, 0xD40), (0xD46, 0xD48), (0xD4A, 0xD4C), (0xD82, 0xD83), (0xDD0, 0xDD1),
    (0xDD8, 0xDDE), (0xDF2, 0xDF3), (0xE33, 0xE33), (0xEB3, 0xEB3), (0xF3E, 0xF3F), (0xF7F, 0xF7F),
    (0x1031, 0x1031), (0x103B, 0x103C), (0x1056, 0x1057), (0x1084, 0x1084), (0x17B6, 0x17B6),
    (0x17BE, 0x17C5), (0x17C7, 0x17C8), (0x1923, 0x1926), (0x1929, 0x192B), (0x1930, 0x1931),
    (0x1933, 0x1938), (0x1A19, 0x1A1A), (0x1A55, 0x1A55), (0x1A57, 0x1A57), (0x1A6D, 0x1A72),
    (0x1B04, 0x1B04), (0x1B3E, 0x1B41), (0x1B82, 0x1B82), (0x1BA1, 0x1BA1), (0x1BA6, 0x1BA7),
    (0x1BE7, 0x1BE7), (0x1BEA, 0x1BEC), (0x1BEE, 0x1BEE), (0x1C24, 0x1C2B), (0x1C34, 0x1C35),
    (0x1CE1, 0x1CE1), (0x1CF7, 0x1CF7), (0xA823, 0xA824), (0xA827, 0xA827), (0xA880, 0xA881),
    (0xA8B4, 0xA8C3), (0xA952, 0xA952), (0xA983, 0xA983), (0xA9B4, 0xA9B5), (0xA9BA, 0xA9BB),
    (0xA9BE, 0xA9BF), (0xAA2F, 0xAA30), (0xAA33, 0xAA34), (0xAA4D, 0xAA4D), (0xAAEB, 0xAAEB),
    (0xAAEE, 0xAAEF), (0xAAF5, 0xAAF5), (0xABE3, 0xABE4), (0xABE6, 0xABE7), (0xABE9, 0xABEA),
    (0xABEC, 0xABEC), (0x11000, 0x11000), (0x11002, 0x11002), (0x11082, 0x11082),
    (0x110B0, 0x110B2), (0x110B7, 0x110B8), (0x1112C, 0x1112C), (0x11145, 0x11146),
    (0x11182, 0x11182), (0x111B3, 0x111B5), (0x111BF, 0x111BF), (0x111CE, 0x111CE),
    (0x1122C, 0x1122E), (0x11232, 0x11233), (0x112E0, 0x112E2), (0x11302, 0x11303),
    (0x1133F, 0x1133F), (0x11341, 0x11344), (0x11347, 0x11348), (0x1134B, 0x1134C),
    (0x11362, 0x11363), (0x113B9, 0x113BA), (0x113CA, 0x113CA), (0x113CC, 0x113CD),
    (0x11435, 0x11437), (0x11440, 0x11441), (0x11445, 0x11445), (0x114B1, 0x114B2),
    (0x114B9, 0x114B9), (0x114BB, 0x114BC), (0x114BE, 0x114BE), (0x114C1, 0x114C1),
    (0x115B0, 0x115B1), (0x115B8, 0x115BB), (0x115BE, 0x115BE), (0x11630, 0x11632),
    (0x1163B, 0x1163C), (0x1163E, 0x1163E), (0x116AC, 0x116AC), (0x116AE, 0x116AF),
    (0x1171E, 0x1171E), (0x11726, 0x11726), (0x1182C, 0x1182E), (0x11838, 0x11838),
    (0x11931, 0x11935), (0x11937, 0x11938), (0x11940, 0x11940), (0x11942, 0x11942),
    (0x119D1, 0x119D3), (0x119DC, 0x119DF), (0x119E4, 0x119E4), (0x11A39, 0x11A39),
    (0x11A57, 0x11A58), (0x11A97, 0x11A97), (0x11B61, 0x11B61), (0x11B65, 0x11B65),
    (0x11B67, 0x11B67), (0x11C2F, 0x11C2F), (0x11C3E, 0x11C3E), (0x11CA9, 0x11CA9),
    (0x11CB1, 0x11CB1), (0x11CB4, 0x11CB4), (0x11D8A, 0x11D8E), (0x11D93, 0x11D94),
    (0x11D96, 0x11D96), (0x11EF5, 0x11EF6), (0x11F03, 0x11F03), (0x11F34, 0x11F35),
    (0x11F3E, 0x11F3F), (0x1612A, 0x1612C), (0x16F51, 0x16F87)]

/-- The ranges of the marks that are written before the cluster they belong to, ascending. -/
def leadingRanges : List (Nat × Nat) :=
  [(0x600, 0x605), (0x6DD, 0x6DD), (0x70F, 0x70F), (0x890, 0x891), (0x8E2, 0x8E2), (0xD4E, 0xD4E),
    (0x110BD, 0x110BD), (0x110CD, 0x110CD), (0x111C2, 0x111C3), (0x113D1, 0x113D1),
    (0x1193F, 0x1193F), (0x11941, 0x11941), (0x11A3A, 0x11A3A), (0x11A84, 0x11A89),
    (0x11D46, 0x11D46), (0x11F02, 0x11F02)]

/-- The ranges of the Indian consonants that make conjuncts, ascending. -/
def conjunctRanges : List (Nat × Nat) :=
  [(0x915, 0x939), (0x958, 0x95F), (0x978, 0x97F), (0x995, 0x9A8), (0x9AA, 0x9B0), (0x9B2, 0x9B2),
    (0x9B6, 0x9B9), (0x9DC, 0x9DD), (0x9DF, 0x9DF), (0x9F0, 0x9F1), (0xA95, 0xAA8), (0xAAA, 0xAB0),
    (0xAB2, 0xAB3), (0xAB5, 0xAB9), (0xAF9, 0xAF9), (0xB15, 0xB28), (0xB2A, 0xB30), (0xB32, 0xB33),
    (0xB35, 0xB39), (0xB5C, 0xB5D), (0xB5F, 0xB5F), (0xB71, 0xB71), (0xC15, 0xC28), (0xC2A, 0xC39),
    (0xC58, 0xC5A), (0xD15, 0xD3A)]

/-- A consonant that may be part of a conjunct. -/
def isConjunct (c : Char) : Bool := inRanges conjunctRanges c

/-- A sign that links two consonants to a conjunct. -/
def isLinker (c : Char) : Bool :=
  inRanges [(0x94D, 0x94D), (0x9CD, 0x9CD), (0xACD, 0xACD), (0xB4D, 0xB4D), (0xC4D, 0xC4D),
    (0xD4D, 0xD4D)] c

/-- The part that a character plays. -/
def Role.ofChar (c : Char) : Role :=
  let n := c.toNat
  if c = '\r' then .carriageReturn
  else if c = '\n' then .lineFeed
  else if inRanges controlRanges c then .control
  else if n < 0x300 then .other
  else if c = joiner then .joining
  else if isExtending c || isTone c || n = 0xFF9E || n = 0xFF9F then .extending
  else if inRanges leadingRanges c then .leading
  else if inRanges spacingRanges c then .spacing
  else if inRanges [(0x1100, 0x115F), (0xA960, 0xA97C)] c then .initial
  else if inRanges [(0x1160, 0x11A7), (0xD7B0, 0xD7C6), (0x16D63, 0x16D63), (0x16D67, 0x16D6A)] c
  then .medial
  else if inRanges [(0x11A8, 0x11FF), (0xD7CB, 0xD7FB)] c then .final
  else if 0xAC00 ≤ n ∧ n ≤ 0xD7A3 then
    (if (n - 0xAC00) % 28 = 0 then .openSyllable else .closedSyllable)
  else if isFlagLetter c then .flagLetter
  else .other

/-- The end of a text, as far as it bears on whether the next character belongs to the same
cluster. -/
structure Joint where
  /-- The part of the last character. -/
  last : Role
  /-- The number of flag letters at the end. -/
  flagLetters : Nat
  /-- Is there a picture with nothing but extending marks after it? -/
  pictured : Bool
  /-- Is there such a picture and a joiner? -/
  joined : Bool
  /-- Is there a consonant of a conjunct with nothing but extending marks after it? -/
  conjunct : Bool
  /-- Is one of these marks a linker? -/
  linked : Bool
  deriving DecidableEq, Repr

namespace Joint

/-- The end of a text of one character. -/
def ofChar (c : Char) : Joint :=
  let role := Role.ofChar c
  ⟨role, if role = .flagLetter then 1 else 0, isPictograph c, false, isConjunct c, false⟩

/-- The end of a text with one character more. -/
def push (j : Joint) (c : Char) : Joint :=
  let fresh := ofChar c
  let mark := fresh.last = .extending || fresh.last = .joining
  let kept := j.conjunct && mark && c.toNat != 0x200C
  { last := fresh.last
    flagLetters := if fresh.last = .flagLetter then j.flagLetters + 1 else 0
    pictured := fresh.pictured || (j.pictured && fresh.last = .extending)
    joined := j.pictured && fresh.last = .joining
    conjunct := fresh.conjunct || kept
    linked := kept && (j.linked || isLinker c) }

/-- Does a character belong to the cluster at the end of the text? -/
def joins (j : Joint) (c : Char) : Bool :=
  let role := Role.ofChar c
  match j.last, role with
  | .carriageReturn, .lineFeed => true
  | .carriageReturn, _ | .lineFeed, _ | .control, _ => false
  | _, .carriageReturn | _, .lineFeed | _, .control => false
  | .initial, .initial | .initial, .medial | .initial, .openSyllable
  | .initial, .closedSyllable => true
  | .openSyllable, .medial | .openSyllable, .final | .medial, .medial | .medial, .final => true
  | .closedSyllable, .final | .final, .final => true
  | _, .extending | _, .joining | _, .spacing => true
  | .leading, _ => true
  | _, _ =>
    (j.linked && isConjunct c) || (j.joined && isPictograph c) ||
      (role = .flagLetter && j.flagLetters % 2 = 1)

end Joint

/-- A text that has been divided: its last cluster, backwards, and the ones before it, the last
one first. -/
structure Division where
  /-- The clusters that are complete, the last one first. -/
  complete : List (List Char)
  /-- The last cluster, backwards. -/
  last : List Char
  /-- The end of the text, unless the text is empty. -/
  joint : Option Joint

namespace Division

/-- The empty text. -/
def empty : Division := ⟨[], [], none⟩

/-- The division of a text with one character more. -/
def push (d : Division) (c : Char) : Division :=
  match d.joint with
  | none => ⟨d.complete, c :: d.last, some (.ofChar c)⟩
  | some joint =>
    if joint.joins c then ⟨d.complete, c :: d.last, some (joint.push c)⟩
    else ⟨d.last.reverse :: d.complete, [c], some (joint.push c)⟩

/-- The clusters, the first one first. -/
def toList (d : Division) : List (List Char) :=
  if d.last = [] then d.complete.reverse else (d.last.reverse :: d.complete).reverse

/-- The clusters make up the text. -/
theorem flatten_toList (d : Division) :
    d.toList.flatten = d.complete.reverse.flatten ++ d.last.reverse := by
  unfold toList
  split
  · next h => simp [h]
  · simp

/-- A character that is added stands at the end. -/
theorem flatten_push (d : Division) (c : Char) :
    (d.push c).toList.flatten = d.toList.flatten ++ [c] := by
  rw [flatten_toList, flatten_toList]
  unfold push
  split
  · simp
  · split <;> simp

end Division

/-- The clusters of a text. -/
def clusters (text : List Char) : List (List Char) := (text.foldl Division.push .empty).toList

/-- **The clusters make up the text.** -/
theorem flatten_clusters (text : List Char) : (clusters text).flatten = text := by
  have step (xs : List Char) (d : Division) :
      (xs.foldl Division.push d).toList.flatten = d.toList.flatten ++ xs := by
    induction xs generalizing d with
    | nil => simp
    | cons c xs ih => rw [List.foldl_cons, ih, Division.flatten_push, List.append_assoc]; rfl
  rw [clusters, step]
  rfl

end FramedLink.Text
