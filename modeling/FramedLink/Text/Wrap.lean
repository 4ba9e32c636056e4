import FramedLink.Text.Cluster
import FramedLink.Text.Width

set_option autoImplicit false
set_option relaxedAutoImplicit false

/-!
# Text in a column

A line that is too wide for its column is broken at its spaces. A word that is too wide for any
line is cut between clusters. A word is not begun on a line that has no more than two columns
left, and a line with so little room is complete.

## Main definitions

* `FramedLink.Text.words` — the words of a line.
* `FramedLink.Text.cut` — what fits of a word, and its rest.
* `FramedLink.Text.wrap` — the lines that a line is broken into.

## Main results

* `FramedLink.Text.cut_append` — cutting a word loses nothing.
* `FramedLink.Text.length_split_lt` — cutting a word at the start of a line always takes some of
  it away, so that breaking a line ends.
-/

namespace FramedLink.Text

/-! ## Words -/

/-- One character more in front of a sequence of words. -/
def addToWords (c : Char) (rest : List (List Char)) : List (List Char) :=
  if c = ' ' then [] :: rest
  else
    match rest with
    | [] => [[c]]
    | word :: more => (c :: word) :: more

/-- The words of a line: what stands before, between and after its spaces. -/
def words (line : List Char) : List (List Char) := line.foldr addToWords [[]]

/-- Words with a space between each two. -/
def unwords (parts : List (List Char)) : List Char := [' '].intercalate parts

/-! ## Cutting a word -/

/-- The number of leading clusters that fit in a number of columns, one after the other, and the
columns that they leave, or nothing once a cluster did not fit. -/
def countFitting (room : Nat) (parts : List (List Char)) : Nat × Option Nat :=
  parts.foldl
    (fun (count, left) part =>
      match left with
      | none => (count, none)
      | some left =>
        if width part ≤ left then (count + 1, some (left - width part)) else (count, none))
    (0, some room)

/-- The clusters at the start of a word that fit in a number of columns, and the rest of the
word. -/
def cut (room : Nat) (word : List Char) : List Char × List Char :=
  let parts := clusters word
  let count := (countFitting room parts).1
  ((parts.take count).flatten, (parts.drop count).flatten)

/-- **Cutting a word loses nothing.** -/
theorem cut_append (room : Nat) (word : List Char) :
    (cut room word).1 ++ (cut room word).2 = word := by
  rw [cut]
  dsimp only
  rw [← List.flatten_append, List.take_append_drop, flatten_clusters]

/-- The part of a word that goes to a line with some room, and the rest of the word. A fresh line
takes at least one character, whether it fits or not. -/
def split (fresh : Bool) (room : Nat) (word : List Char) : List Char × List Char :=
  if fresh ∧ (cut room word).1 = [] then (word.take 1, word.drop 1) else cut room word

/-- What is cut off a word is no longer than the word. -/
theorem length_split_le (fresh : Bool) (room : Nat) (word : List Char) :
    (split fresh room word).2.length ≤ word.length := by
  have h := congrArg List.length (cut_append room word)
  rw [List.length_append] at h
  unfold split
  split
  · simp
  · omega

/-- What is cut off a word at the start of a line is shorter than the word. -/
theorem length_split_lt (room : Nat) (word : List Char) (h : word ≠ []) :
    (split true room word).2.length < word.length := by
  have hcut := congrArg List.length (cut_append room word)
  rw [List.length_append] at hcut
  have hword := List.length_pos_iff.mpr h
  unfold split
  split
  · simp only [List.length_drop]
    omega
  · next hne =>
    have hhead : (cut room word).1 ≠ [] := by simpa using hne
    have := List.length_pos_iff.mpr hhead
    omega

/-- A word that is wider than some line is not empty. -/
theorem ne_nil_of_lt_width {room : Nat} {word : List Char} (h : room < width word) :
    word ≠ [] := by
  rintro rfl
  simp [width, columns] at h

/-! ## Breaking a line -/

/-- The columns that may stay empty at the end of a line. -/
def slack : Nat := 2

/-- The columns of a line that takes `used` columns, with one word more. -/
def columnsWith (line : List (List Char)) (used size : Nat) : Nat :=
  if line = [] then size else used + 1 + size

/-- The columns that are left for one word more on a line that takes `used` columns. -/
def columnsLeft (room : Nat) (line : List (List Char)) (used : Nat) : Nat :=
  if line = [] then room - used else room - used - 1

/-- A measure of words that are still to be placed: twice their characters and their number. -/
def effort (pending : List (List Char)) : Nat :=
  pending.foldr (fun word rest => 2 * (word.length + 1) + rest) 0

/-- The lines of some words in a column. The words of the first line so far are given backwards,
with the columns that they take. -/
def fill (room : Nat) (pending line : List (List Char)) (used : Nat) : List (List Char) :=
  match pending with
  | [] => if line = [] then [] else [unwords line.reverse]
  | word :: rest =>
    let size := width word
    let total := columnsWith line used size
    let free := columnsLeft room line used
    if total ≤ room then
      let longer := if line = [] ∧ word = [] then [] else word :: line
      if room - slack < total then unwords longer.reverse :: fill room rest [] 0
      else fill room rest longer total
    else if line ≠ [] ∧ free ≤ slack then unwords line.reverse :: fill room (word :: rest) [] 0
    else if room < size then
      let parts := split (line = []) free word
      unwords (parts.1 :: line).reverse :: fill room (parts.2 :: rest) [] 0
    else if room - slack < size then unwords line.reverse :: word :: fill room rest [] 0
    else unwords line.reverse :: fill room rest [word] size
termination_by effort pending + min line.length 1
decreasing_by
  · simp only [effort, List.foldr_cons, List.length_nil]
    omega
  · simp only [effort, List.foldr_cons]
    omega
  · next h =>
    have := List.length_pos_iff.mpr h.1
    simp only [List.length_nil]
    omega
  · next h =>
    simp only [effort, List.foldr_cons, List.length_nil]
    have hword := ne_nil_of_lt_width h
    by_cases hline : line = []
    · have := length_split_lt (columnsLeft room line used) word hword
      simp only [hline, decide_true] at this ⊢
      omega
    · have := List.length_pos_iff.mpr hline
      have := length_split_le (decide (line = [])) (columnsLeft room line used) word
      omega
  · simp only [effort, List.foldr_cons, List.length_nil]
    omega
  · simp only [effort, List.foldr_cons]
    omega

/-- The lines that a line is broken into. -/
def wrap (room : Nat) (line : List Char) : List (List Char) :=
  if width line ≤ room then [line] else fill room (words line) [] 0

end FramedLink.Text
