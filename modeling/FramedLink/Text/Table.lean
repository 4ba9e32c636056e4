import FramedLink.Text.Wrap

set_option autoImplicit false
set_option relaxedAutoImplicit false

/-!
# Tables in a frame of lines

A table has a row of headings and one row of cells. Each column is as wide as its widest line,
with a space on either side, up to a limit; a wider line is broken into several. A cell may hold
several lines, and the shorter cells of the row are filled up with empty ones.

## Main definitions

* `FramedLink.Text.table` — the lines of a table.

## Main results

* `FramedLink.Text.wrapped_eq` — in a column below the limit, no line of a cell is broken.
-/

namespace FramedLink.Text

/-- The columns that a column of a table takes at most. It bounds the lines of its cells, and
bounds once more its share of the frame. -/
def columnLimit : Nat := 65535

/-- The lines of a cell as they are given. -/
def cellLines (cell : String) : List (List Char) := (cell.splitOn "\n").map String.toList

/-- The width of the widest line of a cell. -/
def cellWidth (cell : String) : Nat := ((cellLines cell).map width).foldl max 0

/-- The width of the lines in a column with a heading and a cell. -/
def columnWidth (heading cell : String) : Nat :=
  min (max (cellWidth heading) (cellWidth cell)) columnLimit

/-- The width of a column in the frame, with its spaces. -/
def frameWidth (w : Nat) : Nat := min (w + 2) columnLimit

/-- The lines of a cell in a column of some width. -/
def wrapped (w : Nat) (cell : String) : List (List Char) := (cellLines cell).flatMap (wrap w)

/-- A line of a cell, filled up with spaces to a width, between two spaces. -/
def pad (w : Nat) (line : List Char) : String :=
  String.ofList (' ' :: line ++ List.replicate (w - width line + 1) ' ')

/-- A line that fills up a cell. -/
def emptyLine (w : Nat) : String := String.ofList (List.replicate (frameWidth w) ' ')

/-- The lines of a row of cells in columns of the given widths. -/
def rowLines (widths : List Nat) (cells : List String) : List String :=
  let columns := (widths.zip cells).map fun (w, cell) =>
    (emptyLine w, ((wrapped w cell).map (pad w)).toArray)
  let height := (columns.map fun (_, lines) => lines.size).foldl max 0
  (List.range height).map fun i =>
    "│" ++ "┆".intercalate (columns.map fun (blank, lines) => lines.getD i blank) ++ "│"

/-- A line of the frame, made of one sign over the columns, two ends and a sign between the
columns. -/
def rule (first fill between last : String) (widths : List Nat) : String :=
  first ++
    between.intercalate (widths.map fun w =>
      String.join (List.replicate (frameWidth w) fill)) ++
    last

/-- The lines of a table with its headings and one row of cells. -/
def table (headings cells : List String) : List String :=
  let widths := (headings.zip cells).map fun (heading, cell) => columnWidth heading cell
  [rule "┌" "─" "┬" "┐" widths] ++ rowLines widths headings ++
    [rule "╞" "═" "╪" "╡" widths] ++ rowLines widths cells ++
    [rule "└" "─" "┴" "┘" widths]

/-- A maximum is no less than any number it is taken of. -/
theorem le_foldl_max (xs : List Nat) (start : Nat) :
    start ≤ xs.foldl max start ∧ ∀ x ∈ xs, x ≤ xs.foldl max start := by
  induction xs generalizing start with
  | nil => simp
  | cons y xs ih =>
    obtain ⟨hstart, hmem⟩ := ih (max start y)
    simp only [List.foldl_cons, List.mem_cons]
    refine ⟨by omega, fun x hx => ?_⟩
    rcases hx with rfl | hx
    · omega
    · exact hmem x hx

/-- **In a column below the limit, no line of a cell is broken.**

**Proof sketch.** The width of the column is at least that of each line, so no line is wrapped;
induction on the lines puts them together again. -/
theorem wrapped_eq (heading cell : String) (h : columnWidth heading cell < columnLimit) :
    wrapped (columnWidth heading cell) cell = cellLines cell := by
  have hfit : ∀ line ∈ cellLines cell, wrap (columnWidth heading cell) line = [line] := by
    intro line hline
    have hwidth : width line ≤ cellWidth cell :=
      (le_foldl_max _ 0).2 _ (List.mem_map_of_mem hline)
    have : width line ≤ columnWidth heading cell := by
      unfold columnWidth at h ⊢
      omega
    simp [wrap, this]
  unfold wrapped
  generalize cellLines cell = lines at hfit ⊢
  induction lines with
  | nil => rfl
  | cons line lines ih =>
    rw [List.flatMap_cons, hfit line List.mem_cons_self,
      ih fun other hother => hfit other (List.mem_cons_of_mem _ hother)]
    rfl

end FramedLink.Text
