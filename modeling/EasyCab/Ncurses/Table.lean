import EasyCab.Common.SplitLines
import EasyCab.Library.Machine

/-!
# Tables on the screen

A table keeps its rows and their colors in two vectors. All operations keep these of one length,
but `clear` forgets the colors, so rows which are added later come under the marks of rows which
are gone.
-/

namespace EasyCab.Ncurses

open Library

/-- `COLOR`, in declaration order. -/
inductive Color where
  | red
  | green
  | yellow
  | blue
  | magenta
  | purple
  | orange
deriving DecidableEq

/-- `Table`. A table without headers has none; its length is not kept, but computed. -/
structure Table where
  title : Chars
  headers : Option (List Chars)
  colCount : Nat
  colWidths : List Nat
  colExtraWidths : List Int
  rows : List (List Chars)
  colors : List (Option Color)
  foldEnabled : Bool

namespace Table

/-- `Table(headers, title)`. -/
def ofHeaders (headers : List Chars) (title : Chars) : Table where
  title := title
  headers := some headers
  colCount := headers.length
  colWidths := headers.map fun header => header.length + 2
  colExtraWidths := List.replicate headers.length 0
  rows := []
  colors := []
  foldEnabled := false

/-- `Table(colCount, colWidths, title)`, which throws where a width is missing. -/
def ofWidths? (colCount : Nat) (colWidths : List Nat) (title : Chars) : Option Table :=
  if colWidths.length < colCount then none
  else some {
    title := title
    headers := none
    colCount := colCount
    colWidths := colWidths
    colExtraWidths := List.replicate colCount 0
    rows := []
    colors := []
    foldEnabled := false }

/-- `clear`. -/
def clear (table : Table) : Table := { table with rows := [] }

/-- `colors[row] = color`, for a row that the table has. -/
def setColor (table : Table) (row : Nat) (color : Option Color) : Table :=
  if row ≥ table.rows.length then table else { table with colors := table.colors.set row color }

/-- `markRow`. -/
def markRow (table : Table) (row : Nat) (color : Color) : Table := table.setColor row (some color)

/-- `unMarkRow`. -/
def unMarkRow (table : Table) (row : Nat) : Table := table.setColor row none

/-- `addRow`. -/
def addRow (table : Table) (row : List Chars) : Table :=
  { table with
    rows := table.rows ++ [(List.range table.colCount).map fun i => row.getD i []]
    colors := table.colors ++ [none] }

/-- `addEmptyRows`. -/
def addEmptyRows (table : Table) (count : Nat) : Table :=
  { table with
    rows := table.rows ++ List.replicate count (List.replicate table.colCount [])
    colors := table.colors ++ List.replicate count none }

/-- `setRow(row, value)`. -/
def setRow (table : Table) (row : Nat) (value : List Chars) : Table :=
  if row ≥ table.rows.length ∨ value.length ≠ table.colCount then table
  else { table with rows := table.rows.set row value }

/-- `setRow(row, col, value)`. -/
def setCell (table : Table) (row col : Nat) (value : Chars) : Table :=
  if row ≥ table.rows.length ∨ col ≥ table.colCount then table
  else { table with rows := table.rows.modify row fun cells => cells.set col value }

/-! ### Printing -/

/-- `centerString`. `format` takes no width which an `int` does not hold. -/
def centerString (str : Chars) (width : Nat) : Option Chars :=
  let left := (width - str.length) / 2
  if width > 2147483647 then none
  else some (List.replicate left ' ' ++ str ++ List.replicate (width - str.length - left) ' ')

/-- One line of a printed table: one between others, an empty one, or centered texts in a color. -/
inductive Line where
  | rule
  | blank
  | title (text : Chars)
  | texts (cells : List Chars) (color : Option Color)
deriving DecidableEq

/-- A difference of a `size_t` and a number which may be larger. -/
def toSize (value : Int) : Nat := (value % 18446744073709551616).toNat

/-- The width of each column. There is an extra width for each, or one is looked up past the end. -/
def widths (table : Table) : Option (List Nat) :=
  (List.range table.colWidths.length).mapM fun i => do
    let width : Nat ← table.colWidths[i]?
    let extra : Int ← table.colExtraWidths[i]?
    return toSize ((width : Int) + extra)

/-- `printLine` with one character in all places. -/
def printFill (table : Table) (line : Line) : Option Line := do
  let _ ← table.widths
  return line

/-- `printLine` of some texts. -/
def printTexts (table : Table) (fill : List Chars) (color : Option Color) : Option Line := do
  let widths ← table.widths
  let cells ← (List.range widths.length).mapM fun i => do
    let str ← fill[i]?
    let width ← widths[i]?
    centerString str width
  return .texts cells color

/-- `rowFolded`, balanced. -/
def foldRow (table : Table) (row : List Chars) : Option (List (List Chars)) := do
  let rowFolded ← (List.range table.colCount).mapM fun j => do
    let cell ← row[j]?
    let width ← table.colWidths[j]?
    return splitLines cell width
  let maxLines := (rowFolded.map List.length).foldl max 0
  return rowFolded.map fun col => col ++ List.replicate (maxLines - col.length) []

/-- `colors[i]`. -/
def printColor (table : Table) (i : Nat) : Option (Option Color) := table.colors[i]?

/-- The lines with the texts of a row. -/
def printCells (table : Table) (row : List Chars) (color : Option Color) : Option (List Line) :=
  if table.foldEnabled then do
    let rowFolded ← table.foldRow row
    let front ← rowFolded.head?
    (List.range front.length).mapM fun j => do
      let rowFoldedLine ← rowFolded.mapM (·[j]?)
      table.printTexts rowFoldedLine color
  else (table.printTexts row color).map ([·])

/-- The lines in which a row is printed. -/
def printRow (table : Table) (i : Nat) : Option (List Line) := do
  let row ← table.rows[i]?
  let color ← table.printColor i
  let lines ← table.printCells row color
  let last ← table.printFill (if table.headers.isSome then .blank else .rule)
  return lines ++ [last]

/-- `calculateLength`. -/
def length (table : Table) : Nat := table.colWidths.foldl (· + ·) (table.colCount + 1)

/-- The lines of the title. -/
def printTitle (table : Table) : Option (List Line) :=
  if table.title.isEmpty then some []
  else do
    let top ← table.printFill .rule
    let title ← centerString table.title (toSize (table.length - 2))
    return [top, .title title]

/-- The lines of the headers. -/
def printHeaders (table : Table) : Option (List Line) := do
  let top ← table.printFill .rule
  match table.headers with
  | none => some [top]
  | some headers => do
      let line ← table.printTexts headers none
      return [top, line, .rule]

/-- `print`. The closing line takes the place of the line before it. -/
def print (table : Table) : Option (List Line) := do
  let title ← table.printTitle
  let headers ← table.printHeaders
  let rows ← (List.range table.rows.length).mapM table.printRow
  let closing ← table.printFill .rule
  return (title ++ headers ++ rows.flatten).dropLast ++ [closing]

variable {table : Table}

/-- Texts are printed in the color which is asked for. -/
theorem printTexts_color {fill cells : List Chars} {color other : Option Color}
    (printed : table.printTexts fill color = some (.texts cells other)) : other = color := by
  obtain ⟨widths, -, rest⟩ := Option.bind_eq_some_iff.mp printed
  obtain ⟨texts, -, same⟩ := Option.bind_eq_some_iff.mp rest
  cases same
  rfl

/-- What is found for all of some values is found for one of them. -/
theorem exists_of_mem_mapM {Value Found : Type} {find : Value → Option Found} {values : List Value}
    {found : List Found} (all : values.mapM find = some found) {one : Found} (member : one ∈ found) :
    ∃ value ∈ values, find value = some one := by
  induction values generalizing found with
  | nil =>
      cases all
      cases member
  | cons value values inductionHypothesis =>
      rw [List.mapM_cons] at all
      obtain ⟨first, here, rest⟩ := Option.bind_eq_some_iff.mp all
      obtain ⟨others, later, same⟩ := Option.bind_eq_some_iff.mp rest
      cases same
      rcases List.mem_cons.mp member with rfl | other
      · exact ⟨value, List.mem_cons_self, here⟩
      · obtain ⟨value, among, finds⟩ := inductionHypothesis later other
        exact ⟨value, List.mem_cons_of_mem _ among, finds⟩

theorem printCells_color {row cells : List Chars} {color other : Option Color} {lines : List Line}
    (printed : table.printCells row color = some lines) (member : .texts cells other ∈ lines) :
    other = color := by
  unfold printCells at printed
  split at printed
  · obtain ⟨rowFolded, -, printed⟩ := Option.bind_eq_some_iff.mp printed
    obtain ⟨front, -, printed⟩ := Option.bind_eq_some_iff.mp printed
    obtain ⟨j, -, here⟩ := exists_of_mem_mapM printed member
    obtain ⟨rowFoldedLine, -, here⟩ := Option.bind_eq_some_iff.mp here
    exact printTexts_color here
  · obtain ⟨line, here, rfl⟩ := Option.map_eq_some_iff.mp printed
    cases List.mem_singleton.mp member
    exact printTexts_color here

/-- Every text of a row is printed in the color of the row. -/
theorem printRow_color {i : Nat} {lines : List Line} (printed : table.printRow i = some lines)
    {cells : List Chars} {color : Option Color} (member : .texts cells color ∈ lines) :
    table.printColor i = some color := by
  obtain ⟨row, -, printed⟩ := Option.bind_eq_some_iff.mp printed
  obtain ⟨own, found, printed⟩ := Option.bind_eq_some_iff.mp printed
  obtain ⟨texts, each, printed⟩ := Option.bind_eq_some_iff.mp printed
  obtain ⟨last, filled, same⟩ := Option.bind_eq_some_iff.mp printed
  cases same
  rw [found]
  rcases List.mem_append.mp member with text | between
  · rw [printCells_color each text]
  · obtain ⟨widths, -, same⟩ := Option.bind_eq_some_iff.mp filled
    cases List.mem_singleton.mp between
    split at same <;> cases same

/-! ### Marks -/

/-- What is done with a table. -/
inductive Operation where
  | addRow (row : List Chars)
  | addEmptyRows (count : Nat)
  | setRow (row : Nat) (value : List Chars)
  | setCell (row col : Nat) (value : Chars)
  | markRow (row : Nat) (color : Color)
  | unMarkRow (row : Nat)
  | clear
deriving DecidableEq

/-- A table after an operation. -/
def operate (table : Table) : Operation → Table
  | .addRow row => table.addRow row
  | .addEmptyRows count => table.addEmptyRows count
  | .setRow row value => table.setRow row value
  | .setCell row col value => table.setCell row col value
  | .markRow row color => table.markRow row color
  | .unMarkRow row => table.unMarkRow row
  | .clear => table.clear

/-- The number of rows after some operations on an empty table, of which the last one comes
first. -/
def rowCount : List Operation → Nat
  | [] => 0
  | .addRow _ :: earlier => rowCount earlier + 1
  | .addEmptyRows count :: earlier => rowCount earlier + count
  | .clear :: _ => 0
  | _ :: earlier => rowCount earlier

/-- The color which the last mark gave to a row since it was added, if there was one. A row is
marked only where the table has it. -/
def lastMark (row : Nat) : List Operation → Option Color
  | [] => none
  | .addRow _ :: earlier => if row < rowCount earlier then lastMark row earlier else none
  | .addEmptyRows _ :: earlier => if row < rowCount earlier then lastMark row earlier else none
  | .setRow _ _ :: earlier => lastMark row earlier
  | .setCell _ _ _ :: earlier => lastMark row earlier
  | .markRow marked color :: earlier =>
      if marked = row ∧ row < rowCount earlier then some color else lastMark row earlier
  | .unMarkRow marked :: earlier =>
      if marked = row ∧ row < rowCount earlier then none else lastMark row earlier
  | .clear :: _ => none

/-- A table, and the operations on it, of which the last one comes first. -/
structure History where
  table : Table
  operations : List Operation

namespace History

/-- The next operation. -/
def step (history : History) (operation : Operation) : Option History :=
  some ⟨history.table.operate operation, operation :: history.operations⟩

/-- A table as a machine. -/
def machine : Machine History Operation := ⟨step⟩

/-- There is a color for each row, which is the one of its last mark. -/
def MarksBelong (history : History) : Prop :=
  history.table.rows.length = history.table.colors.length ∧
    ∀ row < history.table.rows.length,
      history.table.printColor row = some (lastMark row history.operations)

/-- What the operations keep, and that they added the rows. -/
structure Inv (history : History) : Prop where
  counted : history.table.rows.length = rowCount history.operations
  marks : history.MarksBelong

variable {history : History}

/-- Rows which are added have no marks. -/
theorem Inv.grow (holds : history.Inv) {more : List (List Chars)} {operation : Operation}
    (counts : rowCount (operation :: history.operations) =
      rowCount history.operations + more.length)
    (unmarked : ∀ row, lastMark row (operation :: history.operations) =
      if row < rowCount history.operations then lastMark row history.operations else none) :
    Inv ⟨{ history.table with
      rows := history.table.rows ++ more
      colors := history.table.colors ++ List.replicate more.length none },
      operation :: history.operations⟩ := by
  obtain ⟨counted, same, marks⟩ := holds
  refine ⟨?_, ?_, ?_⟩
  · rw [counts, List.length_append, counted]
  · rw [List.length_append, List.length_append, List.length_replicate, same]
  · intro row inside
    rw [List.length_append] at inside
    rw [printColor, unmarked]
    by_cases old : row < history.table.rows.length
    · rw [if_pos (counted ▸ old), List.getElem?_append_left (same ▸ old)]
      exact marks row old
    · rw [if_neg (counted ▸ old), List.getElem?_append_right (by omega),
        List.getElem?_replicate_of_lt (by omega)]

/-- Rows which are rewritten keep their marks. -/
theorem Inv.rewrite (holds : history.Inv) {rows : List (List Chars)} {operation : Operation}
    (size : rows.length = history.table.rows.length)
    (counts : rowCount (operation :: history.operations) = rowCount history.operations)
    (kept : ∀ row, lastMark row (operation :: history.operations) =
      lastMark row history.operations) :
    Inv ⟨{ history.table with rows := rows }, operation :: history.operations⟩ := by
  obtain ⟨counted, same, marks⟩ := holds
  refine ⟨?_, ?_, ?_⟩
  · rw [counts, ← counted, ← size]
  · rw [size, same]
  · intro row inside
    rw [size] at inside
    rw [kept]
    exact marks row inside

/-- A mark is the last one of its row. -/
theorem Inv.mark (holds : history.Inv) {marked : Nat} {color : Option Color}
    {operation : Operation}
    (counts : rowCount (operation :: history.operations) = rowCount history.operations)
    (marks : ∀ row, lastMark row (operation :: history.operations) =
      if marked = row ∧ row < rowCount history.operations then color
      else lastMark row history.operations) :
    Inv ⟨history.table.setColor marked color, operation :: history.operations⟩ := by
  obtain ⟨counted, same, before⟩ := holds
  unfold setColor
  split
  · next missing =>
    refine ⟨counted.trans counts.symm, same, fun row inside => ?_⟩
    have other : ¬ (marked = row ∧ row < rowCount history.operations) := by
      rintro ⟨rfl, -⟩
      exact Nat.not_le.mpr inside missing
    rw [marks, if_neg other]
    exact before row inside
  · next there =>
    refine ⟨counted.trans counts.symm, same.trans (List.length_set).symm, fun row inside => ?_⟩
    rw [printColor, marks, List.getElem?_set]
    by_cases own : marked = row
    · have present : row < history.table.colors.length := same ▸ inside
      rw [if_pos own, if_pos (own ▸ present), if_pos ⟨own, counted ▸ inside⟩]
    · rw [if_neg own, if_neg (fun both => own both.1)]
      exact before row inside

/-- No operation leaves a color behind, unless it clears some rows. -/
theorem Inv.operate (holds : history.Inv) {operation : Operation}
    (harmless : operation = .clear → history.table.rows = []) :
    Inv ⟨history.table.operate operation, operation :: history.operations⟩ := by
  cases operation with
  | addRow row => exact holds.grow rfl fun _ => rfl
  | addEmptyRows count =>
      have grown := @Inv.grow _ holds (List.replicate count (List.replicate history.table.colCount []))
        (.addEmptyRows count) (by rw [List.length_replicate]; rfl) fun _ => rfl
      rw [List.length_replicate] at grown
      exact grown
  | setRow row value =>
      rw [Table.operate, Table.setRow]
      split
      · exact holds.rewrite rfl rfl fun _ => rfl
      · exact holds.rewrite List.length_set rfl fun _ => rfl
  | setCell row col value =>
      rw [Table.operate, Table.setCell]
      split
      · exact holds.rewrite rfl rfl fun _ => rfl
      · exact holds.rewrite (List.length_modify _ _ _) rfl fun _ => rfl
  | markRow row color => exact holds.mark rfl fun _ => rfl
  | unMarkRow row => exact holds.mark rfl fun _ => rfl
  | clear =>
      have none : history.table.colors.length = 0 := by
        rw [← holds.marks.1, harmless rfl]
        rfl
      refine ⟨rfl, none.symm, fun row inside => ?_⟩
      cases inside

/-- Rows which are cleared leave their colors behind. -/
theorem Inv.rows_eq_nil (holds : history.Inv)
    (still : MarksBelong ⟨history.table.clear, .clear :: history.operations⟩) :
    history.table.rows = [] := by
  apply List.eq_nil_of_length_eq_zero
  rw [holds.marks.1]
  exact still.1.symm

end History

/-- A table as a constructor leaves it. -/
def Built (table : Table) : Prop :=
  (∃ headers title, table = ofHeaders headers title) ∨
    ∃ colCount colWidths title, ofWidths? colCount colWidths title = some table

/-- A table without operations. -/
def fresh (table : Table) : History := ⟨table, []⟩

theorem fresh_inv (built : Built table) : table.fresh.Inv := by
  have empty : table.rows = [] ∧ table.colors = [] := by
    rcases built with ⟨headers, title, rfl⟩ | ⟨colCount, colWidths, title, made⟩
    · exact ⟨rfl, rfl⟩
    · rw [ofWidths?] at made
      split at made <;> cases made
      exact ⟨rfl, rfl⟩
  have rows : table.fresh.table.rows.length = 0 := congrArg List.length empty.1
  have colors : table.fresh.table.colors.length = 0 := congrArg List.length empty.2
  refine ⟨rows, rows.trans colors.symm, fun row inside => ?_⟩
  rw [rows] at inside
  cases inside

end Table

/-- Whatever is done with a table, there are as many colors as rows, and each row has the color of
its last mark, exactly as long as no rows are cleared. -/
theorem row_marks_belong_iff {table : Table} (built : table.Built)
    (operations : List Table.Operation) :
    (∀ taken ∈ Table.History.machine.run table.fresh operations, taken.after.MarksBelong) ↔
      ∀ taken ∈ Table.History.machine.run table.fresh operations,
        taken.event = .clear → taken.before.table.rows = [] := by
  apply Machine.run_exactly Table.History.Inv _ _ (Table.fresh_inv built)
  · rintro ⟨before, operation, after⟩ stepped holds
    change before.step operation = some after at stepped
    cases stepped
    constructor
    · rintro still rfl
      exact holds.rows_eq_nil still
    · intro harmless
      exact (holds.operate harmless).marks
  · rintro ⟨before, operation, after⟩ stepped harmless holds
    change before.step operation = some after at stepped
    cases stepped
    exact holds.operate harmless

/-- A table of one column. -/
def oneColumn : Table := .ofHeaders ["ID".toList] "Locations".toList

/-- The mark of a row is still there when the table has been cleared and has another row. -/
theorem mark_survives_clear :
    ¬ ∀ taken ∈ Table.History.machine.run oneColumn.fresh
        [.addRow ["A".toList], .markRow 0 .red, .clear, .addRow ["B".toList]],
      taken.after.MarksBelong := by
  intro belongs
  have last := (belongs _ (List.mem_of_getElem? (rfl :
    (Table.History.machine.run oneColumn.fresh
      [.addRow ["A".toList], .markRow 0 .red, .clear, .addRow ["B".toList]])[3]? = some _))).2 0
  have colored := last (by decide)
  cases colored

/-- A table is cleared before it has rows, and its two rows keep their marks. -/
theorem marks_of_two_rows :
    (Table.History.machine.run oneColumn.fresh
      [.clear, .addEmptyRows 2, .markRow 1 .red, .unMarkRow 1]).length = 4 ∧
      ∀ taken ∈ Table.History.machine.run oneColumn.fresh
        [.clear, .addEmptyRows 2, .markRow 1 .red, .unMarkRow 1], taken.after.MarksBelong := by
  refine ⟨by decide, ?_⟩
  have empty : ∀ taken ∈ Table.History.machine.run oneColumn.fresh
      [.clear, .addEmptyRows 2, .markRow 1 .red, .unMarkRow 1],
      taken.event = .clear → taken.before.table.rows = [] := by
    decide
  exact (row_marks_belong_iff (.inl ⟨_, _, rfl⟩) _).mpr empty

end EasyCab.Ncurses
