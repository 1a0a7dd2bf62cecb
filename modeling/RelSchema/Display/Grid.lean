import RelSchema.Display.Markup
import RelSchema.Display.Wrap
import RelSchema.Number.Double
import RelSchema.Text.Trim

/-!
Grids: tables for a terminal, with a title and ruled lines.
-/
namespace RelSchema.Display

/-- A column: what stands over it, the side to which its cells keep, and its width if that does not
depend on its cells. -/
structure GridColumn where
  header : String
  isRight : Bool := false
  width? : Option Nat := none

structure Grid where
  title : String
  columns : List GridColumn
  rows : List (List String)

def terminalWidth : Nat := 1000

namespace Grid

/-- The width of the widest line of a text, in which tabs take no column. -/
def textWidth (text : List Char) : Nat :=
  ((Text.lines text).map width).foldl max 0

/-- The width of a column with the given texts, its header among them. -/
def columnWidth (column : GridColumn) (texts : List (List Char)) : Nat :=
  column.width?.getD ((texts.map textWidth).foldl max 0)

/-- The widths less an excess, which the widest ones share evenly. Each gives at most `most`. -/
def reduced (widest most : Nat) : (excess sharers : Nat) → List (Nat × Bool) → List (Nat × Bool)
  | _, _, [] => []
  | excess, sharers, (width, isFixed) :: rest =>
    if width == widest && !isFixed then
      let share := min most (Double.roundedQuotient excess sharers)
      (width - share, isFixed) :: reduced widest most (excess - share) (sharers - 1) rest
    else (width, isFixed) :: reduced widest most excess sharers rest

/-- The widths made to fit into `total` columns: time and again the widest ones that are not fixed
are brought down to the next ones. -/
def fitted (total : Nat) : (rounds : Nat) → List (Nat × Bool) → List (Nat × Bool)
  | 0, widths => widths
  | rounds + 1, widths =>
    let excess := widths.foldl (fun sum width => sum + width.1) 0 - total
    let free := (widths.filter (!·.2)).map (·.1)
    let widest := free.foldl max 0
    let next := (free.filter (· != widest)).foldl max 0
    if excess == 0 || widest == 0 then widths
    else
      fitted total rounds
        (reduced widest (min excess (widest - next)) excess (free.count widest) widths)

def fittedWidths (columns : List GridColumn) (widths : List Nat) : List Nat :=
  let total := terminalWidth - (columns.length + 1)
  let padded := (columns.zip widths).map fun (column, width) =>
    (min total (width + 2), column.width?.isSome)
  (fitted total (2 * columns.length) padded).map fun (width, _) => width - 2

/-- A line of a cell, filled up to the width of its column. -/
def pad (isRight : Bool) (total : Nat) (line : List Char) : List Char :=
  if isRight then
    let line := truncated .ellipsis total (Text.trimRight line)
    spaces (total - width line) ++ line
  else
    let line := truncated .ellipsis total line
    line ++ spaces (total - width line)

def cellLines (column : GridColumn) (total : Nat) (text : List Char) : List (List Char) :=
  (wrapped .ellipsis total text).map (pad column.isRight total)

def ruled (bar : Char) (line : List (List Char)) : List Char :=
  bar :: line.flatMap fun text => ' ' :: text ++ [' ', bar]

/-- The lines of a row. Each cell has as many lines as the tallest one. -/
def rowLines (bar : Char) (columns : List (GridColumn × Nat)) (texts : List (List Char)) :
    List (List Char) :=
  let cells := (columns.zip texts).map fun ((column, total), text) =>
    (total, cellLines column total text)
  let height := (cells.map (·.2.length)).foldl max 0
  (List.range height).map fun place =>
    ruled bar (cells.map fun (total, lines) => lines.getD place (spaces total))

/-- A line between rows. -/
def rule (left middle right dash : Char) (widths : List Nat) : List Char :=
  left :: [middle].intercalate (widths.map fun total => List.replicate (total + 2) dash) ++ [right]

def centred (total : Nat) (text : List Char) : List Char :=
  let left := (total - width text) / 2
  spaces left ++ text ++ spaces (total - width text - left)

def columnTexts (grid : Grid) (column : GridColumn) (place : Nat) :
    Except Failure (List (List Char)) :=
  (column.header :: grid.rows.map fun row => row.getD place "").mapM Markup.plain

def lines (grid : Grid) : Except Failure (List (List Char)) := do
  let texts ← grid.columns.zipIdx.mapM fun (column, place) => grid.columnTexts column place
  let title ← Markup.plain grid.title
  let widths := fittedWidths grid.columns ((grid.columns.zip texts).map fun (column, texts) =>
    columnWidth column texts)
  let columns := grid.columns.zip widths
  let row (bar : Char) (place : Nat) := rowLines bar columns (texts.map (·.getD place []))
  let total := widths.foldl (fun total width => total + width + 3) 1
  return centred total title :: rule '┏' '┳' '┓' '━' widths :: row '┃' 0 ++
    rule '┡' '╇' '┩' '━' widths ::
    (List.range grid.rows.length).flatMap (fun place => row '│' (place + 1)) ++
    [rule '└' '┴' '┘' '─' widths]

end Grid

end RelSchema.Display
