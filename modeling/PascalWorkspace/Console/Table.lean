import PascalWorkspace.Console.Markup

/-! Tables of marked text. A row takes as many lines as its longest cell has. -/
namespace PascalWorkspace.Console

structure Table where
  title : String
  header : List String
  rows : List (List String)
  deriving Repr

/-- A table as it is shown: the lines of the title, and the cells of each line of each row. -/
structure ShownTable where
  title : List String
  header : List String
  lines : List (List String)
  deriving DecidableEq, Repr

namespace Table

/-- The columns between two tab stops. -/
def tabWidth : Nat := 8

/-- Replaces tabs by blanks up to the next stop. -/
def expandTabs : Nat → List Char → List Char
  | _, [] => []
  | column, '\t' :: rest =>
    let width := tabWidth - column % tabWidth
    List.replicate width ' ' ++ expandTabs (column + width) rest
  | column, c :: rest => c :: expandTabs (column + 1) rest

def splitLines : List Char → List (List Char)
  | [] => [[]]
  | '\n' :: rest => [] :: splitLines rest
  | c :: rest =>
    match splitLines rest with
    | [] => [[c]]
    | line :: others => (c :: line) :: others

/-- The lines that a marked text shows. -/
def cellLines (markup : String) : Except MarkupFault (List String) := do
  let shown ← render markup
  return (splitLines shown.toList).map fun line => String.ofList (expandTabs 0 line)

/-- The lines of a row: the cells side by side, a cell that has ended being empty. -/
def rowLines (cells : List (List String)) : List (List String) :=
  let height := cells.foldl (fun n lines => max n lines.length) 0
  (List.range height).map fun i => cells.map fun lines => lines.getD i ""

/-- The cells below one another at a position of every row. -/
def column (t : Table) (position : Nat) : List String := t.rows.map (·.getD position "")

/-- Column by column, then the title. -/
def render (t : Table) : Except MarkupFault ShownTable := do
  let header ← t.header.mapM Console.render
  let columns ← (List.range t.header.length).mapM fun i => (t.column i).mapM cellLines
  let title ← cellLines t.title
  let rows := (List.range t.rows.length).map fun j => columns.map (·.getD j [])
  return { title, header, lines := rows.flatMap rowLines }

end Table

namespace ShownTable

/-- The width of each column. -/
def widths (t : ShownTable) : List Nat :=
  t.lines.foldl (fun ws line => List.zipWith (fun w cell => max w cell.length) ws line)
    (t.header.map (·.length))

def pad (width : Nat) (cell : String) : String :=
  cell ++ String.ofList (List.replicate (width - cell.length) ' ')

def lineText (widths : List Nat) (cells : List String) : String :=
  "│ " ++ " │ ".intercalate (List.zipWith pad widths cells) ++ " │"

def ruleText (left middle right : String) (widths : List Nat) : String :=
  let bars := widths.map fun w => String.ofList (List.replicate (w + 2) '─')
  left ++ middle.intercalate bars ++ right

/-- The table with lines around it. -/
def text (t : ShownTable) : String :=
  let widths := t.widths
  let all := t.title ++ [ruleText "┌" "┬" "┐" widths, lineText widths t.header,
    ruleText "├" "┼" "┤" widths] ++ t.lines.map (lineText widths) ++ [ruleText "└" "┴" "┘" widths]
  "\n".intercalate all

end ShownTable

end PascalWorkspace.Console
