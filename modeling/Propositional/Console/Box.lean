import Propositional.Console.Grid

namespace Propositional.Console
open Text

/-- A column with its markups rendered. -/
structure RenderedColumn where
  header : List Char
  justify : Justify
  cells : List (List Char)

def Label.render [Library] : Label → Except MarkupError (List Char)
  | .plain text => .ok (sanitize text.toList)
  | .markup text => (Markup.render text).map (fun text => sanitize text.toList)

def Column.render [Library] (column : Column) : Except MarkupError RenderedColumn := do
  let header ← column.header.render
  let cells ← column.cells.mapM (fun cell => (Label.markup cell).render)
  return ⟨header, column.justify, cells⟩

/-- A column of which nothing is seen. -/
def Column.blank (column : Column) : RenderedColumn :=
  ⟨[], column.justify, column.cells.map (fun _ => [])⟩

namespace Box

/-- The separators that end a line where the width of a text is taken. -/
def endsLine (c : Char) : Bool :=
  (10 ≤ c.toNat && c.toNat ≤ 13) || (0x1c ≤ c.toNat && c.toNat ≤ 0x1e) ||
    c.toNat == 0x85 || c.toNat == 0x2028 || c.toNat == 0x2029

/-- The width of the longest line. -/
def longestLine (cs : List Char) : Nat :=
  match cs.findIdx? endsLine with
  | none => width cs
  | some _ => (splitLines (cs.map (fun c => if endsLine c then '\n' else c))).foldl
      (fun widest line => max widest (width line)) 0

/-- The width that a column asks for, with a blank on each side. -/
def naturalWidth (limit : Nat) (column : RenderedColumn) : Nat :=
  let content := (column.cells.map longestLine).foldl max (longestLine column.header)
  if limit < 3 then limit else min limit (min limit content + 2)

def total (widths : List Nat) : Nat := widths.foldr (· + ·) 0

/-- A quotient rounded to the nearest integer, a half to the even one. -/
def share (num den : Nat) : Nat :=
  let q := num / den
  let twice := 2 * (num % den)
  if twice < den || (twice == den && q % 2 == 0) then q else q + 1

/-- Takes a total from the widths that are marked, in shares as equal as can be, but not more
than `most` from each. -/
def reduce (most : Nat) : Nat → Nat → List (Nat × Bool) → List Nat
  | _, _, [] => []
  | total, marked, (w, true) :: rest =>
    if marked = 0 then w :: reduce most total marked rest
    else
      let taken := min most (share total marked)
      (w - taken) :: reduce most (total - taken) (marked - 1) rest
  | total, marked, (w, false) :: rest => w :: reduce most total marked rest

/-- Shrinks the widest columns towards the second widest until all fit. Each round takes at
least one cell away, so that the sum of the widths is enough fuel. -/
def collapse (limit : Nat) : Nat → List Nat → List Nat
  | 0, widths => widths
  | fuel + 1, widths =>
    let excess := total widths - limit
    let widest := widths.foldl max 0
    let second := (widths.filter (· != widest)).foldl max 0
    if excess = 0 ∨ widest = 0 then widths
    else
      collapse limit fuel (reduce (min excess (widest - second)) excess (widths.count widest)
        (widths.map (fun w => (w, w == widest))))

/-- The widths of the columns on a terminal. -/
def columnWidths (limit : Nat) (columns : List RenderedColumn) : List Nat :=
  let widths := columns.map (fun column => max 1 (naturalWidth limit column))
  if total widths ≤ limit then widths
  else
    (columns.zip (collapse limit (total widths) widths)).map (fun (column, w) =>
      naturalWidth w column)

/-- The lines of a cell between its two blanks. -/
def cellLines (how : Justify) (cells : Nat) (cs : List Char) : List (List Char) :=
  if cells < 3 then []
  else
    (wrap how .ellipsis (cells - 2) cs).map (fun line =>
      ' ' :: padRight (cells - 2) line ++ [' '])

def cellFault? [Library] (how : Justify) (cells : Nat) (cs : List Char) : Option CutFault :=
  if cells < 3 then none else wrapFault? how .ellipsis (cells - 2) cs

/-- The lines of one row, each between two edges and with a bar between its cells. The cells
are aligned at the bottom or at the top. -/
def rowLines (edge bar : Char) (atBottom : Bool) (widths : List Nat)
    (cells : List (List (List Char))) : List (List Char) :=
  let height := cells.foldl (fun most lines => max most lines.length) 1
  let blocks := (cells.zip widths).map (fun (lines, w) =>
    let missing := List.replicate (height - lines.length) (blanks w)
    if atBottom then missing ++ lines else lines ++ missing)
  (List.range height).map (fun i =>
    edge :: [bar].intercalate (blocks.map (fun block => block.getD i [])) ++ [edge])

def rule (left line cross right : Char) (widths : List Nat) : List Char :=
  left :: [cross].intercalate (widths.map (List.replicate · line)) ++ [right]

/-- The grid with a title above and a caption below, both centred. -/
def lines (console : Nat) (title caption : List Char) (columns : List RenderedColumn) :
    List (List Char) :=
  let edges := columns.length + 1
  let widths := columnWidths (console - edges) columns
  let full := total widths + edges
  let row (edge bar : Char) (atBottom : Bool) (texts : List (List Char)) :=
    rowLines edge bar atBottom widths
      (((columns.zip widths).zip texts).map (fun ((column, w), cs) =>
        cellLines column.justify w cs))
  let heading := if title.isEmpty then [] else wrap .center .fold full title
  let rows := (columns.map (·.cells)).foldr
    (fun cells rows => List.zipWith List.cons cells rows)
    (List.replicate ((columns.head?.map (·.cells.length)).getD 0) [])
  heading ++ [rule '┏' '━' '┳' '┓' widths] ++
    row '┃' '┃' true (columns.map (·.header)) ++
    [rule '┡' '━' '╇' '┩' widths] ++
    rows.flatMap (row '│' '│' false) ++
    [rule '└' '─' '┴' '┘' widths] ++
    wrap .center .fold full caption

/-- The first text of the grid that cannot be cut. -/
def fault? [Library] (console : Nat) (title caption : List Char) (columns : List RenderedColumn) :
    Option CutFault :=
  let edges := columns.length + 1
  let widths := columnWidths (console - edges) columns
  let full := total widths + edges
  (wrapFault? .center .fold full title).or
    (((columns.zip widths).findSome? (fun (column, w) =>
      (column.header :: column.cells).findSome? (cellFault? column.justify w))).or
        (wrapFault? .center .fold full caption))

end Box

/-- The columns between the edges. Where no cell has room for more than its two blanks, their
markups are not looked at. -/
def Grid.renderColumns [Library] (cells : Nat) (grid : Grid) :
    Except MarkupError (List RenderedColumn) :=
  if cells - (grid.columns.length + 1) < 3 then .ok (grid.columns.map Column.blank)
  else grid.columns.mapM Column.render

/-- A grid as a terminal of a width shows it; what sticks out is cut off. Without any width
nothing of it is looked at. -/
def Grid.print [Library] (cells : Nat) (grid : Grid) : Except PrintError String := do
  if cells = 0 then return ""
  let columns ← (grid.renderColumns cells).mapError .markup
  let caption ← ((Label.markup grid.caption).render).mapError .markup
  let title := sanitize grid.title.toList
  let lines := Box.lines cells title caption columns
  match (Box.fault? cells title caption columns).or
      (lines.findSome? (Overflow.fold.fault? cells)) with
  | some fault => throw (.cut fault)
  | none => return unlines (lines.map (truncate .fold cells))

end Propositional.Console
