import FilterWire.Console.Message

/-!
# Tables

Framed tables with a heavy head.  A column is as wide as its widest cell; where the console is too
narrow the widest columns give way first, and their cells are broken into lines.
-/

namespace FilterWire.Console

structure Column where
  header : Text
  alignRight : Bool := false

/-- The characters that end a line of a cell for its measure. -/
def endsLine (c : Char) : Bool :=
  c = '\n' ∨ c = '\x1c' ∨ c = '\x1d' ∨ c = '\x1e' ∨ c = '\u0085' ∨ c = '\u2028' ∨ c = '\u2029'

/-- The width of the widest line of a cell; `line` holds, backwards, the line being read. -/
def widestFrom (line : Text) (widest : Nat) : Text → Nat
  | [] => max (Text.cells line.reverse) widest
  | c :: r =>
    if endsLine c then widestFrom [] (max (Text.cells line.reverse) widest) r
    else widestFrom (c :: line) widest r

def widestLine (cell : Text) : Nat :=
  widestFrom [] 0 cell

/-- The width of a cell with a space on both sides, within a bound. -/
def measure (bound : Nat) (cell : Text) : Nat :=
  if bound < 3 then bound else min (min (widestLine cell) bound + 2) bound

def measureColumn (bound : Nat) (cells : List Text) : Nat :=
  (cells.map (measure bound)).foldl max 0

/-- The nearest whole number to a fraction; a half goes to the even neighbour. -/
def roundHalfEven (n d : Nat) : Nat :=
  let q := n / d
  let r := n % d
  if 2 * r < d ∨ (2 * r = d ∧ q % 2 = 0) then q else q + 1

/-- Takes a total off some widths.  Each marked width gives its share of what is left, up to a
limit. -/
def reduceFrom (total marked limit : Nat) : List (Bool × Nat) → List Nat
  | [] => []
  | (true, w) :: ws =>
    let share := min limit (roundHalfEven total marked)
    (w - share) :: reduceFrom (total - share) (marked - 1) limit ws
  | (false, w) :: ws => w :: reduceFrom total marked limit ws

def reduce (total limit : Nat) (ws : List (Bool × Nat)) : List Nat :=
  if limit = 0 then ws.map (·.2)
  else reduceFrom total (ws.countP (·.1)) limit ws

def total (ws : List Nat) : Nat :=
  ws.foldl (· + ·) 0

/-- Brings the widest columns down to the next width, until the table fits or all are equal. -/
def collapse (bound : Nat) : (fuel : Nat) → List Nat → List Nat
  | 0, ws => ws
  | fuel + 1, ws =>
    let excess := total ws - bound
    if excess = 0 then ws
    else
      let widest := ws.foldl max 0
      let second := (ws.filter (· ≠ widest)).foldl max 0
      if widest = second then ws
      else collapse bound fuel
        (reduce excess (min excess (widest - second)) (ws.map fun w => (w = widest, w)))

def widths (bound : Nat) (columns : List (List Text)) : List Nat :=
  let natural := columns.map (measureColumn bound)
  if total natural ≤ bound then natural
  else (collapse bound (total natural + 1) natural).zipWith measureColumn columns

def align (width : Nat) (right : Bool) (line : Text) : Text :=
  if right then
    let line := truncate width .ellipsis line.trimEnd
    spaces (width - Text.cells line) ++ line
  else
    let line := truncate width .ellipsis line
    line ++ spaces (width - Text.cells line)

def cellLines (width : Nat) (right : Bool) (cell : Text) : List Text :=
  let inner := width - 2
  (wrap inner .ellipsis (align inner right) cell).map fun l => ' ' :: fit inner l ++ [' ']

/-- A row of equally high cells between edges. -/
def row (edge : Char) (widths : List Nat) (cells : List (List Text)) : List Text :=
  let height := (cells.map List.length).foldl max 0
  let line (n : Nat) : Text :=
    let parts := cells.zipWith (fun ls w => (ls[n]?).getD (spaces w)) widths
    edge :: [edge].intercalate parts ++ [edge]
  (List.range height).map line

def rule (left bar joint right : Char) (widths : List Nat) : Text :=
  left :: [joint].intercalate (widths.map fun w => List.replicate w bar) ++ [right]

def columnCells (rows : List (List Text)) (n : Nat) : List Text :=
  rows.map fun r => (r[n]?).getD []

def table (columns : List Column) (rows : List (List Text)) : Text :=
  let rows := rows.map (·.map sanitize)
  let header := columns.map (·.header)
  let frame := columns.length + 1
  let ws := widths (width - frame)
    ((List.range columns.length).map (columnCells (header :: rows)))
  let lines (cells : List Text) : List (List Text) :=
    (columns.zip (cells.zip ws)).map fun (c, cell, w) => cellLines w c.alignRight cell
  let all :=
    rule '┏' '━' '┳' '┓' ws :: row '┃' ws (lines header) ++
    rule '┡' '━' '╇' '┩' ws :: rows.flatMap (fun r => row '│' ws (lines r)) ++
    [rule '└' '─' '┴' '┘' ws]
  ['\n'].intercalate all ++ ['\n']

end FilterWire.Console
