import FilterWire.Text.Blank
import FilterWire.Text.Cluster

/-!
# Console lines

Laying a text out in lines of bounded width.  Width is counted in cells, words are kept whole where
they fit, and white space at a break stays on the line it follows.
-/

namespace FilterWire.Console

/-- The words of a text, each with the white space after it; the first also has the white space
before it.  A blank text has none. -/
def wordsFrom : (fuel : Nat) → Text → List Text
  | 0, _ => []
  | fuel + 1, t =>
    let (lead, r) := t.span isBlank
    match r.span (fun c => !isBlank c) with
    | ([], _) => []
    | (word, r) =>
      let (trail, r) := r.span isBlank
      (lead ++ word ++ trail) :: wordsFrom fuel r

def words (t : Text) : List Text :=
  wordsFrom (t.length + 1) t

/-- Puts clusters together into pieces that fill lines of a width; `piece` holds, backwards, the
piece being filled, and `cells` its width. -/
def chopFrom (width : Nat) (piece : List Text) (cells : Nat) : List Cluster → List Text
  | [] => [piece.reverse.flatten]
  | g :: gs =>
    if width < cells + g.cells then piece.reverse.flatten :: chopFrom width [g.text] g.cells gs
    else chopFrom width (g.text :: piece) (cells + g.cells) gs

def chop (width : Nat) (t : Text) : List Text :=
  chopFrom width [] 0 t.clusters

/-- Lines being filled: the finished ones backwards, the open one, and its cells. -/
structure Fill where
  done : List Text := []
  line : Text := []
  cells : Nat := 0
  started : Bool := false

namespace Fill

def breakLine (f : Fill) : Fill :=
  if f.started then { f with done := f.line :: f.done, line := [], cells := 0 } else f

def place (f : Fill) (word : Text) : Fill :=
  { f with line := f.line ++ word, cells := f.cells + Text.cells word, started := true }

/-- Places a word on the open line if it fits there, else on a new one.  One that fits on no line
is cut into pieces if `fold`. -/
def word (width : Nat) (fold : Bool) (f : Fill) (word : Text) : Fill :=
  let need := Text.cells word.trimEnd
  if f.cells + need ≤ width then f.place word
  else if width < need ∧ fold then
    (chop width word).foldl (fun f piece => f.breakLine.place piece) f
  else f.breakLine.place word

def lines (f : Fill) : List Text :=
  (f.line :: f.done).reverse

end Fill

def fill (width : Nat) (fold : Bool) (t : Text) : List Text :=
  match words t with
  | [] => [t]
  | ws => (ws.foldl (Fill.word width fold) {}).lines

/-- Takes white space off the end of a text that has more than so many characters. -/
def trimTo (width : Nat) (t : Text) : Text :=
  let excess := t.length - width
  let blanks := t.length - t.trimEnd.length
  t.take (t.length - min excess blanks)

def spaces (n : Nat) : Text :=
  List.replicate n ' '

/-- The first clusters that take so many cells; one that would stand half outside gives way to a
space. -/
def crop (width : Nat) : List Cluster → Text
  | [] => []
  | g :: gs =>
    if width = 0 then []
    else if g.cells ≤ width then g.text ++ crop (width - g.cells) gs
    else [' ']

def fit (width : Nat) (t : Text) : Text :=
  let cells := Text.cells t
  if width = 0 then []
  else if cells ≤ width then t ++ spaces (width - cells)
  else crop width t.clusters

/-- What happens to a line that is too wide. -/
inductive Overflow
  | fold
  | ellipsis
  deriving DecidableEq

/-- A line of at most so many cells. -/
def truncate (width : Nat) (o : Overflow) (t : Text) : Text :=
  if Text.cells t ≤ width then t
  else match o with
    | .fold => fit width t
    | .ellipsis => fit (width - 1) t ++ ['…']

/-- A tab goes to the next column that is a multiple of eight, by at least one.  `column` is where
the pieces between the tabs begin. -/
def alignTabs (column : Nat) : List Text → Text
  | [] => []
  | [piece] => piece
  | piece :: ps =>
    let upTo := column + Text.cells (piece ++ [' '])
    let gap := (8 - upTo % 8) % 8
    piece ++ ' ' :: spaces gap ++ alignTabs (upTo + gap) ps

def expandTabs (t : Text) : Text :=
  alignTabs 0 (Text.split ['\t'] t)

/-- The lines of a text; `adjust` brings each to its place. -/
def wrap (width : Nat) (o : Overflow) (adjust : Text → Text) (t : Text) : List Text :=
  t.lines.flatMap fun line =>
    ((fill width (o = .fold) (expandTabs line)).map (trimTo width)).map fun l =>
      truncate width o (adjust l)

end FilterWire.Console
