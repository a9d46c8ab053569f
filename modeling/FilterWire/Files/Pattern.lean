import FilterWire.Calendar.Format
import FilterWire.Failure
import FilterWire.Text.Layout

/-!
# Patterns of paths

A pattern holds braces.  A doubled brace stands for a single one, and single braces enclose a
placeholder: a name, a conversion after an exclamation mark, and a format after a colon, which may
be a pattern itself.  The only name is `time`, for the moment at which the pattern is used.
-/

namespace FilterWire

structure Placeholder where
  name : Text
  conversion : Option Char := none
  format : Text := []

inductive Piece
  | letter (c : Char)
  | placeholder (p : Placeholder)
  /-- A brace without its partner; nothing after it is read. -/
  | broken

namespace Placeholder

/-- Reads a name up to the character that ends it.  A character in square brackets ends no name.
`name` holds, backwards, what has been read. -/
def nameFrom (name : Text) (bracketed : Bool) : Text → Option (Text × Text)
  | [] => none
  | c :: r =>
    if bracketed then nameFrom (c :: name) (c ≠ ']') r
    else if c = '}' ∨ c = ':' ∨ c = '!' then some (name.reverse, c :: r)
    else if c = '{' then none
    else nameFrom (c :: name) (c = '[') r

/-- Reads a format and the brace that closes its placeholder.  `format` holds, backwards, what has
been read, and `depth` counts the open braces in it. -/
def formatFrom (format : Text) (depth : Nat) : Text → Option (Text × Text)
  | [] => none
  | '}' :: r =>
    match depth with
    | 0 => some (format.reverse, r)
    | depth + 1 => formatFrom ('}' :: format) depth r
  | c :: r => formatFrom (c :: format) (if c = '{' then depth + 1 else depth) r

/-- Reads a placeholder after its opening brace. -/
def read? (t : Text) : Option (Placeholder × Text) := do
  let (name, r) ← nameFrom [] false t
  match r with
  | '}' :: r => some ({ name }, r)
  | ':' :: r => (formatFrom [] 0 r).map fun (format, r) => ({ name, format }, r)
  | '!' :: c :: '}' :: r => some ({ name, conversion := c }, r)
  | '!' :: c :: ':' :: r =>
    (formatFrom [] 0 r).map fun (format, r) => ({ name, conversion := c, format }, r)
  | _ => none

def pathFormat : Text := "%Y-%m-%d_%H-%M-%S_%f".toList

/-- Why a part of a placeholder cannot be had: parts by name are unknown, and there are none by
key. -/
def partFailure : Text → Failure
  | '.' :: c :: _ => if c = '.' ∨ c = '[' then .malformedPattern else .unsupported
  | '[' :: c :: _ => if c = ']' then .malformedPattern else .unfit
  | _ => .malformedPattern

/-- The format of what a name stands for where none is given.  The part `datetime` is the moment
with its own format.  Numbers would count the arguments, of which there are none. -/
def defaultFormat (name : Text) : Except Failure Text :=
  let (root, parts) := name.span fun c => c ≠ '.' ∧ c ≠ '['
  if root.all fun c => (decimalDigit? c).isSome then .error .malformedPattern
  else if root ≠ "time".toList then .error (.missingKey root)
  else if parts.isEmpty then .ok pathFormat
  else
    match Text.after? ".datetime".toList parts with
    | some [] => .ok Moment.fullFormat
    | some (c :: r) => .error (partFailure (if c = '.' ∨ c = '[' then c :: r else parts))
    | none => .error (partFailure parts)

/-- What a converted placeholder shows. -/
def converted : Text := "<time>".toList

def isConversion (c : Char) : Bool :=
  c = 'r' ∨ c = 's' ∨ c = 'a'

/-- A placeholder at a moment, under its format.  A converted one is laid out as a text. -/
def show? (m : Moment) (p : Placeholder) (default format : Text) : Option Text :=
  match p.conversion with
  | none => m.format? (if format.isEmpty then default else format)
  | some _ => (Layout.ofText? format).map (·.apply converted)

end Placeholder

namespace Pattern

def piecesFrom : (fuel : Nat) → Text → List Piece
  | 0, _ => []
  | _, [] => []
  | fuel + 1, '{' :: '{' :: r => .letter '{' :: piecesFrom fuel r
  | fuel + 1, '}' :: '}' :: r => .letter '}' :: piecesFrom fuel r
  | _, '}' :: _ => [.broken]
  | fuel + 1, '{' :: r =>
    match Placeholder.read? r with
    | some (p, r) => .placeholder p :: piecesFrom fuel r
    | none => [.broken]
  | fuel + 1, c :: r => .letter c :: piecesFrom fuel r

def pieces (pattern : Text) : List Piece :=
  piecesFrom pattern.length pattern

def isBroken : Piece → Bool
  | .broken => true
  | _ => false

/-- The text of a placeholder; `expandFormat` expands the pattern in its format. -/
def fill (m : Moment) (expandFormat : Text → Except Failure Text) (p : Placeholder) :
    Except Failure Text := do
  let default ← Placeholder.defaultFormat p.name
  if (p.conversion.map fun c => !Placeholder.isConversion c).getD false then
    .error .malformedPattern
  let format ← if p.format.contains '{' then expandFormat p.format else .ok p.format
  match p.show? m default format with
  | some t => .ok t
  | none => .error .malformedPattern

def join (m : Moment) (expandFormat : Text → Except Failure Text) :
    List Piece → Except Failure Text
  | [] => .ok []
  | .letter c :: ps => (join m expandFormat ps).map (c :: ·)
  | .placeholder p :: ps => do
    let shown ← fill m expandFormat p
    (join m expandFormat ps).map (shown ++ ·)
  | .broken :: _ => .error .malformedPattern

/-- The text that a pattern stands for; its formats may hold patterns one level deep. -/
def expand (m : Moment) (pattern : Text) : Except Failure Text :=
  let ps := pieces pattern
  if ps.any isBroken then .error .malformedPattern
  else join m (fun format => join m (fun _ => .error .malformedPattern) (pieces format)) ps

end Pattern

end FilterWire
