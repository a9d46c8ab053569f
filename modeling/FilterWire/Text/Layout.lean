import FilterWire.Text.DecimalDigit

/-!
# Text fields

Laying a text out in a field.  A layout is a fill character with an alignment, a width, and the
number of characters to keep, each of which may be left out.
-/

namespace FilterWire

inductive Alignment
  | left
  | right
  | center
  deriving DecidableEq

structure Layout where
  fill : Char := ' '
  alignment : Alignment := .left
  width : Nat := 0
  /-- How many characters are kept at most. -/
  limit : Option Nat := none

namespace Layout

def alignment? : Char → Option Alignment
  | '<' => some .left
  | '>' => some .right
  | '^' => some .center
  | _ => none

/-- Reads the fill character and the alignment.  A zero in the place of both fills with zeros. -/
def opening (t : Text) : Layout × Text :=
  match t with
  | c :: mark :: r =>
    match alignment? mark with
    | some a => (⟨c, a, 0, none⟩, r)
    | none => unfilled t
  | _ => unfilled t
where
  zeros (l : Layout) : Text → Layout × Text
    | '0' :: r => ({ l with fill := '0' }, r)
    | r => (l, r)
  unfilled : Text → Layout × Text
    | [] => ({}, [])
    | c :: r =>
      match alignment? c with
      | some a => zeros { alignment := a } r
      | none => zeros {} (c :: r)

/-- Reads a layout; the letter at its end may be left out. -/
def ofText? (t : Text) : Option Layout :=
  let (l, r) := opening t
  let (width, r) := Text.countFrom none r
  let l := { l with width := width.getD 0 }
  match r with
  | [] | ['s'] => some l
  | '.' :: r =>
    match Text.countFrom none r with
    | (some n, []) | (some n, ['s']) => some { l with limit := some n }
    | _ => none
  | _ => none

def apply (l : Layout) (t : Text) : Text :=
  let t := (l.limit.map t.take).getD t
  let gap := l.width - t.length
  let before := match l.alignment with
    | .left => 0
    | .right => gap
    | .center => gap / 2
  List.replicate before l.fill ++ t ++ List.replicate (gap - before) l.fill

end Layout

end FilterWire
