import FilterWire.CodecError

/-!
# Groups

The text between an opening parenthesis and the one that closes it.
-/

namespace FilterWire.Group

/-- The text up to the parenthesis that closes the group; `depth` counts the groups open inside it,
and `inner` holds, backwards, what has been passed. -/
def closeFrom (depth : Nat) (inner : Text) : Text → Option Text
  | [] => none
  | c :: r =>
    if c = '(' then closeFrom (depth + 1) (c :: inner) r
    else if c = ')' then
      match depth with
      | 0 => some inner.reverse
      | depth + 1 => closeFrom depth (c :: inner) r
    else closeFrom depth (c :: inner) r

/-- The position of the first opening parenthesis from a position on, and what follows it. -/
def open? (start : Nat) (t : Text) : Option (Nat × Text) :=
  match (t.drop start).span (· ≠ '(') with
  | (_, []) => none
  | (passed, _ :: r) => some (start + passed.length, r)

/-- A negative position counts from the end, but not past the beginning. -/
def position (start : Int) (t : Text) : Nat :=
  if start < 0 then (t.length + start).toNat else start.toNat

/-- The text inside the first group that opens from a position on; `shown` is the position in the
words of the caller. -/
def insideFrom (shown : Value) (start : Int) (t : Text) : Except CodecError Text :=
  match open? (position start t) t with
  | none => .error (.noOpening shown t)
  | some (opening, r) =>
    match closeFrom 0 [] r with
    | some inner => .ok inner
    | none => .error (.unclosed opening t)

def inside (start : Int) (t : Text) : Except CodecError Text :=
  insideFrom (.int start) start t

end FilterWire.Group
