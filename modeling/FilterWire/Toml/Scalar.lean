import FilterWire.Decimal.Nearest
import FilterWire.Value.Basic

/-!
# Scalars of a settings document

Numbers, dates and times, and the special words.  Underscores may stand between digits.
-/

namespace FilterWire.Toml

inductive Fault
  | malformed
  | integerTooLong
  deriving DecidableEq

/-- The digits that follow, with single underscores between them dropped; `digits` holds, backwards,
those already read. -/
def moreDigits (isDigit : Char → Bool) (digits : Text) : Text → Text × Text
  | '_' :: c :: r =>
    if isDigit c then moreDigits isDigit (c :: digits) r else (digits.reverse, '_' :: c :: r)
  | c :: r =>
    if isDigit c then moreDigits isDigit (c :: digits) r else (digits.reverse, c :: r)
  | [] => (digits.reverse, [])

def digits? (isDigit : Char → Bool) : Text → Option (Text × Text)
  | [] => none
  | c :: r => if isDigit c then some (moreDigits isDigit [c] r) else none

/-- The number that some digits denote in a base. -/
def inBase (base : Nat) (digits : Text) : Nat :=
  digits.foldl (fun n c => base * n + (Text.hexDigit? c).getD 0) 0

def isBinaryDigit (c : Char) : Bool :=
  c = '0' ∨ c = '1'

def isOctalDigit (c : Char) : Bool :=
  '0' ≤ c ∧ c ≤ '7'

def isHexDigit (c : Char) : Bool :=
  (Text.hexDigit? c).isSome

/-- An integer after a mark of its base. -/
def based? (mark : Text) (base : Nat) (isDigit : Char → Bool) (t : Text) :
    Option (Value × Text) := do
  let r ← Text.after? mark t
  let (digits, r) ← digits? isDigit r
  some (.int (inBase base digits), r)

def sign (t : Text) : Bool × Text :=
  match t with
  | '-' :: r => (true, r)
  | '+' :: r => (false, r)
  | _ => (false, t)

/-- The whole part of a number: a single zero, or digits that do not start with one. -/
def whole? : Text → Option (Text × Text)
  | [] => none
  | c :: r => if c = '0' then some (['0'], r) else digits? Text.isDigit (c :: r)

def fraction? : Text → Option (Text × Text)
  | '.' :: r => digits? Text.isDigit r
  | _ => none

def exponent? : Text → Option (Int × Text)
  | [] => none
  | c :: r =>
    if c = 'e' ∨ c = 'E' then do
      let (negative, r) := sign r
      let (digits, r) ← digits? Text.isDigit r
      let n : Int := Text.toNat digits
      some (if negative then -n else n, r)
    else none

/-- A decimal integer or a floating-point number. -/
def decimal? (t : Text) : Option (Except Fault (Value × Text)) := do
  let (negative, r) := sign t
  let (whole, r) ← whole? r
  let fraction := fraction? r
  let r := (fraction.map (·.2)).getD r
  let places := (fraction.map (·.1)).getD []
  let exponent := exponent? r
  let r := (exponent.map (·.2)).getD r
  if fraction.isSome || exponent.isSome then
    let power := (exponent.map (·.1)).getD 0 - places.length
    some (.ok (.float (nearestFloat negative (whole ++ places) power), r))
  else if maxIntegerDigits < whole.length then some (.error .integerTooLong)
  else
    let n : Int := Text.toNat whole
    some (.ok (.int (if negative then -n else n), r))

def fixedDigits? (width : Nat) (t : Text) : Option (Nat × Text) :=
  let digits := t.take width
  if digits.length = width ∧ digits.all Text.isDigit then
    some (Text.toNat digits, t.drop width)
  else none

/-- So many digits for a number between two bounds. -/
def bounded? (width least greatest : Nat) (t : Text) : Option (Nat × Text) := do
  let (n, r) ← fixedDigits? width t
  if least ≤ n ∧ n ≤ greatest then some (n, r) else none

/-- Six places of a fraction of a second; further digits are dropped. -/
def micros (t : Text) : Nat × Text :=
  match t with
  | '.' :: r =>
    let digits := r.takeWhile Text.isDigit
    if digits.isEmpty then (0, t)
    else (Text.toNat ((digits ++ List.replicate 6 '0').take 6), r.dropWhile Text.isDigit)
  | _ => (0, t)

def clock? (t : Text) : Option (Clock × Text) := do
  let (hour, t) ← bounded? 2 0 23 t
  let t ← Text.after? [':'] t
  let (minute, t) ← bounded? 2 0 59 t
  let t ← Text.after? [':'] t
  let (second, t) ← bounded? 2 0 59 t
  let (micro, t) := micros t
  some (⟨hour, minute, second, micro⟩, t)

/-- A date by its shape; the day may not exist in its month. -/
def date? (t : Text) : Option (Date × Text) := do
  let (year, t) ← fixedDigits? 4 t
  let t ← Text.after? ['-'] t
  let (month, t) ← bounded? 2 1 12 t
  let t ← Text.after? ['-'] t
  let (day, t) ← bounded? 2 1 31 t
  some (⟨year, month, day⟩, t)

def offset? (t : Text) : Option (Int × Text) :=
  match t with
  | [] => none
  | c :: r =>
    if c = 'Z' ∨ c = 'z' then some (0, r)
    else if c = '+' ∨ c = '-' then do
      let (hours, r) ← bounded? 2 0 23 r
      let r ← Text.after? [':'] r
      let (minutes, r) ← bounded? 2 0 59 r
      let n : Int := hours * 60 + minutes
      some (if c = '-' then -n else n, r)
    else none

/-- The time of day after a date. -/
def clockAfterDate? : Text → Option (Clock × Text)
  | [] => none
  | c :: r => if c = 'T' ∨ c = 't' ∨ c = ' ' then clock? r else none

/-- A date, with or without a time of day and an offset. -/
def moment? (t : Text) : Option (Except Fault (Value × Text)) := do
  let (date, r) ← date? t
  if !date.isValid then some (.error .malformed)
  else match clockAfterDate? r with
    | none => some (.ok (.stamp (.date date), r))
    | some (clock, r) => match offset? r with
      | none => some (.ok (.stamp (.moment date clock none), r))
      | some (offset, r) => some (.ok (.stamp (.moment date clock (some offset)), r))

/-- The first reader that succeeds. -/
def firstOf (readers : List (Text → Option (Value × Text))) (t : Text) : Option (Value × Text) :=
  readers.findSome? (· t)

def word (spelling : String) (v : Value) (t : Text) : Option (Value × Text) :=
  (Text.after? spelling.toList t).map fun r => (v, r)

/-- The words for numbers outside the reals. -/
def special? : Text → Option (Value × Text) :=
  firstOf
    [word "inf" (.float (1.0 / 0.0)), word "nan" (.float (0.0 / 0.0)),
     word "+inf" (.float (1.0 / 0.0)), word "-inf" (.float (-1.0 / 0.0)),
     word "+nan" (.float (0.0 / 0.0)), word "-nan" (.float (0.0 / 0.0))]

/-- A truth value, date, time or number. -/
def scalar (t : Text) : Except Fault (Value × Text) :=
  match firstOf [word "true" (.bool true), word "false" (.bool false)] t with
  | some result => .ok result
  | none => match moment? t with
    | some result => result
    | none => match clock? t with
      | some (clock, r) => .ok (.stamp (.clock clock), r)
      | none =>
        match firstOf [based? ['0', 'x'] 16 isHexDigit, based? ['0', 'b'] 2 isBinaryDigit,
            based? ['0', 'o'] 8 isOctalDigit] t with
        | some result => .ok result
        | none => match decimal? t with
          | some result => result
          | none => match special? t with
            | some result => .ok result
            | none => .error .malformed

end FilterWire.Toml
