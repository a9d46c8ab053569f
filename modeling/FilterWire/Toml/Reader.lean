import FilterWire.Toml.Table
import FilterWire.Toml.Text

/-!
# Reading a settings document

Lines of `key = value`, table headers and comments.  Carriage returns before line feeds are
dropped first.
-/

namespace FilterWire.Toml

/-- What follows a comment, or the text itself if none starts here. -/
def skipComment (t : Text) : Except Fault Text :=
  match t with
  | '#' :: r =>
    if (r.takeWhile (· ≠ '\n')).all (fun c => !isControl c) then .ok (r.dropWhile (· ≠ '\n'))
    else .error .malformed
  | _ => .ok t

/-- Skips white space, line ends and comments; `inComment` tells whether a comment is open. -/
def skipFiller (inComment : Bool) : Text → Except Fault Text
  | [] => .ok []
  | c :: r =>
    if c = '\n' then skipFiller false r
    else if inComment then
      if isControl c then .error .malformed else skipFiller true r
    else if isSpace c then skipFiller false r
    else if c = '#' then skipFiller true r
    else .ok (c :: r)

def filler (t : Text) : Except Fault Text :=
  skipFiller false t

mutual

/-- Any value; `fuel` bounds the nesting and the number of elements. -/
def value : (fuel : Nat) → Text → Except Fault (Value × Text)
  | 0, _ => .error .malformed
  | _ + 1, [] => .error .malformed
  | fuel + 1, c :: r =>
    if c = '"' ∨ c = '\'' then (anyText (c :: r)).map fun (t, rest) => (.str t, rest)
    else if c = '[' then
      match filler r with
      | .error e => .error e
      | .ok (']' :: rest) => .ok (.list [], rest)
      | .ok rest => items fuel [] rest
    else if c = '{' then
      match skipSpace r with
      | '}' :: rest => .ok (.dict [], rest)
      | rest => pairs fuel [] [] rest
    else scalar (c :: r)

/-- The items of an array from the first one on; the last may be followed by a comma. -/
def items : (fuel : Nat) → List Value → Text → Except Fault (Value × Text)
  | 0, _, _ => .error .malformed
  | fuel + 1, before, t => do
    let (v, r) ← value fuel t
    match ← filler r with
    | ']' :: r => .ok (.list (v :: before).reverse, r)
    | ',' :: r =>
      match ← filler r with
      | ']' :: r => .ok (.list (v :: before).reverse, r)
      | r => items fuel (v :: before) r
    | _ => .error .malformed

/-- The pairs of an inline table from the first one on; `closed` holds the inline values in it. -/
def pairs : (fuel : Nat) → Entries → List KeyPath → Text → Except Fault (Value × Text)
  | 0, _, _, _ => .error .malformed
  | fuel + 1, before, closed, t => do
    let (path, r) ← key t
    match r with
    | '=' :: r =>
      let (v, r) ← value fuel (skipSpace r)
      if isClosed closed path then .error .malformed
      else match addAt path v before with
        | none => .error .malformed
        | some entries =>
          match skipSpace r with
          | '}' :: r => .ok (.dict entries, r)
          | ',' :: r =>
            pairs fuel entries (if isInline v then path :: closed else closed) (skipSpace r)
          | _ => .error .malformed
    | _ => .error .malformed

end

def anyValue (t : Text) : Except Fault (Value × Text) :=
  value (2 * t.length + 2) t

/-- An option as an outcome. -/
def orMalformed : Option α → Except Fault α
  | some a => .ok a
  | none => .error .malformed

def statement (d : Document) (t : Text) : Except Fault (Document × Text) :=
  match t with
  | '[' :: '[' :: r => do
    let (path, r) ← key (skipSpace r)
    let d ← orMalformed (d.endSection.openItem path)
    let r ← orMalformed (Text.after? [']', ']'] r)
    .ok (d, r)
  | '[' :: r => do
    let (path, r) ← key (skipSpace r)
    let d ← orMalformed (d.endSection.openTable path)
    let r ← orMalformed (Text.after? [']'] r)
    .ok (d, r)
  | _ => do
    let (path, r) ← key t
    let r ← orMalformed (Text.after? ['='] r)
    let (v, r) ← anyValue (skipSpace r)
    let d ← orMalformed (d.assign path v)
    .ok (d, r)

/-- The statements of a document, one a line. -/
def statements : (fuel : Nat) → Document → Text → Except Fault Document
  | 0, _, _ => .error .malformed
  | fuel + 1, d, t =>
    match skipSpace t with
    | [] => .ok d
    | '\n' :: r => statements fuel d r
    | c :: r => do
      let (d, r) ← if c = '#' then .ok (d, c :: r) else statement d (c :: r)
      match ← skipComment (skipSpace r) with
      | [] => .ok d
      | '\n' :: r => statements fuel d r
      | _ => .error .malformed

/-- Drops carriage returns before line feeds. -/
def unixLines : Text → Text
  | '\r' :: '\n' :: r => '\n' :: unixLines r
  | c :: r => c :: unixLines r
  | [] => []

def read (t : Text) : Except Fault Entries := do
  let t := unixLines t
  let d ← statements (t.length + 1) {} t
  .ok d.root

end FilterWire.Toml
