import FilterWire.Toml.Scalar

/-!
# Texts of a settings document

Basic texts have escapes, literal ones have none; each kind comes on one line or on several.
-/

namespace FilterWire.Toml

/-- Controls that no text and no comment may hold, with tabs apart. -/
def isControl (c : Char) : Bool :=
  (c.toNat < 0x20 ∨ c.toNat = 0x7F) ∧ c ≠ '\t'

def isSpace (c : Char) : Bool :=
  c = ' ' ∨ c = '\t'

def isSpaceOrNewline (c : Char) : Bool :=
  isSpace c ∨ c = '\n'

def skipSpace (t : Text) : Text :=
  t.dropWhile isSpace

/-- Whether a text on one line, or one on several, may hold a character. -/
def isAllowed (multiline : Bool) (c : Char) : Bool :=
  !isControl c || (multiline && c = '\n')

def literal (multiline : Bool) (mark t : Text) : Except Fault (Text × Text) :=
  match Text.cut? mark t with
  | none => .error .malformed
  | some (inner, r) =>
    if inner.all (isAllowed multiline) then .ok (inner, r) else .error .malformed

/-- The character with a code point given in so many hexadecimal digits. -/
def codePoint (width : Nat) (t : Text) : Except Fault (Char × Text) :=
  let digits := t.take width
  let n := inBase 16 digits
  if digits.length = width ∧ digits.all isHexDigit ∧ n.isValidChar then
    .ok (Char.ofNat n, t.drop width)
  else .error .malformed

/-- The character that a one-letter escape stands for. -/
def escaped? (c : Char) : Option Char :=
  if c = '"' ∨ c = '\\' then some c
  else if c = 'b' then some '\x08'
  else if c = 't' then some '\t'
  else if c = 'n' then some '\n'
  else if c = 'f' then some '\x0c'
  else if c = 'r' then some '\r'
  else none

/-- What follows an escaped line end: all white space is dropped up to the next text.  Blanks may
stand before the line end, and the document may end there. -/
def afterLineEnd (t : Text) : Except Fault Text :=
  match skipSpace t with
  | [] => .ok []
  | '\n' :: r => .ok (r.dropWhile isSpaceOrNewline)
  | _ => .error .malformed

/-- What a backslash and the text after it stand for. -/
def escape (multiline : Bool) (t : Text) : Except Fault (Text × Text) :=
  match t with
  | [] => .error .malformed
  | c :: r =>
    if multiline && isSpaceOrNewline c then (afterLineEnd t).map fun r => ([], r)
    else if c = 'u' then (codePoint 4 r).map fun (c, r) => ([c], r)
    else if c = 'U' then (codePoint 8 r).map fun (c, r) => ([c], r)
    else match escaped? c with
      | some e => .ok ([e], r)
      | none => .error .malformed

/-- A basic text up to its end mark; `inner` holds, backwards, what has been read. -/
def basic (multiline : Bool) (mark : Text) : (fuel : Nat) → (inner : Text) → Text →
    Except Fault (Text × Text)
  | 0, _, _ => .error .malformed
  | _ + 1, _, [] => .error .malformed
  | fuel + 1, inner, c :: r =>
    match Text.after? mark (c :: r) with
    | some rest => .ok (inner.reverse, rest)
    | none =>
      if c = '\\' then
        match escape multiline r with
        | .error e => .error e
        | .ok (image, rest) => basic multiline mark fuel (image.reverse ++ inner) rest
      else if isAllowed multiline c then basic multiline mark fuel (c :: inner) r
      else .error .malformed

/-- Up to two more quotes right after the end mark belong to the text. -/
def withExtraQuotes (quote : Char) (result : Text × Text) : Text × Text :=
  match result.2 with
  | a :: b :: r =>
    if a = quote then
      if b = quote then (result.1 ++ [quote, quote], r) else (result.1 ++ [quote], b :: r)
    else result
  | [a] => if a = quote then (result.1 ++ [quote], []) else result
  | [] => result

/-- A line end right after the opening mark is dropped. -/
def dropFirstNewline : Text → Text
  | '\n' :: r => r
  | t => t

def tripleQuote : Text := ['"', '"', '"']

def tripleApostrophe : Text := ['\'', '\'', '\'']

def lineText (t : Text) : Except Fault (Text × Text) :=
  match t with
  | '"' :: r => basic false ['"'] (r.length + 1) [] r
  | '\'' :: r => literal false ['\''] r
  | _ => .error .malformed

def anyText (t : Text) : Except Fault (Text × Text) :=
  match Text.after? tripleQuote t with
  | some r => do
    let r := dropFirstNewline r
    let result ← basic true tripleQuote (r.length + 1) [] r
    .ok (withExtraQuotes '"' result)
  | none => match Text.after? tripleApostrophe t with
    | some r => do
      let result ← literal true tripleApostrophe (dropFirstNewline r)
      .ok (withExtraQuotes '\'' result)
    | none => lineText t

/-- Bare keys hold ASCII letters, digits, the hyphen and the underscore. -/
def isBareKeyChar (c : Char) : Bool :=
  c.isAlphanum ∨ c = '-' ∨ c = '_'

def keyPart (t : Text) : Except Fault (Text × Text) :=
  match t.span isBareKeyChar with
  | ([], _) => lineText t
  | result => .ok result

/-- The parts that follow a first one, each after a dot; blanks around the dots are dropped. -/
def keyParts : (fuel : Nat) → Text → Except Fault (List Text × Text)
  | 0, _ => .error .malformed
  | fuel + 1, t =>
    match skipSpace t with
    | '.' :: r => do
      let (part, r) ← keyPart (skipSpace r)
      let (parts, r) ← keyParts fuel r
      .ok (part :: parts, r)
    | rest => .ok ([], rest)

def key (t : Text) : Except Fault (List Text × Text) := do
  let (part, r) ← keyPart t
  let (parts, r) ← keyParts (r.length + 1) r
  .ok (part :: parts, r)

end FilterWire.Toml
