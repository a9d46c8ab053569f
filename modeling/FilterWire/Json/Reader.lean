import FilterWire.Decimal.Nearest
import FilterWire.Value.Basic

/-!
# Reading JSON

A reader for one JSON document.  It also takes the numbers that JSON has no notation for (`NaN`,
`Infinity`, `-Infinity`), lets the last of several equal keys win, and names the place of the first
fault by line, column and position.
-/

namespace FilterWire.Json

inductive Problem
  | value
  | propertyName
  | colon
  | comma
  | unterminatedText
  | controlCharacter
  | escapeSequence
  | codePoint
  | extraData
  | byteOrderMark
  | integerTooLong

/-- A fault stands where `rest` begins. -/
structure Fault where
  problem : Problem
  rest : Text

def Problem.message : Problem → Text
  | value => "Expecting value".toList
  | propertyName => "Expecting property name enclosed in double quotes".toList
  | colon => "Expecting ':' delimiter".toList
  | comma => "Expecting ',' delimiter".toList
  | unterminatedText => "Unterminated string starting at".toList
  | controlCharacter => "Invalid control character at".toList
  | escapeSequence => "Invalid \\escape".toList
  | codePoint => "Invalid \\uXXXX escape".toList
  | extraData => "Extra data".toList
  | byteOrderMark => "Unexpected UTF-8 BOM (decode using utf-8-sig)".toList
  | integerTooLong => "Integer too long".toList

/-- The message of a fault in a document; lines and columns count from one. -/
def Fault.message (whole : Text) (f : Fault) : Text :=
  let position := whole.length - f.rest.length
  let passed := whole.take position
  let line := passed.count '\n' + 1
  let column := (passed.reverse.takeWhile (· ≠ '\n')).length + 1
  f.problem.message ++ ": line ".toList ++ Text.ofNat line ++ " column ".toList ++
    Text.ofNat column ++ " (char ".toList ++ Text.ofNat position ++ [')']

def isSpace (c : Char) : Bool :=
  c = ' ' ∨ c = '\t' ∨ c = '\n' ∨ c = '\r'

def skipSpace (t : Text) : Text :=
  t.dropWhile isSpace

/-- The character that a one-letter escape stands for. -/
def escaped? (c : Char) : Option Char :=
  if c = '"' ∨ c = '\\' ∨ c = '/' then some c
  else if c = 'n' then some '\n'
  else if c = 'r' then some '\r'
  else if c = 't' then some '\t'
  else if c = 'b' then some '\x08'
  else if c = 'f' then some '\x0c'
  else none

def hexCode? (a b c d : Char) : Option Nat := do
  let a ← Text.hexDigit? a
  let b ← Text.hexDigit? b
  let c ← Text.hexDigit? c
  let d ← Text.hexDigit? d
  some (((a * 16 + b) * 16 + c) * 16 + d)

/-- Joins each high surrogate with a low one right after it. -/
def joinSurrogates : List Nat → List Nat
  | [] => []
  | [n] => [n]
  | high :: low :: r =>
    if 0xD800 ≤ high ∧ high < 0xDC00 ∧ 0xDC00 ≤ low ∧ low < 0xE000 then
      (0x10000 + (high - 0xD800) * 0x400 + (low - 0xDC00)) :: joinSurrogates r
    else high :: joinSurrogates (low :: r)

/-- The code points up to the closing quote.  `opening` begins at the opening quote, and `codes`
holds, backwards, what has been read. -/
def readCodes (opening : Text) (codes : List Nat) : Text → Except Fault (List Nat × Text)
  | [] => .error ⟨.unterminatedText, opening⟩
  | '"' :: r => .ok (joinSurrogates codes.reverse, r)
  | '\\' :: [] => .error ⟨.unterminatedText, opening⟩
  | '\\' :: 'u' :: a :: b :: c :: d :: e :: r =>
    match hexCode? a b c d with
    | some n => readCodes opening (n :: codes) (e :: r)
    | none => .error ⟨.codePoint, 'u' :: a :: b :: c :: d :: e :: r⟩
  | '\\' :: 'u' :: r => .error ⟨.codePoint, 'u' :: r⟩
  | '\\' :: c :: r =>
    match escaped? c with
    | some e => readCodes opening (e.toNat :: codes) r
    | none => .error ⟨.escapeSequence, '\\' :: c :: r⟩
  | c :: r =>
    if c.toNat < 0x20 then .error ⟨.controlCharacter, c :: r⟩
    else readCodes opening (c.toNat :: codes) r

def readText (t : Text) : Except Fault (List Nat × Text) :=
  readCodes t [] (t.drop 1)

/-- A whole part: a single zero, or digits that do not start with one. -/
def wholePart? (t : Text) : Option (Text × Text) :=
  match t with
  | [] => none
  | c :: r =>
    if c = '0' then some (['0'], r)
    else if Text.isDigit c then some (t.span Text.isDigit)
    else none

/-- A point and digits; a point without digits is left alone. -/
def fraction? (t : Text) : Option (Text × Text) :=
  match t with
  | '.' :: c :: r => if Text.isDigit c then some ((c :: r).span Text.isDigit) else none
  | _ => none

/-- A marked exponent; a mark without digits is left alone. -/
def exponent? (t : Text) : Option (Int × Text) :=
  match t with
  | c :: r =>
    if c = 'e' ∨ c = 'E' then
      let (negative, r) := match r with
        | '-' :: r => (true, r)
        | '+' :: r => (false, r)
        | _ => (false, r)
      match r.span Text.isDigit with
      | ([], _) => none
      | (digits, r) =>
        let n : Int := Text.toNat digits
        some (if negative then -n else n, r)
    else none
  | [] => none

/-- A number, or nothing if none starts here. -/
def readNumber? (t : Text) : Option (Except Fault (Value × Text)) := do
  let (negative, unsigned) := match t with
    | '-' :: r => (true, r)
    | _ => (false, t)
  let (whole, r) ← wholePart? unsigned
  let fraction := fraction? r
  let r := (fraction.map (·.2)).getD r
  let places := (fraction.map (·.1)).getD []
  let exponent := exponent? r
  let r := (exponent.map (·.2)).getD r
  if fraction.isSome || exponent.isSome then
    let power := (exponent.map (·.1)).getD 0 - places.length
    some (.ok (.float (nearestFloat negative (whole ++ places) power), r))
  else if maxIntegerDigits < whole.length then
    some (.error ⟨.integerTooLong, t⟩)
  else
    let n : Int := Text.toNat whole
    some (.ok (.int (if negative then -n else n), r))

def words : List (Text × Value) :=
  [("null".toList, .null), ("true".toList, .bool true), ("false".toList, .bool false),
   ("NaN".toList, .float (0.0 / 0.0)), ("Infinity".toList, .float (1.0 / 0.0)),
   ("-Infinity".toList, .float (-1.0 / 0.0))]

def readWord? : List (Text × Value) → Text → Option (Value × Text)
  | [], _ => none
  | (word, v) :: ws, t => match Text.after? word t with
    | some r => some (v, r)
    | none => readWord? ws t

def readScalar (t : Text) : Except Fault (Value × Text) :=
  match readWord? words t with
  | some result => .ok result
  | none => match readNumber? t with
    | some result => result
    | none => .error ⟨.value, t⟩

/-- The entries of an object, given backwards; of equal keys the last value wins. -/
def ofEntries (entries : Entries) : Value :=
  .dict (entries.foldr (fun e done => Value.setKey e.1 e.2 done) [])

mutual

/-- Any value; `fuel` bounds the nesting and the number of elements. -/
def readValue : Nat → Text → Except Fault (Value × Text)
  | 0, t => .error ⟨.value, t⟩
  | _, [] => .error ⟨.value, []⟩
  | fuel + 1, c :: r =>
    if c = '"' then
      (readText (c :: r)).map fun (codes, rest) => (Value.ofCodes codes, rest)
    else if c = '[' then
      match skipSpace r with
      | ']' :: rest => .ok (.list [], rest)
      | rest => readItems fuel [] rest
    else if c = '{' then
      match skipSpace r with
      | '}' :: rest => .ok (.dict [], rest)
      | rest => readEntries fuel [] rest
    else readScalar (c :: r)

/-- The items up to the closing bracket; `items` holds, backwards, those already read. -/
def readItems : Nat → List Value → Text → Except Fault (Value × Text)
  | 0, _, t => .error ⟨.value, t⟩
  | fuel + 1, items, t =>
    match readValue fuel t with
    | .error fault => .error fault
    | .ok (v, rest) =>
      match skipSpace rest with
      | ']' :: rest => .ok (.list (v :: items).reverse, rest)
      | ',' :: rest => readItems fuel (v :: items) (skipSpace rest)
      | rest => .error ⟨.comma, rest⟩

/-- The entries up to the closing brace; `entries` holds, backwards, those already read. -/
def readEntries : Nat → Entries → Text → Except Fault (Value × Text)
  | 0, _, t => .error ⟨.value, t⟩
  | fuel + 1, entries, t =>
    match t with
    | '"' :: _ =>
      match readText t with
      | .error fault => .error fault
      | .ok (codes, rest) =>
        match skipSpace rest with
        | ':' :: rest =>
          match readValue fuel (skipSpace rest) with
          | .error fault => .error fault
          | .ok (v, rest) =>
            let entries := (EntryKey.ofCodes codes, v) :: entries
            match skipSpace rest with
            | '}' :: rest => .ok (ofEntries entries, rest)
            | ',' :: rest => readEntries fuel entries (skipSpace rest)
            | rest => .error ⟨.comma, rest⟩
        | rest => .error ⟨.colon, rest⟩
    | _ => .error ⟨.propertyName, t⟩

end

/-- Reads a document, however deep it is nested.  An interpreter's limit on recursion (of about a
thousand levels), at which reading breaks off with a failure of its own, is not modelled. -/
def read (t : Text) : Except Fault Value :=
  match t with
  | '\uFEFF' :: _ => .error ⟨.byteOrderMark, t⟩
  | _ =>
    match readValue (2 * t.length + 2) (skipSpace t) with
    | .error fault => .error fault
    | .ok (v, rest) =>
      match skipSpace rest with
      | [] => .ok v
      | rest => .error ⟨.extraData, rest⟩

end FilterWire.Json
