import FilterWire.Value.Basic

/-!
# Printing JSON

A document on one line, or with one item a line and an indentation for each level.
-/

namespace FilterWire.Json

/-- `indent` is the width of a level; without it everything stands on one line. -/
structure Style where
  indent : Option Nat
  asciiOnly : Bool

def unitEscape (n : Nat) : Text :=
  '\\' :: 'u' :: Text.ofHex 4 n

def escapeNonAscii (n : Nat) : Text :=
  if n < 0x10000 then unitEscape n
  else unitEscape (0xD800 + (n - 0x10000) / 0x400) ++ unitEscape (0xDC00 + (n - 0x10000) % 0x400)

def escapeChar (asciiOnly : Bool) (c : Char) : Text :=
  if c = '"' then ['\\', '"']
  else if c = '\\' then ['\\', '\\']
  else if c = '\n' then ['\\', 'n']
  else if c = '\r' then ['\\', 'r']
  else if c = '\t' then ['\\', 't']
  else if c = '\x0c' then ['\\', 'f']
  else if c = '\x08' then ['\\', 'b']
  else if c.toNat < 0x20 then unitEscape c.toNat
  else if asciiOnly && 0x7F ≤ c.toNat then escapeNonAscii c.toNat
  else [c]

namespace Style

def text (s : Style) (t : Text) : Text :=
  '"' :: t.flatMap (escapeChar s.asciiOnly) ++ ['"']

/-- Code points with a surrogate among them are written by number. -/
def codes (codes : List Nat) : Text :=
  '"' :: codes.flatMap escapeNonAscii ++ ['"']

def key (s : Style) : EntryKey → Text
  | .text t => s.text t
  | .unpaired codes => Style.codes codes

/-- Numbers outside the reals are spelt out. -/
def numberFormat : NumberFormat :=
  { Value.floatFormat with
    infinity := "Infinity".toList
    notANumber := "NaN".toList }

def newline (s : Style) (level : Nat) : Text :=
  match s.indent with
  | none => []
  | some width => '\n' :: List.replicate (width * level) ' '

/-- Items between brackets, one a line; `level` is the level of the brackets. -/
def block (s : Style) (level : Nat) (opening closing : Char) (items : List Text) : Text :=
  if items.isEmpty then [opening, closing]
  else
    let separator := ',' :: (if s.indent.isSome then s.newline (level + 1) else [' '])
    opening :: s.newline (level + 1) ++ separator.intercalate items ++ s.newline level ++ [closing]

mutual

/-- A value whose brackets stand on the given level. -/
def value (s : Style) (level : Nat) : Value → Text
  | .null => "null".toList
  | .bool true => "true".toList
  | .bool false => "false".toList
  | .int n => Text.ofInt n
  | .float x => numberFormat.float x
  | .str t => s.text t
  | .unpaired codes => Style.codes codes
  | .list items => s.block level '[' ']' (valueItems s (level + 1) items)
  | .dict entries => s.block level '{' '}' (valueEntries s (level + 1) entries)
  | .stamp stamp => s.text stamp.text

def valueItems (s : Style) (level : Nat) : List Value → List Text
  | [] => []
  | v :: r => value s level v :: valueItems s level r

def valueEntries (s : Style) (level : Nat) : List (EntryKey × Value) → List Text
  | [] => []
  | (k, v) :: r => (s.key k ++ ':' :: ' ' :: value s level v) :: valueEntries s level r

end

end Style

def render (s : Style) (v : Value) : Text :=
  s.value 0 v

/-- One item a line, two spaces a level, all characters as they are. -/
def pretty : Style := ⟨some 2, false⟩

/-- One line of ASCII. -/
def compact : Style := ⟨none, true⟩

end FilterWire.Json
