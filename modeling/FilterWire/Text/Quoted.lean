import FilterWire.Text.Printable

/-!
# Quoted texts

How a text is shown in messages: between single quotes, or between double quotes if it holds a
single quote and no double one.  The quote in use and the backslash are escaped, and so is every
character that is not printable.
-/

namespace FilterWire.Text

/-- The quote that needs the fewer escapes; single quotes unless only they occur. -/
def quoteFor (t : Text) : Char :=
  if t.contains '\'' && !t.contains '"' then '"' else '\''

/-- An unprintable code point by number, in the shortest of the three widths. -/
def escapeCode (n : Nat) : Text :=
  if n < 0x100 then '\\' :: 'x' :: ofHex 2 n
  else if n < 0x10000 then '\\' :: 'u' :: ofHex 4 n
  else '\\' :: 'U' :: ofHex 8 n

def quoteChar (quote c : Char) : Text :=
  if c = quote ∨ c = '\\' then ['\\', c]
  else if c = '\n' then ['\\', 'n']
  else if c = '\r' then ['\\', 'r']
  else if c = '\t' then ['\\', 't']
  else if isPrintable c then [c]
  else escapeCode c.toNat

def quoted (t : Text) : Text :=
  let quote := quoteFor t
  quote :: t.flatMap (quoteChar quote) ++ [quote]

end FilterWire.Text
