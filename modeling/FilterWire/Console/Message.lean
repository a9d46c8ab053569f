import FilterWire.Console.Line

/-!
# Messages

A message is printed as it is, but for what the console reads as markup: brackets that cannot open
a tag lose a backslash in front of them.
-/

namespace FilterWire.Console

def width : Nat := 500

/-- Controls that are never printed: bell, backspace, vertical tab, form feed, carriage return. -/
def isDropped (c : Char) : Bool :=
  c = '\x07' ∨ c = '\x08' ∨ c = '\x0b' ∨ c = '\x0c' ∨ c = '\x0d'

def sanitize (t : Text) : Text :=
  t.filter fun c => !isDropped c

/-- Whether an opening bracket, followed by a text, opens a tag. -/
def opensTag : Text → Bool
  | [] => false
  | c :: r =>
    (('a' ≤ c ∧ c ≤ 'z') ∨ c = '#' ∨ c = '/' ∨ c = '@') &&
      (r.dropWhile fun c => c ≠ '[' ∧ c ≠ ']').head? = some ']'

/-- `backslashes` counts those right before the text. -/
def literalFrom (backslashes : Nat) : Text → Text
  | [] => List.replicate backslashes '\\'
  | c :: r =>
    if c = '\\' then literalFrom (backslashes + 1) r
    else if c = '[' ∧ !opensTag r then
      List.replicate (backslashes - 1) '\\' ++ '[' :: literalFrom 0 r
    else List.replicate backslashes '\\' ++ c :: literalFrom 0 r

/-- A single backslash at the end is doubled. -/
def closeEnd (t : Text) : Text :=
  match t.reverse with
  | '\\' :: '\\' :: _ => t
  | '\\' :: _ => t ++ ['\\']
  | _ => t

def literal (t : Text) : Text :=
  sanitize (closeEnd (literalFrom 0 t))

def print (t : Text) : Text :=
  ['\n'].intercalate (wrap width .fold id t) ++ ['\n']

def message (label : String) (t : Text) : Text :=
  print (label.toList ++ ' ' :: literal t)

end FilterWire.Console
