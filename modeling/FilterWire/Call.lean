import FilterWire.Text.Blank

/-!
# Calls

A condition travels as a call: a name, a field in square brackets, and a value that reaches to the
last closing parenthesis of its line.
-/

namespace FilterWire

/-- A call as it stands in an expression; the field keeps its brackets. -/
structure Call where
  name : Text
  field : Text
  value : Text
  deriving DecidableEq

/-- ASCII letters, digits and the underscore. -/
def isWordChar (c : Char) : Bool :=
  ('a' ≤ c ∧ c ≤ 'z') ∨ ('A' ≤ c ∧ c ≤ 'Z') ∨ ('0' ≤ c ∧ c ≤ '9') ∨ c = '_'

namespace Call

def text (c : Call) : Text :=
  c.name ++ '(' :: c.field ++ ',' :: ' ' :: c.value ++ [')']

/-- The longest word at the head of a text, and the rest. -/
def word? (t : Text) : Option (Text × Text) :=
  match t.span isWordChar with
  | ([], _) => none
  | result => some result

def afterBlank? : Text → Option Text
  | [] => none
  | c :: r => if isBlank c then some r else none

/-- What stands before the last closing parenthesis of the first line, if that is something. -/
def value? (t : Text) : Option Text :=
  match (t.takeWhile (· ≠ '\n')).reverse.dropWhile (· ≠ ')') with
  | _ :: c :: r => some (c :: r).reverse
  | _ => none

/-- The call that starts at the head of a text. -/
def atHead? (t : Text) : Option Call := do
  let (name, t) ← word? t
  let t ← Text.after? ['(', '['] t
  let (field, t) ← word? t
  let t ← Text.after? [']', ','] t
  let t ← afterBlank? t
  let value ← value? t
  some ⟨name, '[' :: field ++ [']'], value⟩

/-- The first call of a text; `inWord` tells whether a word stands right before it.  A call starts
where a word starts: inside a word the same text follows the word. -/
def findFrom (inWord : Bool) : Text → Option Call
  | [] => none
  | c :: r =>
    if isWordChar c then
      if inWord then findFrom true r
      else match atHead? (c :: r) with
        | some call => some call
        | none => findFrom true r
    else findFrom false r

def find? (t : Text) : Option Call :=
  findFrom false t

end Call

end FilterWire
