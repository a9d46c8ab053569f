import FilterWire.Comparator.Registry

/-!
# The standard comparators

The comparators of the remote interface, and the rule that finds the one behind a call by the
shared name.
-/

namespace FilterWire

namespace Comparator

def contains : Comparator :=
  ⟨"STRING_CONTAINS".toList, "Text contains".toList,
    .bracketed ['[', '.', '*'] ['.', '*', ']'], some sharedName⟩

def startsWith : Comparator :=
  ⟨"STRING_STARTSWITH".toList, "Text starts with".toList,
    .bracketed ['[', '^'] ['.', '*', ']'], some sharedName⟩

def endsWith : Comparator :=
  ⟨"STRING_ENDSWITH".toList, "Text ends with".toList,
    .bracketed ['[', '.', '*'] ['$', ']'], some sharedName⟩

/-- A comparator whose values are sent as they are, by its own token. -/
def plain (token label : String) : Comparator :=
  ⟨token.toList, label.toList, .plain, none⟩

/-- The plain match, behind a call by the shared name whose value has no brackets. -/
def matching : Comparator :=
  plain "MATCH" "Matches"

/-- The comparators in the order in which they are declared. -/
def all : List Comparator :=
  [plain "LTE" "Less than or equal to",
   plain "LT" "Less than",
   plain "GT" "Greater than",
   plain "GTE" "Greater than or equal to",
   plain "EQ" "Is equal to",
   plain "NE" "Is not equal to",
   matching,
   Comparator.contains,
   plain "STRING_NOTCONTAINS" "Text does not contain",
   startsWith,
   endsWith,
   plain "STRING_EQUALS" "Text is exactly",
   plain "STRING_LENGTH_LT" "Text length is less than",
   plain "STRING_LENGTH_GT" "Text length is greater than"]

end Comparator

namespace Registry

/-- The indexes of the standard comparators, as they are filled one after the other. -/
def standard : Registry where
  byToken := Comparator.all.map fun c => (c.token, c)
  byLabel := Comparator.all.map fun c => (c.label, c)
  consistent :=
    ⟨Comparator.all, by rintro (_ | _) <;> rfl, by rintro (_ | _) <;> decide⟩

end Registry

namespace Comparator

/-- Whether some line of a text has an opening with a closing somewhere after it. -/
def hasBrackets (opening closing t : Text) : Bool :=
  t.lines.any fun line =>
    match Text.cut? opening line with
    | some (_, r) => closing.occursIn r
    | none => false

/-- The comparator behind a call by the shared name: contains, starts with and ends with are tried
in this order, by the brackets anywhere in the value. -/
def ofSharedName (value : Text) : Comparator :=
  if hasBrackets ['[', '.', '*'] ['.', '*', ']'] value then Comparator.contains
  else if hasBrackets ['[', '^'] ['.', '*', ']'] value then startsWith
  else if hasBrackets ['['] ['$', ']'] value then endsWith
  else matching

end Comparator

end FilterWire
