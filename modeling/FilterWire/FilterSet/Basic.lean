import FilterWire.Text.Basic

/-!
# Filter sets

A filter set is a list of conditions, how they combine, and whether records without the fields
pass.  A place whose condition could not be read stays in the list as a hole.
-/

namespace FilterWire

/-- One field, one comparator by label, one value. -/
structure Condition where
  field : Text
  option : Text
  query : Text
  deriving DecidableEq

inductive Mode
  | and
  | or
  deriving DecidableEq

namespace Mode

def word : Mode → Text
  | and => ['A', 'N', 'D']
  | or => ['O', 'R']

end Mode

/-- Conditions that combine by a mode; without one they combine by `and`. -/
structure FilterSet where
  mode : Option Mode
  includesAbsent : Bool
  filters : List (Option Condition)
  deriving DecidableEq

namespace FilterSet

/-- The set that lets everything through. -/
def empty : FilterSet := ⟨some .and, false, []⟩

def isEmpty (s : FilterSet) : Bool :=
  s.filters.isEmpty

def malformedCount (s : FilterSet) : Nat :=
  s.filters.countP (·.isNone)

end FilterSet

end FilterWire
