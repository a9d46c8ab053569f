import FilterWire.FilterSet.Codec

/-!
# Validation

Whether every segment of an expression is a condition, and what the expression means if so.
-/

namespace FilterWire

/-- The meaning of a valid expression, or the first error of an invalid one. -/
inductive Verdict
  | valid (s : FilterSet)
  | invalid (error : CodecError)

namespace FilterSet

/-- Judges an expression; this never fails. -/
def validate (t : Text) : Logged ε Verdict :=
  let decoded := decode true t
  ⟨decoded.events, .ok <| match decoded.outcome with
    | .ok s => .valid s
    | .error e => .invalid e⟩

end FilterSet

end FilterWire
