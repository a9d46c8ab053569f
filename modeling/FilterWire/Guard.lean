import FilterWire.Group
import FilterWire.Text.Blank

/-!
# Guards

Two wrappers stand around the joined conditions.  The sentinel makes an undefined expression false;
the null checks let records pass that lack the filtered fields.
-/

namespace FilterWire.Guard

def sentinelEnd : Text := [')', ' ', '?', ':', ' ', 'f', 'a', 'l', 's', 'e']

def wrapSentinel (t : Text) : Text :=
  '(' :: t ++ sentinelEnd

/-- The text inside the sentinel; a text without one is only trimmed. -/
def stripSentinel (t : Text) : Text :=
  let t := t.trim
  ((Text.after? ['('] t).bind (Text.before? sentinelEnd)).getD t

def nullCheckName : Text := ['I', 'S', '_', 'N', 'U', 'L', 'L']

def nullCheck (field : Text) : Text :=
  nullCheckName ++ '(' :: field ++ [')']

/-- Whether an expression speaks of null checks at all. -/
def includesAbsent (t : Text) : Bool :=
  nullCheckName.occursIn t

def checkJoiner : Text := [' ', 'A', 'N', 'D', ' ']

def separator : Text := [' ', 'O', 'R', ' ']

/-- Null checks for all fields, as an alternative to a text. -/
def wrapNullChecks (t : Text) (fields : List Text) : Text :=
  '(' :: checkJoiner.intercalate (fields.map nullCheck) ++ ')' :: separator ++ '(' :: t ++ [')']

/-- The group after the first separator. -/
def stripNullChecks (t : Text) : Except CodecError Text :=
  let rest := match Text.cut? separator t.trim with
    | some (_, r) => r
    | none => []
  Group.inside 0 rest

end FilterWire.Guard
