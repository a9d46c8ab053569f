import FilterWire.FilterSet.Condition
import FilterWire.Guard

/-!
# Filter sets on the wire

An expression is the joined calls inside the sentinel, behind null checks if records without the
fields are to pass.
-/

namespace FilterWire

namespace Mode

/-- The mode whose word, with a blank after it, stands at the head of a text. -/
def atHead? (t : Text) : Option Mode :=
  match (Text.after? and.word t).bind Call.afterBlank?,
    (Text.after? or.word t).bind Call.afterBlank? with
  | some _, _ => some and
  | none, some _ => some or
  | none, none => none

/-- The mode of the first word `AND` or `OR` between two blanks. -/
def find? : Text → Option Mode
  | [] => none
  | c :: r =>
    if isBlank c then
      match atHead? r with
      | some mode => some mode
      | none => find? r
    else find? r

def joiner (m : Mode) : Text :=
  ' ' :: m.word ++ [' ']

end Mode

namespace FilterSet

/-- Reads one segment.  One that holds no call is refused if `strict`, and otherwise left as a
hole. -/
def decodeSegment (strict : Bool) (segment : Text) : Logged CodecError (Option Condition) := do
  match ← Condition.decode segment with
  | some c => pure (some c)
  | none =>
    if strict then Logged.fail (.malformed segment)
    else do
      Logged.note (.keptMalformed segment)
      pure none

/-- The non-empty segments between the joiners of a mode. -/
def segments (mode : Mode) (body : Text) : List Text :=
  (Text.split mode.joiner body).filter fun s => !s.isEmpty

/-- The joined conditions of an expression, and whether null checks stood around them. -/
def unwrap (t : Text) : Except CodecError (Bool × Text) := do
  let absent := Guard.includesAbsent t
  let body ← if absent then Guard.stripNullChecks t else .ok t
  .ok (absent, Guard.stripSentinel body)

/-- Reads joined conditions, once it is known whether null checks stood around them. -/
def decodeBody (strict absent : Bool) (body : Text) : Logged CodecError FilterSet := do
  let mode := (Mode.find? body).getD .and
  let filters ← Logged.each (decodeSegment strict) (segments mode body)
  Logged.note (.decoded filters.length mode absent)
  pure ⟨some mode, absent, filters⟩

/-- Reads an expression.  A blank one is the empty set. -/
def decode (strict : Bool) (t : Text) : Logged CodecError FilterSet :=
  let t := t.trim
  if t.isEmpty then pure empty
  else do
    let (absent, body) ← Logged.ofExcept (unwrap t)
    decodeBody strict absent body

/-- The expression of some calls; if nothing is written there is none. -/
def assemble (joiner : Text) (absent : Bool) (fields calls : List Text) : Option Text :=
  let joined := joiner.intercalate calls
  if joined.isEmpty then none
  else
    let body := Guard.wrapSentinel joined
    some (if absent then Guard.wrapNullChecks body fields else body)

/-- A hole cannot be written. -/
def encodeEntry (legacy : Bool) : Option Condition → Logged CodecError Text
  | none => Logged.fail (.malformed "None".toList)
  | some c => Condition.encode legacy c

def fields (s : FilterSet) : List Text :=
  s.filters.filterMap fun f => f.map (·.field)

/-- Writes a filter set; the empty one has no expression. -/
def encode (legacy : Bool) (s : FilterSet) : Logged CodecError (Option Text) := do
  let calls ← Logged.each (encodeEntry legacy) s.filters
  pure (assemble (s.mode.getD .and).joiner s.includesAbsent s.fields calls)

end FilterSet

end FilterWire
