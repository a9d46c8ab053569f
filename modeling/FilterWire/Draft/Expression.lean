import FilterWire.Draft.FilterSet
import FilterWire.FilterSet.Validation

/-!
# Loosely typed expressions

The operations on texts, for arguments of any type: what counts as a text where, and what happens
to everything else.  A text with unpaired surrogates is taken by its reading, so in what comes of it
the replacement character stands for them; only reading a filter set keeps them.
-/

namespace FilterWire

namespace Value

/-- A text, or the failure that stands for a value of another type.  Unpaired surrogates are
lost. -/
def textOr (failure : Failure) : Value → Except Failure Text
  | str t => .ok t
  | unpaired codes => .ok (unpaired codes).display
  | _ => .error failure

/-- The text of an expression; a value that counts as false is a blank one.  Unpaired surrogates are
lost. -/
def expression (v : Value) : Except Failure Text :=
  if v.truth then v.textOr .unsupported else .ok []

/-- A position in a text: null is the beginning, and truth values count as numbers. -/
def position : Value → Except Failure Int
  | null => .ok 0
  | bool b => .ok (if b then 1 else 0)
  | int n => .ok n
  | _ => .error .unfit

/-- Whether a text without surrogates occurs in a text, among items or among keys. -/
def mentions (part : Text) : Value → Except Failure Bool
  | str t => .ok (part.occursIn t)
  | unpaired codes => .ok (part.occursIn (unpaired codes).display)
  | list items => .ok <| items.any fun v => match v with
    | str t => t = part
    | _ => false
  | dict entries => .ok (valueAt? part entries).isSome
  | _ => .error .unfit

end Value

namespace Verdict

def toValue : Verdict → Value
  | valid s =>
    .dict [("valid".toList, .bool true), ("error".toList, .null),
      ("normalized".toList, (FilterDraft.ofFilterSet s).toValue)]
  | invalid e =>
    .dict [("valid".toList, .bool false), ("error".toList, .str e.message),
      ("normalized".toList, .null)]

end Verdict

namespace Expression

/-- Reads an expression.  Unpaired surrogates are lost in the filter set. -/
def decode (strict : Bool) (v : Value) : Logged Failure FilterSet := do
  let t ← Logged.ofExcept v.expression
  (FilterSet.decode strict t).mapError .codec

/-- Reads an expression and keeps unpaired surrogates in the filter set; events and errors show the
replacement character. -/
def decodeDraft (strict : Bool) : Value → Logged Failure FilterDraft
  | .unpaired codes => do
    let lossy ← decode strict (.str (Text.ofCodesLossy codes))
    let marked ← Logged.ofExcept (decode strict (.str (Text.ofCodesMarked codes))).outcome
    pure (.ofReadings lossy marked)
  | v => do pure (.ofFilterSet (← decode strict v))

/-- Judges an expression.  Unpaired surrogates are lost in the document. -/
def validate (v : Value) : Logged Failure Verdict := do
  let t ← Logged.ofExcept v.expression
  FilterSet.validate t

/-- The first call.  Unpaired surrogates are lost in its value. -/
def findCall (v : Value) : Except Failure (Option Call) :=
  (v.textOr .unfit).map Call.find?

/-- Reads a condition.  Unpaired surrogates are lost in its query. -/
def decodeCondition (v : Value) : Logged Failure (Option Condition) := do
  let t ← Logged.ofExcept (v.textOr .unfit)
  (Condition.decode t).mapError .codec

/-- Reads what has to be a condition.  Unpaired surrogates are lost in its query. -/
def parseCondition (v : Value) : Logged Failure Condition := do
  let t ← Logged.ofExcept (v.textOr .unfit)
  (Condition.parse t).mapError .codec

/-- The mode of an expression, on which unpaired surrogates have no bearing. -/
def findMode (v : Value) : Except Failure (Option Mode) :=
  (v.textOr .unfit).map Mode.find?

/-- The comparator of a value, on which unpaired surrogates have no bearing. -/
def sharedComparator (v : Value) : Except Failure Comparator :=
  (v.textOr .unfit).map Comparator.ofSharedName

/-- The text in a group.  Unpaired surrogates are lost in it. -/
def inside (v start : Value) : Except Failure Text := do
  let t ← v.textOr .unsupported
  let n ← start.position
  (Group.insideFrom start n t).mapError .codec

/-- Puts the sentinel around a value.  Unpaired surrogates in it are lost. -/
def wrapSentinel (v : Value) : Text :=
  Guard.wrapSentinel v.display

/-- Takes the sentinel off.  Unpaired surrogates are lost in what is left. -/
def stripSentinel (v : Value) : Except Failure Text :=
  (v.textOr .unsupported).map Guard.stripSentinel

/-- Takes null checks off.  Unpaired surrogates are lost in what is left. -/
def stripNullChecks (v : Value) : Except Failure Text := do
  let t ← v.textOr .unsupported
  (Guard.stripNullChecks t).mapError .codec

def includesAbsent (v : Value) : Except Failure Bool :=
  v.mentions Guard.nullCheckName

/-- Null checks for the fields of some filters, with each filter read by a given rule.  Unpaired
surrogates in the fields and the value are lost. -/
def wrapNullChecks (entry : Value → Except Failure Entry) (v filters : Value) :
    Except Failure Text := do
  let elements ← FilterDraft.elements filters
  let entries ← elements.mapM entry
  let fields ← entries.mapM fun e => e.field.map (·.display)
  .ok (Guard.wrapNullChecks v.display fields)

/-- Writes a condition; only dictionaries are conditions. -/
def encodeCondition (legacy : Bool) (v : Value) : Logged Failure Text :=
  (Entry.asGiven v).encode legacy

/-- Writes a filter set; only dictionaries are filter sets. -/
def encode (legacy : Bool) : Value → Logged Failure (Option Text)
  | .dict entries => do
    let d ← Logged.ofExcept (FilterDraft.ofEntries entries)
    d.encode legacy
  | _ => Logged.fail .unsupported

/-- A value written by a codec: without brackets it stays a value of its type, and within brackets
unpaired surrogates are lost. -/
def encodeValue (codec : Codec) (v : Value) : Value :=
  match codec with
  | .plain => v
  | .bracketed .. => .str (codec.encode v.display)

/-- A value read by a codec: brackets can only be taken off a text, and unpaired surrogates are lost
with them. -/
def decodeValue (codec : Codec) (v : Value) : Except Failure Value :=
  match codec with
  | .plain => .ok v
  | .bracketed .. => (v.textOr .unsupported).map fun t => .str (codec.decode t)

end Expression

end FilterWire
