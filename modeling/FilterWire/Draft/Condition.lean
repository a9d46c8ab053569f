import FilterWire.Failure
import FilterWire.FilterSet.Condition

/-!
# Drafts of conditions

A draft has the parts of a condition as loosely typed values.  It is resolved to a condition when
it is written to the wire.
-/

namespace FilterWire

namespace Value

/-- The value under a required key; only a dictionary has keys. -/
def field (key : Text) : Value → Except Failure Value
  | dict entries => match valueAt? key entries with
    | some v => .ok v
    | none => .error (.missingKey key)
  | _ => .error .unfit

def toText : Value → Value
  | unpaired codes => unpaired codes
  | v => str v.display

end Value

namespace Registry

/-- Looks a comparator up by a loosely typed key.  Collections cannot be keys. -/
def lookup (r : Registry) (k : Key) (name : Value) : Except Failure Comparator :=
  match name with
  | .list _ | .dict _ => .error .unfit
  | .str t => match r.find? k t with
    | some c => .ok c
    | none => .error (.codec (.unknown k name))
  | _ => .error (.codec (.unknown k name))

end Registry

structure ConditionDraft where
  field : Value
  option : Value
  query : Value

namespace ConditionDraft

def fieldKey : Text := "field".toList

def optionKey : Text := "option".toList

def queryKey : Text := "query".toList

/-- The three parts as they stand in a dictionary. -/
def ofParts (v : Value) : Except Failure ConditionDraft := do
  let field ← v.field fieldKey
  let option ← v.field optionKey
  let query ← v.field queryKey
  .ok ⟨field, option, query⟩

/-- The draft in a document: the query becomes a text. -/
def ofValue (v : Value) : Except Failure ConditionDraft := do
  let draft ← ofParts v
  .ok { draft with query := draft.query.toText }

def toValue (d : ConditionDraft) : Value :=
  .dict [(fieldKey, d.field), (optionKey, d.option), (queryKey, d.query)]

def ofCondition (c : Condition) : ConditionDraft :=
  ⟨.str c.field, .str c.option, .str c.query⟩

/-- The condition that is read in these two ways, of which the option is the same. -/
def ofReadings (c c' : Condition) : ConditionDraft :=
  ⟨.ofReadings (.str c.field) (.str c'.field), .str c.option,
    .ofReadings (.str c.query) (.str c'.query)⟩

/-- The condition of a draft.  Unpaired surrogates in it are lost. -/
def resolve (d : ConditionDraft) : Except Failure Condition := do
  let comparator ← Registry.standard.lookup .label d.option
  .ok ⟨d.field.display, comparator.label, d.query.display⟩

def encode (legacy : Bool) (d : ConditionDraft) : Logged Failure Text := do
  let c ← Logged.ofExcept d.resolve
  (Condition.encode legacy c).mapError .codec

def quoted (d : ConditionDraft) : Text :=
  "Condition(field=".toList ++ d.field.quoted ++ ", option=".toList ++ d.option.quoted ++
    ", query=".toList ++ d.query.quoted ++ ")".toList

end ConditionDraft

end FilterWire
