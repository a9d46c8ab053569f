import FilterWire.Draft.Condition
import FilterWire.FilterSet.Codec
import FilterWire.Text.Case

/-!
# Drafts of filter sets

A draft has a loosely typed mode and flag, and entries that are holes, drafts of conditions, or
values not looked at yet.
-/

namespace FilterWire

inductive Entry
  | hole
  | condition (d : ConditionDraft)
  | raw (v : Value)

structure FilterDraft where
  mode : Value
  absent : Value
  entries : List Entry

namespace Entry

def ofOption : Option Condition → Entry
  | none => hole
  | some c => condition (.ofCondition c)

/-- The entry that is read in these two ways. -/
def ofReadings : Option Condition → Option Condition → Entry
  | some c, some c' => condition (.ofReadings c c')
  | _, _ => hole

/-- A document's entry: null is a hole, anything else has to be a condition. -/
def ofValue : Value → Except Failure Entry
  | .null => .ok hole
  | v => (ConditionDraft.ofValue v).map condition

/-- An entry of which only dictionaries are taken apart, and nothing is converted. -/
def ofParts : Value → Except Failure Entry
  | .null => .ok hole
  | .dict es => (ConditionDraft.ofParts (.dict es)).map condition
  | v => .ok (raw v)

/-- An entry that is left as it is. -/
def asGiven : Value → Entry
  | .null => hole
  | v => raw v

/-- Writes an entry.  A dictionary is read as a document first; a hole cannot be written, and
nothing else is a condition. -/
def encode (legacy : Bool) : Entry → Logged Failure Text
  | hole => Logged.fail (.codec (.malformed "None".toList))
  | condition d => d.encode legacy
  | raw (.dict es) => do
    let d ← Logged.ofExcept (ConditionDraft.ofValue (.dict es))
    d.encode legacy
  | raw _ => Logged.fail .unsupported

def field : Entry → Except Failure Value
  | hole => .error .unfit
  | condition d => .ok d.field
  | raw v => v.field ConditionDraft.fieldKey

def toValue : Entry → Value
  | hole => .null
  | condition d => d.toValue
  | raw v => v

def quoted : Entry → Text
  | hole => Value.null.quoted
  | condition d => d.quoted
  | raw v => v.quoted

def isHole : Entry → Bool
  | hole => true
  | _ => false

end Entry

namespace FilterDraft

def modeKey : Text := "inclusionType".toList

def absentKey : Text := "includesAbsentFieldNames".toList

def filtersKey : Text := "filters".toList

def otherModeKey : Text := "inclusion_type".toList

def otherAbsentKey : Text := "includes_absent_field_names".toList

/-- The value under the first key, else under the second, else a default. -/
def pick (key other : Text) (default : Value) (entries : Entries) : Value :=
  (Value.valueAt? key entries).getD ((Value.valueAt? other entries).getD default)

/-- The elements that a value runs through: items, characters or keys. -/
def elements : Value → Except Failure (List Value)
  | .list items => .ok items
  | .str t => .ok (t.map fun c => .str [c])
  | .unpaired codes => .ok (codes.map fun n => Value.ofCodes [n])
  | .dict entries => .ok (entries.map fun e => .ofKey e.1)
  | _ => .error .unfit

/-- Texts go to upper case; other values stay. -/
def upperMode : Value → Value
  | .str t => .str t.upper
  | .unpaired codes => .unpaired (Text.upperCodes codes)
  | v => v

/-- The draft in a document.  The key in camel case wins over the one with underscores, and filters
that count as false are none. -/
def ofEntries (entries : Entries) : Except Failure FilterDraft := do
  let mode := upperMode (pick modeKey otherModeKey (.str Mode.and.word) entries)
  let absent := (pick absentKey otherAbsentKey (.bool false) entries).truth
  let filters := (Value.valueAt? filtersKey entries).getD .null
  let filters ← if filters.truth then elements filters else .ok []
  let entries ← filters.mapM Entry.ofValue
  .ok ⟨mode, .bool absent, entries⟩

/-- The draft in a value.  A list or a text can be searched for the first key, but has nothing
under it and cannot be asked for a default. -/
def ofValue : Value → Except Failure FilterDraft
  | .dict entries => ofEntries entries
  | .list items =>
    let found := items.any fun v => match v with
      | .str t => t = modeKey
      | _ => false
    .error (if found then .unfit else .unsupported)
  | .str t => .error (if modeKey.occursIn t then .unfit else .unsupported)
  | .unpaired _ => .error .unsupported
  | _ => .error .unfit

/-- A draft from its parts, with each element of the filters read by a given rule. -/
def ofParts (entry : Value → Except Failure Entry) (v : Value) : Except Failure FilterDraft := do
  let mode ← v.field modeKey
  let absent ← v.field absentKey
  let filters ← v.field filtersKey
  let elements ← elements filters
  let entries ← elements.mapM entry
  .ok ⟨mode, absent, entries⟩

def ofFilterSet (s : FilterSet) : FilterDraft :=
  ⟨Value.ofOption (fun m => .str m.word) s.mode, .bool s.includesAbsent,
    s.filters.map Entry.ofOption⟩

/-- The filter set that is read in these two ways, of which the mode and the flag are the same. -/
def ofReadings (s s' : FilterSet) : FilterDraft :=
  { ofFilterSet s with entries := List.zipWith Entry.ofReadings s.filters s'.filters }

def toValue (d : FilterDraft) : Value :=
  .dict [(modeKey, d.mode), (absentKey, d.absent), (filtersKey, .list (d.entries.map (·.toValue)))]

/-- A mode that counts as false joins like `and`.  Unpaired surrogates in it are lost. -/
def joiner (d : FilterDraft) : Text :=
  if d.mode.truth then ' ' :: d.mode.display ++ [' '] else Mode.and.joiner

/-- Writes a filter set.  Unpaired surrogates in the mode, the fields and the queries are lost, so
whether the expression can be printed is to be told from the draft. -/
def encode (legacy : Bool) (d : FilterDraft) : Logged Failure (Option Text) := do
  let calls ← Logged.each (Entry.encode legacy) d.entries
  let fields ← Logged.ofExcept (d.entries.mapM fun e => (e.field).map (·.display))
  pure (FilterSet.assemble d.joiner d.absent.truth fields calls)

def isEmpty (d : FilterDraft) : Bool :=
  d.entries.isEmpty

def malformedCount (d : FilterDraft) : Nat :=
  d.entries.countP (·.isHole)

/-- Items between parentheses; a single one is followed by a comma. -/
def tuple : List Text → Text
  | [item] => '(' :: item ++ [',', ')']
  | items => '(' :: Value.comma.intercalate items ++ [')']

def quoted (d : FilterDraft) : Text :=
  "FilterSet(inclusion_type=".toList ++ d.mode.quoted ++
    ", includes_absent_field_names=".toList ++ d.absent.quoted ++ ", filters=".toList ++
    tuple (d.entries.map (·.quoted)) ++ ")".toList

end FilterDraft

end FilterWire
