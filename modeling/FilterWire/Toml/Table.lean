import FilterWire.Value.Basic

/-!
# Tables under construction

A settings document fills nested tables line by line.  Which tables may still be opened or extended
depends on how they came into being: an inline value is closed for good, and a table that has been
declared, or opened through a dotted key in an earlier section, cannot be declared again.
-/

namespace FilterWire.Toml

/-- The keys that lead to a table. -/
abbrev KeyPath := List Text

/-- Applies a change to the table at a path.  Missing tables on the way are created, and an array
of tables stands for its last one; any other value blocks the way. -/
def changeAt (change : Entries → Option Entries) : KeyPath → Entries → Option Entries
  | [], es => change es
  | k :: path, es =>
    match Value.valueAt? k es with
    | none => do
      let inner ← changeAt change path []
      some (Value.setKey k (.dict inner) es)
    | some (.dict inner) => do
      let inner ← changeAt change path inner
      some (Value.setKey k (.dict inner) es)
    | some (.list items) =>
      match items.reverse with
      | .dict inner :: before => do
        let inner ← changeAt change path inner
        some (Value.setKey k (.list (.dict inner :: before).reverse) es)
      | _ => none
    | some _ => none

def addNew (k : Text) (v : Value) (es : Entries) : Option Entries :=
  if (Value.valueAt? k es).isSome then none else some (Value.setKey k v es)

/-- Adds an empty table to the array of tables under a key. -/
def addTable (k : Text) (es : Entries) : Option Entries :=
  match Value.valueAt? k es with
  | none => some (Value.setKey k (.list [.dict []]) es)
  | some (.list items) => some (Value.setKey k (.list (items ++ [.dict []])) es)
  | some _ => none

def addAt (path : KeyPath) (v : Value) (es : Entries) : Option Entries :=
  match path.reverse with
  | [] => none
  | k :: parents => changeAt (addNew k v) parents.reverse es

/-- Adds an empty table to the array of tables under a path. -/
def addTableAt (path : KeyPath) (es : Entries) : Option Entries :=
  match path.reverse with
  | [] => none
  | k :: parents => changeAt (addTable k) parents.reverse es

/-- Inline values keep everything below them closed. -/
def isInline : Value → Bool
  | .dict _ | .list _ => true
  | _ => false

/-- Whether a path leads to or through a closed value. -/
def isClosed (closed : List KeyPath) (path : KeyPath) : Bool :=
  closed.any fun p => p.isPrefixOf path

/-- A document in progress: its tables, the section that is open, the tables that cannot be
declared again now or from the next section on, and the closed values. -/
structure Document where
  root : Entries := []
  current : KeyPath := []
  declared : List KeyPath := []
  pending : List KeyPath := []
  closed : List KeyPath := []

namespace Document

/-- The tables opened through dotted keys count as declared from the next section on. -/
def endSection (d : Document) : Document :=
  { d with declared := d.pending ++ d.declared, pending := [] }

def openTable (path : KeyPath) (d : Document) : Option Document := do
  if d.declared.contains path || isClosed d.closed path then none
  else
    let root ← changeAt some path d.root
    some { d with root, current := path, declared := path :: d.declared }

/-- Opens a new table of an array of tables; what was known below the array is forgotten. -/
def openItem (path : KeyPath) (d : Document) : Option Document := do
  if isClosed d.closed path then none
  else
    let root ← addTableAt path d.root
    let kept := fun p => !path.isPrefixOf p
    some { d with
      root
      current := path
      declared := path :: d.declared.filter kept
      closed := d.closed.filter kept }

def passed (d : Document) (key : KeyPath) : List KeyPath :=
  (List.range (key.length - 1)).map fun n => d.current ++ key.take (n + 1)

def assign (key : KeyPath) (v : Value) (d : Document) : Option Document := do
  let passed := d.passed key
  let parent := d.current ++ key.dropLast
  if passed.any d.declared.contains || isClosed d.closed parent then none
  else
    let path := d.current ++ key
    let root ← addAt path v d.root
    some { d with
      root
      pending := passed ++ d.pending
      closed := if isInline v then path :: d.closed else d.closed }

end Document

end FilterWire.Toml
