import FilterWire.Draft.Expression

/-!
# Sessions

A session takes one state through a row of steps: a loosely typed value, a condition or a filter
set.  The first failing step ends it.
-/

namespace FilterWire

inductive Step
  | decode (strict : Bool)
  | encode (legacy : Bool)
  | toDocument
  | ofDocument
  | decodeCondition
  | encodeCondition (legacy : Bool)
  | wrapSentinel
  | stripSentinel
  | stripNullChecks
  | inside
  | validate
  | pad
  deriving DecidableEq

namespace Session

inductive State
  | value (v : Value)
  | condition (d : ConditionDraft)
  | filterSet (d : FilterDraft)

namespace State

def toValue : State → Value
  | value v => v
  | condition d => d.toValue
  | filterSet d => d.toValue

/-- The plain form of a value, in which unpaired surrogates are lost; the form with named parts of
anything else. -/
def display : State → Text
  | value v => v.display
  | condition d => d.quoted
  | filterSet d => d.quoted

/-- The value of the state, or the failure that stands for a condition or filter set. -/
def valueOr (failure : Failure) : State → Logged Failure Value
  | value v => pure v
  | _ => Logged.fail failure

end State

def text (t : Text) : State :=
  .value (.str t)

/-- An expression, or null if there is none. -/
def optionalText (t : Option Text) : State :=
  .value (Value.ofOption .str t)

def encode (legacy : Bool) : State → Logged Failure State
  | .filterSet d => do pure (optionalText (← d.encode legacy))
  | .value v => do pure (optionalText (← Expression.encode legacy v))
  | .condition _ => Logged.fail .unsupported

def encodeCondition (legacy : Bool) : State → Logged Failure State
  | .condition d => do pure (text (← d.encode legacy))
  | .value v => do pure (text (← Expression.encodeCondition legacy v))
  | .filterSet _ => Logged.fail .unsupported

def toDocument : State → Logged Failure State
  | .value _ => Logged.fail .unsupported
  | s => pure (.value s.toValue)

def pad (t : Text) : Text :=
  ' ' :: '\t' :: t ++ ['\n']

/-- The state after one step. -/
def apply (step : Step) (s : State) : Logged Failure State :=
  match step with
  | .decode strict => do
    pure (.filterSet (← Expression.decodeDraft strict (← s.valueOr .unsupported)))
  | .encode legacy => encode legacy s
  | .toDocument => toDocument s
  | .ofDocument => do
    let v ← s.valueOr .unfit
    let d ← Logged.ofExcept (FilterDraft.ofValue v)
    pure (.filterSet d)
  | .decodeCondition => do
    match ← Expression.decodeCondition (← s.valueOr .unfit) with
    | some c => pure (.condition (.ofCondition c))
    | none => pure (.value .null)
  | .encodeCondition legacy => encodeCondition legacy s
  | .wrapSentinel => pure (text (Guard.wrapSentinel s.display))
  | .stripSentinel => do
    let v ← s.valueOr .unsupported
    let t ← Logged.ofExcept (Expression.stripSentinel v)
    pure (text t)
  | .stripNullChecks => do
    let v ← s.valueOr .unsupported
    let t ← Logged.ofExcept (Expression.stripNullChecks v)
    pure (text t)
  | .inside => do
    let v ← s.valueOr .unsupported
    let t ← Logged.ofExcept (Expression.inside v (.int 0))
    pure (text t)
  | .validate => do
    let verdict ← Expression.validate (← s.valueOr .unsupported)
    pure (.value verdict.toValue)
  | .pad => pure (text (pad s.display))

/-- The outcome of each step up to the first failure, with all events. -/
def run (s : State) : List Step → List Event × List (Except Failure State)
  | [] => ([], [])
  | step :: steps =>
    let x := apply step s
    match x.outcome with
    | .error e => (x.events, [.error e])
    | .ok next =>
      let rest := run next steps
      (x.events ++ rest.1, .ok next :: rest.2)

end Session

end FilterWire
