import FilterWire.FilterSet.Basic
import FilterWire.Text.Quoted

/-!
# Logged computations

What is worth noting while expressions are read and written, and computations that keep their notes
whether they succeed or fail.
-/

namespace FilterWire

inductive Level
  | trace
  | debug
  | info
  | success
  | warning
  | error
  | critical
  deriving DecidableEq

namespace Level

def severity : Level → Nat
  | trace => 5
  | debug => 10
  | info => 20
  | success => 25
  | warning => 30
  | error => 40
  | critical => 50

def name : Level → Text
  | trace => "TRACE".toList
  | debug => "DEBUG".toList
  | info => "INFO".toList
  | success => "SUCCESS".toList
  | warning => "WARNING".toList
  | error => "ERROR".toList
  | critical => "CRITICAL".toList

def all : List Level :=
  [trace, debug, info, success, warning, error, critical]

def ofName? (t : Text) : Option Level :=
  all.find? fun l => l.name = t

end Level

inductive Event
  /-- The log is set up; the level is shown by name. -/
  | ready (level : Text) (file : Option Text)
  | notACondition (text : Text)
  /-- A segment that is not a call stays as a hole. -/
  | keptMalformed (segment : Text)
  /-- An expression has been read. -/
  | decoded (count : Nat) (mode : Mode) (absent : Bool)
  /-- A call hides its comparator. -/
  | sentAs (token name : Text)
  deriving DecidableEq

namespace Event

def level : Event → Level
  | ready .. => .debug
  | notACondition _ => .debug
  | keptMalformed _ => .warning
  | decoded .. => .debug
  | sentAs .. => .warning

def flag (b : Bool) : Text :=
  if b then "True".toList else "False".toList

def message : Event → Text
  | ready level file =>
    let shown := match file with
      | some path => path.quoted
      | none => "None".toList
    "日志系统已初始化: \x7b'level': ".toList ++ level.quoted ++ ", 'log_file': ".toList ++ shown ++
      "\x7d".toList
  | notACondition text => "Not a condition: ".toList ++ text.quoted
  | keptMalformed segment => "Keeping malformed segment as None: ".toList ++ segment.quoted
  | decoded count mode absent =>
    "Decoded ".toList ++ Text.ofNat count ++ " condition(s), inclusion=".toList ++ mode.word ++
      ", absent=".toList ++ flag absent
  | sentAs token name =>
    token ++ " is sent as ".toList ++ name ++ "; it will decode as a different comparator".toList

def isWarning (e : Event) : Bool :=
  e.level = .warning

def line (e : Event) : Text :=
  e.level.name ++ ' ' :: e.message

end Event

/-- An outcome with the events on the way to it. -/
structure Logged (ε α : Type) where
  events : List Event
  outcome : Except ε α

namespace Logged

def pure (a : α) : Logged ε α :=
  ⟨[], .ok a⟩

def fail (e : ε) : Logged ε α :=
  ⟨[], .error e⟩

def note (e : Event) : Logged ε Unit :=
  ⟨[e], .ok ()⟩

def ofExcept (x : Except ε α) : Logged ε α :=
  ⟨[], x⟩

/-- The second computation runs if the first succeeds; its events come after. -/
def bind (x : Logged ε α) (f : α → Logged ε β) : Logged ε β :=
  match x.outcome with
  | .error e => ⟨x.events, .error e⟩
  | .ok a =>
    let y := f a
    ⟨x.events ++ y.events, y.outcome⟩

/-- Changes the value; the events stay. -/
def map (f : α → β) (x : Logged ε α) : Logged ε β :=
  ⟨x.events, x.outcome.map f⟩

instance : Monad (Logged ε) where
  pure := pure
  bind := bind
  map := map

def mapError (f : ε → δ) (x : Logged ε α) : Logged δ α :=
  ⟨x.events, x.outcome.mapError f⟩

/-- One computation for each element, in order, up to the first failure. -/
def each (f : α → Logged ε β) : List α → Logged ε (List β)
  | [] => pure []
  | a :: as => (f a).bind fun b => (each f as).map (b :: ·)

def warnings (x : Logged ε α) : List Event :=
  x.events.filter (·.isWarning)

end Logged

end FilterWire
