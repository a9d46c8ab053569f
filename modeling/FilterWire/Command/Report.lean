import FilterWire.Console.Message
import FilterWire.Files.Tree
import FilterWire.Log

/-!
# Reports

What a run of the command line leaves behind.
-/

namespace FilterWire

/-- How a run ends. -/
inductive Ending
  | success
  | failure
  | misuse
  /-- The run breaks off on a failure that it does not handle. -/
  | crash (cause : Failure)

/-- How a run ends, what it prints, what it logs, and the files afterwards. -/
structure Report where
  ending : Ending
  out : Text := []
  err : Text := []
  events : List Event := []
  files : FileTree

namespace Ending

def exitCode : Ending → Nat
  | success => 0
  | failure | crash _ => 1
  | misuse => 2

end Ending

namespace Report

def errorLabel : String := "错误:"

def print (fs : FileTree) (t : Text) : Report :=
  { ending := .success, out := t, files := fs }

def fail (fs : FileTree) (t : Text) : Report :=
  { ending := .failure, err := Console.message errorLabel t, files := fs }

def crash (fs : FileTree) (cause : Failure) : Report :=
  { ending := .crash cause, files := fs }

/-- The report with some events first. -/
def after (events : List Event) (r : Report) : Report :=
  { r with events := events ++ r.events }

def eventsFrom (l : Level) (r : Report) : List Event :=
  r.events.filter fun e => l.severity ≤ e.level.severity

end Report

end FilterWire
