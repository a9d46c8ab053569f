import FilterWire.Files.Pattern
import FilterWire.Files.Tree
import FilterWire.Log

/-!
# Log files

The path of a log file is given by a pattern, which is expanded at the moment of the run.  The file
gets all events from debug level on.
-/

namespace FilterWire.LogFile

def path (now : Moment) (pattern : Text) (fs : FileTree) : Except Failure Path := do
  let t ← Pattern.expand now pattern
  .ok ⟨['/'], fs.resolve (Path.ofText t)⟩

def create (p : Path) (fs : FileTree) : Except Failure FileTree := do
  let fs ← fs.makeDirectory p.parent
  fs.appendText p []

def lines (events : List Event) : Text :=
  (events.filter fun e => Level.debug.severity ≤ e.level.severity).flatMap fun e => e.line ++ ['\n']

/-- Appends some events to a log file; a file that cannot be written stays as it is. -/
def append (p : Path) (events : List Event) (fs : FileTree) : FileTree :=
  match fs.appendText p (lines events) with
  | .ok fs => fs
  | .error _ => fs

end FilterWire.LogFile
