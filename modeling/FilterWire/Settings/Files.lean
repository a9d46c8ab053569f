import FilterWire.Files.Tree
import FilterWire.Settings.Document

/-!
# Settings files

Where settings are looked for, and how the default ones are written.
-/

namespace FilterWire.Settings

def userPath (fs : FileTree) : Path :=
  { fs.home with names := fs.home.names ++ [".config", "filterz", "config.toml"].map (·.toList) }

/-- The path that an optional text names; an empty one names none. -/
def pathOf? (t : Option Text) : Option Path :=
  match t with
  | none | some [] => none
  | some t => some (Path.ofText t)

/-- The places to look, best first: the given path, the one in the environment, the user's. -/
def candidates (given environment : Option Path) (fs : FileTree) : List Path :=
  given.toList ++ environment.toList ++ [userPath fs]

/-- The first candidate that is a file. -/
def firstFile (fs : FileTree) : List Path → Except Failure (Option Path)
  | [] => .ok none
  | p :: ps => do
    let p ← fs.expand p
    if ← fs.isFile p then .ok (some p) else firstFile fs ps

def load (given environment : Option Path) (fs : FileTree) : Except Failure Settings := do
  match ← firstFile fs (candidates given environment fs) with
  | some p => ofDocument (← fs.readText p)
  | none => ofDocument defaultDocument

/-- Writes the default document, with the directories it needs; the location is absolute. -/
def writeDefault (p : Path) (fs : FileTree) : Except Failure (Location × FileTree) := do
  let p ← fs.expand p
  let fs ← fs.makeDirectory p.parent
  let fs ← fs.writeText p defaultDocument
  .ok (fs.resolve p, fs)

end FilterWire.Settings
