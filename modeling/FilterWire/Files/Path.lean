import FilterWire.Text.Utf8

/-!
# Paths

A path is a row of names, from the root or from the current directory.  Empty names and single dots
are dropped; a double dot stays, because it means the parent of what precedes it.
-/

namespace FilterWire

/-- `root` is empty, one slash, or the two slashes that a path may start with. -/
structure Path where
  root : Text
  names : List Text
  deriving DecidableEq

namespace Path

/-- Just two slashes at the beginning are kept apart from one. -/
def rootOf (t : Text) : Text :=
  match (t.takeWhile (· = '/')).length with
  | 0 => []
  | 2 => ['/', '/']
  | _ => ['/']

def ofText (t : Text) : Path :=
  ⟨rootOf t, (Text.split ['/'] t).filter fun n => n ≠ [] ∧ n ≠ ['.']⟩

def isAbsolute (p : Path) : Bool :=
  !p.root.isEmpty

/-- The path without names is a dot. -/
def text (p : Path) : Text :=
  if p.root.isEmpty && p.names.isEmpty then ['.'] else p.root ++ ['/'].intercalate p.names

def parent (p : Path) : Path :=
  { p with names := p.names.dropLast }

/-- Puts a home directory in the place of a leading tilde, which may carry the name of a user.  The
tilde of a user without a home stands for nothing. -/
def expand? (homeOf? : Text → Option Path) (p : Path) : Option Path :=
  match p.names with
  | ('~' :: user) :: rest =>
    if p.isAbsolute then some p
    else (homeOf? user).map fun home => ⟨home.root, home.names ++ rest⟩
  | _ => some p

end Path

/-- Where a file or directory is: the names from the root down. -/
abbrev Location := List Text

namespace Location

def text (l : Location) : Text :=
  '/' :: ['/'].intercalate l

end Location

end FilterWire
