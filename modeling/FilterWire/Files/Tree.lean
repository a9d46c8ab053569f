import FilterWire.Failure
import FilterWire.Files.Path

/-!
# File trees

Directories and files with their bytes, as seen from a current directory.  A path is walked name by
name, and every name on the way has to be a directory.
-/

namespace FilterWire

inductive Node
  | directory
  | file (bytes : Text.Bytes)
  deriving DecidableEq

/-- The nodes below the root, the current directory, the home directory of the user who runs the
program, and those of users by name. -/
structure FileTree where
  nodes : List (Location × Node)
  current : Location
  home : Path
  homes : List (Text × Path) := []

namespace FileTree

def get? (fs : FileTree) (l : Location) : Option Node :=
  if l.isEmpty then some .directory else fs.nodes.lookup l

def set (fs : FileTree) (l : Location) (n : Node) : FileTree :=
  let others := fs.nodes.filter fun e => e.1 != l
  { fs with nodes := (l, n) :: others }

def maxNameBytes : Nat := 255

def maxPathBytes : Nat := 4096

/-- The location that some names lead to from another one; only the last may be missing. -/
def walk (fs : FileTree) (start : Location) : List Text → Except FileCause Location
  | [] => .ok start
  | name :: names =>
    match fs.get? start with
    | none => .error .notFound
    | some (.file _) => .error .notDirectory
    | some .directory =>
      if name = ['.', '.'] then walk fs start.dropLast names
      else if maxNameBytes < name.encodeUtf8.length then .error .nameTooLong
      else walk fs (start ++ [name]) names

def origin (fs : FileTree) (p : Path) : Location :=
  if p.isAbsolute then [] else fs.current

def locate (fs : FileTree) (p : Path) : Except FileCause Location :=
  if maxPathBytes ≤ p.text.encodeUtf8.length then .error .nameTooLong
  else walk fs (fs.origin p) p.names

/-- No path holds the null character. -/
def isUsable (p : Path) : Bool :=
  !p.text.contains '\x00'

/-- The node at a path, or none; only a name that is too long is an error. -/
def find? (fs : FileTree) (p : Path) : Except Failure (Option Node) :=
  if !isUsable p then .ok none
  else match fs.locate p with
    | .ok l => .ok (fs.get? l)
    | .error .nameTooLong => .error (.file ⟨.nameTooLong, p.text⟩)
    | .error _ => .ok none

def isFile (fs : FileTree) (p : Path) : Except Failure Bool := do
  match ← fs.find? p with
  | some (.file _) => .ok true
  | _ => .ok false

/-- The location of a path that is to be opened. -/
def locateUsable (fs : FileTree) (p : Path) : Except Failure Location :=
  if !isUsable p then .error .unusablePath
  else (fs.locate p).mapError fun cause => .file ⟨cause, p.text⟩

def read (fs : FileTree) (p : Path) : Except Failure Text.Bytes := do
  let l ← fs.locateUsable p
  match fs.get? l with
  | some (.file bytes) => .ok bytes
  | some .directory => .error (.file ⟨.isDirectory, p.text⟩)
  | none => .error (.file ⟨.notFound, p.text⟩)

def readText (fs : FileTree) (p : Path) : Except Failure Text := do
  let bytes ← fs.read p
  match Text.ofBytes? bytes with
  | some t => .ok t
  | none => .error .notUtf8

def modify (fs : FileTree) (p : Path) (f : Text.Bytes → Text.Bytes) : Except Failure FileTree := do
  let l ← fs.locateUsable p
  match fs.get? l with
  | some .directory => .error (.file ⟨.isDirectory, p.text⟩)
  | some (.file bytes) => .ok (fs.set l (.file (f bytes)))
  | none => .ok (fs.set l (.file (f [])))

def writeText (fs : FileTree) (p : Path) (t : Text) : Except Failure FileTree :=
  fs.modify p fun _ => t.encodeUtf8

def appendText (fs : FileTree) (p : Path) (t : Text) : Except Failure FileTree :=
  fs.modify p fun bytes => bytes ++ t.encodeUtf8

/-- Creates the missing directories on the way down some names. -/
def descend (fs : FileTree) (start : Location) : List Text → Except FileCause FileTree
  | [] => .ok fs
  | name :: names =>
    if name = ['.', '.'] then descend fs start.dropLast names
    else if maxNameBytes < name.encodeUtf8.length then .error .nameTooLong
    else
      let next := start ++ [name]
      match fs.get? next with
      | some .directory => descend fs next names
      | some (.file _) => .error (if names.isEmpty then .occupied else .notDirectory)
      | none => descend (fs.set next .directory) next names

def makeDirectory (fs : FileTree) (p : Path) : Except Failure FileTree :=
  if !isUsable p then .error .unusablePath
  else (descend fs (fs.origin p) p.names).mapError fun cause => .file ⟨cause, p.text⟩

/-- The home directory of a user; the empty name is that of the user who runs the program. -/
def homeOf? (fs : FileTree) (user : Text) : Option Path :=
  if user.isEmpty then some fs.home else fs.homes.lookup user

/-- A path with a home directory in the place of its tilde.  No user has a name with a null
character. -/
def expand (fs : FileTree) (p : Path) : Except Failure Path :=
  match Path.expand? fs.homeOf? p with
  | some p => .ok p
  | none => .error (if (p.names.headD []).contains '\x00' then .unusablePath else .unknownHome)

/-- The absolute location of a path, whether something stands there or not: a double dot takes the
name before it away. -/
def resolve (fs : FileTree) (p : Path) : Location :=
  p.names.foldl (fun l name => if name = ['.', '.'] then l.dropLast else l ++ [name]) (fs.origin p)

end FileTree

end FilterWire
