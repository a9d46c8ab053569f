import FilterWire.Command.Run
import Std.Time.Zoned

/-!
# The program

Takes in the surroundings of a run, applies the command line to them as a function, and carries out
what its report says.  Of the file system only the places that the run can name are taken in.
-/

namespace FilterWire.Program

def nodeAt (l : Location) : IO (Option Node) := do
  try
    let bytes ← IO.FS.readBinFile (String.ofList l.text)
    return some (.file bytes.toList)
  catch
    | .noFileOrDirectory .. => return none
    | _ => return some .directory

/-- Takes in the nodes on the way down some names, as far as there are any. -/
def takeIn (fs : FileTree) (start : Location) : List Text → IO FileTree
  | [] => return fs
  | name :: names => do
    if name = ['.', '.'] then takeIn fs start.dropLast names
    else
      let l := start ++ [name]
      match ← nodeAt l with
      | none => return fs
      | some n => takeIn (fs.set l n) l names

/-- Takes in what stands on the way to a path. -/
def takeInPath (fs : FileTree) (p : Path) : IO FileTree :=
  match fs.expand p with
  | .ok p => if FileTree.isUsable p then takeIn fs (fs.origin p) p.names else return fs
  | .error _ => return fs

/-- The texts in a word of the command line that may be paths: the word, and what follows a mark or
an option name in it. -/
def pathTexts (word : Text) : List Text :=
  [word, word.drop 1, word.drop 2, ((Text.cut? ['='] word).map (·.2)).getD []]

/-- The user of a line of the list of accounts, with the home directory. -/
def account? (line : Text) : Option (Text × Path) :=
  match Text.split [':'] line with
  | user :: _ :: _ :: _ :: _ :: home :: _ => some (user, Path.ofText home)
  | _ => none

def accounts : IO (List (Text × Path)) := do
  try
    let list ← IO.FS.readFile "/etc/passwd"
    return (Text.lines list.toList).filterMap account?
  catch _ => return []

/-- The files of a run, but for its log file. -/
def surroundings (words : List Text) (environment : Option Text) : IO FileTree := do
  let current := Path.ofText (toString (← IO.currentDir)).toList
  let home := Path.ofText ((← IO.getEnv "HOME").getD "/").toList
  let start : FileTree := ⟨[], current.names, home, ← accounts⟩
  let paths := (words.flatMap pathTexts ++ environment.toList).map Path.ofText
  let known ← takeInPath start current
  (Settings.userPath known :: paths).foldlM takeInPath known

def withLog (i : Invocation) : IO Invocation := do
  let log : Except Failure (Option Path) := do
    match Command.shared (i.words.map .text) with
    | .error _ => .ok none
    | .ok shared =>
      let s ← Invocation.settings shared i
      match s.logPath? with
      | none => .ok none
      | some pattern => (LogFile.path i.now pattern i.files).map some
  match log with
  | .ok (some p) => return { i with files := ← takeInPath i.files p }
  | _ => return i

/-- The moment of the call in the local zone, or in universal time if the zone is not known. -/
def now : IO Moment := do
  try
    let here ← Std.Time.DateTime.now
    let elapsed := here.timestamp.val
    let zone := here.timezone
    return ⟨elapsed.second.val, elapsed.nano.val.toNat / 1000, zone.offset.second.val,
      zone.abbreviation.toList⟩
  catch _ =>
    let elapsed := (← Std.Time.Timestamp.now).val
    return { seconds := elapsed.second.val, micro := elapsed.nano.val.toNat / 1000 }

def readAll (s : IO.FS.Stream) : IO ByteArray := do
  let mut all := ByteArray.empty
  repeat
    let bytes ← s.read 65536
    if bytes.isEmpty then break
    all := all ++ bytes
  return all

/-- Makes the new directories, from the root down, and writes the new and changed files. -/
def carryOut (before after : FileTree) : IO Unit := do
  let changed := after.nodes.filter fun (l, n) => before.get? l ≠ some n
  let directories := changed.filter fun (_, n) => n = .directory
  for (l, _) in directories do
    IO.FS.createDirAll (String.ofList l.text)
  for (l, n) in changed do
    if let .file bytes := n then
      IO.FS.writeBinFile (String.ofList l.text) ⟨bytes.toArray⟩

def run (words : List Text) : IO UInt32 := do
  let environment := (← IO.getEnv "FILTERZ_CONFIG").map (·.toList)
  let input ← if words.contains ['-'] then some <$> readAll (← IO.getStdin) else pure none
  let files ← surroundings words environment
  let i ← withLog ⟨words, input.map (·.toList), environment, files, ← now⟩
  let report := i.run
  carryOut i.files report.files
  for e in report.events do
    IO.eprintln (String.ofList e.line)
  IO.print (String.ofList report.out)
  IO.eprint (String.ofList report.err)
  if let .crash cause := report.ending then
    IO.eprintln (String.ofList cause.message)
  return report.ending.exitCode.toUInt32

end FilterWire.Program

def main (words : List String) : IO UInt32 :=
  FilterWire.Program.run (words.map (·.toList))
