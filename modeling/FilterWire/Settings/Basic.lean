import FilterWire.Draft.Expression

/-!
# Settings

The settings of the command line.  Every change goes through the same normalisation: the log level
is kept in upper case, an empty log file is none, and the output format is one of two.
-/

namespace FilterWire

inductive OutputFormat
  | json
  | table
  deriving DecidableEq

namespace OutputFormat

def name : OutputFormat → Text
  | json => ['j', 's', 'o', 'n']
  | table => ['t', 'a', 'b', 'l', 'e']

def ofName? (t : Text) : Option OutputFormat :=
  if t = json.name then some json else if t = table.name then some table else none

end OutputFormat

/-- The switches and the log file keep the value they were given. -/
structure Settings where
  legacy : Value
  strict : Value
  logLevel : Text
  logFile : Value
  format : OutputFormat

namespace Settings

def legacyKey : Text := "legacy_string_tokens".toList

def strictKey : Text := "strict".toList

def levelKey : Text := "log_level".toList

def fileKey : Text := "log_file".toList

def formatKey : Text := "output_format".toList

def keys : List Text :=
  [legacyKey, strictKey, levelKey, fileKey, formatKey]

def default : Settings :=
  ⟨.bool true, .bool false, "WARNING".toList, .null, .json⟩

/-- The normalised settings of five values.  Unpaired surrogates in the level and the format are
lost. -/
def ofValues (legacy strict level file format : Value) : Except Failure Settings := do
  let level ← level.textOr .unsupported
  let format ← format.textOr .unsupported
  match OutputFormat.ofName? format.lower with
  | none => .error (.unknownFormat format.lower)
  | some f => .ok ⟨legacy, strict, level.upper, if file.truth then file else .null, f⟩

/-- Changes the named settings and normalises all of them. -/
def update (changes : List (Text × Value)) (s : Settings) : Except Failure Settings :=
  if changes.any fun e => !keys.contains e.1 then .error .unfit
  else
    ofValues
      ((changes.lookup legacyKey).getD s.legacy)
      ((changes.lookup strictKey).getD s.strict)
      ((changes.lookup levelKey).getD (.str s.logLevel))
      ((changes.lookup fileKey).getD s.logFile)
      ((changes.lookup formatKey).getD (.str s.format.name))

/-- The outcome of each change; a change that fails leaves the settings as they are. -/
def run (s : Settings) : List (List (Text × Value)) → List (Except Failure Settings)
  | [] => []
  | changes :: rest =>
    match update changes s with
    | .ok next => .ok next :: run next rest
    | .error e => .error e :: run s rest

def toValue (s : Settings) : Value :=
  .dict [(legacyKey, s.legacy), (strictKey, s.strict), (levelKey, .str s.logLevel),
    (fileKey, s.logFile), (formatKey, .str s.format.name)]

/-- Where the log goes.  Unpaired surrogates in the path are lost. -/
def logPath? (s : Settings) : Option Text :=
  if s.logFile.truth then some s.logFile.display else none

end Settings

end FilterWire
