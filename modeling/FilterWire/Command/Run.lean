import FilterWire.Command.Arguments
import FilterWire.Command.Report
import FilterWire.Console.Table
import FilterWire.Files.LogFile
import FilterWire.Json.Printer
import FilterWire.Json.Reader
import FilterWire.Settings.Files

/-!
# Running a command

The command line as a function: from the words, the standard input, the environment, the files and
the moment to a report.
-/

namespace FilterWire

/-- What a run starts from, if all its words are texts. -/
structure Invocation where
  words : List Text
  input : Option Text.Bytes
  environment : Option Text
  files : FileTree
  now : Moment

namespace Command

def standardInput (input : Option Text.Bytes) : Except Failure Text :=
  match Text.ofBytes? (input.getD []) with
  | some t => .ok t
  | none => .error .notUtf8

/-- What an argument stands for: a hyphen for the standard input, an at sign and a path for a file,
anything else for itself.  What is read from outside is a text, and trimmed. -/
def source (input : Option Text.Bytes) (fs : FileTree) (argument : Word) : Except Failure Word :=
  match argument.reading with
  | ['-'] => (standardInput input).map fun t => .text t.trim
  | '@' :: path => do
    let p ← fs.expand (Path.ofText path)
    (fs.readText p).map fun t => .text t.trim
  | _ => .ok argument

def expression (input : Option Text.Bytes) (fs : FileTree) : Option Word → Except Failure Word
  | none => .ok (.text [])
  | some argument => source input fs argument

/-- Drops the escape sequences that style a terminal. -/
def plainFrom : (fuel : Nat) → Text → Text
  | 0, t => t
  | fuel + 1, t =>
    match t.span (· ≠ '\x1b') with
    | (passed, '\x1b' :: '[' :: r) =>
      match r.dropWhile (fun c => c = ';' ∨ c = '?' ∨ Text.isDigit c) with
      | c :: rest =>
        if c.isAlpha then passed ++ plainFrom fuel rest
        else passed ++ '\x1b' :: plainFrom fuel ('[' :: r)
      | [] => t
    | (passed, c :: r) => passed ++ c :: plainFrom fuel r
    | (passed, []) => passed

def echo (t : Text) : Text :=
  plainFrom (t.length + 1) t ++ ['\n']

def echoJson (v : Value) : Text :=
  echo (Json.render Json.pretty v)

def filterRows (d : FilterDraft) : List (List Text) :=
  d.entries.zipIdx.map fun (e, n) =>
    let number := Text.ofNat (n + 1)
    match e with
    | .condition c => [number, c.field.display, c.option.display, c.query.display]
    | _ => [number, "<malformed>".toList, [], []]

def filterHeading (d : FilterDraft) : Text :=
  Console.print (Text.ofNat d.entries.length ++ " 个条件 inclusion=".toList ++ d.mode.display ++
    " absent_fields=".toList ++ d.absent.display)

def filterTable (d : FilterDraft) : Text :=
  Console.table [⟨['#'], true⟩, ⟨"Field".toList, false⟩, ⟨"Option".toList, false⟩,
    ⟨"Query".toList, false⟩] (filterRows d)

/-- Whether everything that a draft puts into its expression can be written. -/
def isWritable (d : FilterDraft) : Bool :=
  (d.entries.length < 2 || !d.mode.isUnpaired) &&
    d.entries.all fun e => match e with
      | .condition c => !c.field.isUnpaired && !c.query.isUnpaired
      | _ => true

/-- Prints a filter set.  An unpaired surrogate breaks this off, in a table after the heading. -/
def printDraft (fs : FileTree) (format : OutputFormat) (d : FilterDraft) : Report :=
  match format with
  | .json =>
    if isWritable d then Report.print fs (echoJson d.toValue) else Report.crash fs .unwritable
  | .table =>
    if isWritable d then Report.print fs (filterHeading d ++ filterTable d)
    else { Report.crash fs .unwritable with out := filterHeading d }

def comparatorTable : Text :=
  Console.table [⟨"Token".toList, false⟩, ⟨"Label".toList, false⟩, ⟨"Call name".toList, false⟩]
    (Registry.standard.comparators.map fun c => [c.token, c.label, c.callName])

/-- Errors of the codec and of the file system are told, others break the run off. -/
def decodeFailed (fs : FileTree) : Failure → Report
  | .codec cause => Report.fail fs cause.message
  | .file cause => Report.fail fs cause.message
  | e => Report.crash fs e

/-- The settings with another output format; an empty name changes nothing. -/
def withFormat (format : Option Text) (s : Settings) : Except Failure Settings :=
  match format with
  | none | some [] => .ok s
  | some name => s.update [(Settings.formatKey, .str name)]

def runDecode (s : Settings) (input : Option Text.Bytes) (fs : FileTree)
    (argument : Option Word) (format : Option Text) (strict : Option Bool) : Report :=
  match withFormat format s with
  | .error e => Report.fail fs e.message
  | .ok s =>
    let decoded : Logged Failure FilterDraft := do
      let w ← Logged.ofExcept (expression input fs argument)
      Expression.decodeDraft (strict.getD s.strict.truth) (.ofKey w)
    Report.after decoded.events <| match decoded.outcome with
      | .error e => decodeFailed fs e
      | .ok d => printDraft fs s.format d

def inputLabel : Text := "无效的 JSON 输入: ".toList

/-- Writes the expression of a draft; a missing key is told like an error of the codec. -/
def encodeEntries (fs : FileTree) (legacy : Bool) (entries : Entries) : Report :=
  let encoded : Logged Failure Text := do
    let d ← Logged.ofExcept (FilterDraft.ofEntries entries)
    let t ← d.encode legacy
    if isWritable d then pure (t.getD "null".toList) else Logged.fail .unwritable
  Report.after encoded.events <| match encoded.outcome with
    | .ok t => Report.print fs (echo t)
    | .error (.codec cause) => Report.fail fs cause.message
    | .error (.missingKey key) => Report.fail fs (Failure.missingKey key).message
    | .error e => Report.crash fs e

/-- Reads the document in a word, in which unpaired surrogates stay where they stand.  Both readings
have a character of its own for each, so that keys stay apart. -/
def readDocument : Word → Except Json.Fault Value
  | .text t => Json.read t
  | .unpaired codes => do
    let remarked ← Json.read (Text.ofCodesRemarked codes)
    let marked ← Json.read (Text.ofCodesMarked codes)
    .ok (.ofReadings remarked marked)

def runEncode (s : Settings) (input : Option Text.Bytes) (fs : FileTree) (argument : Word)
    (legacy : Option Bool) : Report :=
  match source input fs argument with
  | .error (.file cause) => Report.fail fs (inputLabel ++ cause.message)
  | .error e => Report.crash fs e
  | .ok w =>
    let w := if w.reading.isEmpty then .text ['{', '}'] else w
    match readDocument w with
    | .error ⟨.integerTooLong, _⟩ => Report.crash fs .integerTooLong
    | .error fault => Report.fail fs (inputLabel ++ fault.message w.reading)
    | .ok (.dict entries) => encodeEntries fs (legacy.getD s.legacy.truth) entries
    | .ok _ => Report.fail fs "Filter set must be a JSON object".toList

/-- Whether the document of the filter set in a word can be printed. -/
def isPrintable (w : Word) : Bool :=
  match (Expression.decodeDraft true (.ofKey w)).outcome with
  | .ok d => isWritable d
  | .error _ => true

def runValidate (input : Option Text.Bytes) (fs : FileTree) (argument : Option Word) : Report :=
  match expression input fs argument with
  | .error (.file cause) => Report.fail fs cause.message
  | .error e => Report.crash fs e
  | .ok w =>
    let judged : Logged Failure Verdict := FilterSet.validate w.reading
    Report.after judged.events <| match judged.outcome with
      | .error e => Report.crash fs e
      | .ok verdict =>
        let ending := match verdict with
          | .valid _ => .success
          | .invalid _ => .failure
        if isPrintable w then { ending, out := echoJson verdict.toValue, files := fs }
        else Report.crash fs .unwritable

/-- Writes the default settings; what stands at the path is kept unless `force`. -/
def runInitConfig (fs : FileTree) (argument : Option Text) (force : Bool) : Report :=
  let path := (argument.map Path.ofText).getD (Settings.userPath fs)
  let written : Except Failure (Option (Location × FileTree)) := do
    let occupied := (← fs.find? (← fs.expand path)).isSome
    if occupied && !force then .ok none else (Settings.writeDefault path fs).map some
  match written with
  | .error e => Report.crash fs e
  | .ok none => Report.fail fs (path.text ++ " already exists (use --force to overwrite)".toList)
  | .ok (some (l, after)) => Report.print after (Console.message "✓ 配置已写入:" l.text)

def run (s : Settings) (input : Option Text.Bytes) (fs : FileTree) : Command → Report
  | .decode expression format strict => runDecode s input fs expression format strict
  | .encode source legacy => runEncode s input fs source legacy
  | .validate expression => runValidate input fs expression
  | .comparators => Report.print fs comparatorTable
  | .initConfig path force => runInitConfig fs path force

/-- The report of a command line that gives no command. -/
def refused (fs : FileTree) : Refusal → Report
  | .misuse => { ending := .misuse, err := usage, files := fs }
  | .help => Report.print fs usage
  | .unusablePath => Report.crash fs .unusablePath

end Command

namespace Invocation

def settingsLabel : Text := "配置文件错误: ".toList

/-- Errors in a settings document are told, others break the run off. -/
def settingsFailed (fs : FileTree) (e : Failure) : Report :=
  match e with
  | .unknownFormat _ | .malformedSettings | .integerTooLong | .notUtf8 =>
    Report.fail fs (settingsLabel ++ e.message)
  | _ => Report.crash fs e

/-- The settings of a run; the level on the command line wins unless it is empty. -/
def settings (shared : Shared) (i : Invocation) : Except Failure Settings := do
  let s ← Settings.load (shared.config.map Path.ofText) (Settings.pathOf? i.environment) i.files
  match shared.logLevel with
  | none | some [] => .ok s
  | some level => .ok { s with logLevel := level.upper }

def openLog (now : Moment) (s : Settings) (fs : FileTree) : Except Failure (Option Path × FileTree) :=
  match s.logPath? with
  | none => .ok (none, fs)
  | some pattern => do
    let p ← LogFile.path now pattern fs
    (LogFile.create p fs).map fun fs => (some p, fs)

/-- The command of a run under its settings, with the log set up first. -/
def runLogged (s : Settings) (level : Level) (shared : Shared) (i : Invocation) : Report :=
  match openLog i.now s i.files with
  | .error e => Report.crash i.files e
  | .ok (log, fs) =>
    let report := match Command.ofWords shared.command shared.words with
      | .error refusal => Command.refused fs refusal
      | .ok command => command.run s i.input fs
    let report := report.after [.ready s.logLevel s.logPath?]
    { report with
      events := report.eventsFrom level
      files := match log with
        | none => report.files
        | some p => LogFile.append p report.events report.files }

/-- The whole run on some words, which need not be texts; the events of the report are those that
the console shows. -/
def runOn (words : List Word) (i : Invocation) : Report :=
  match Command.shared words with
  | .error refusal => Command.refused i.files refusal
  | .ok shared =>
    match settings shared i with
    | .error e => settingsFailed i.files e
    | .ok s =>
      match Level.ofName? s.logLevel with
      | none => Report.crash i.files .unknownLevel
      | some level => runLogged s level shared i

def run (i : Invocation) : Report :=
  i.runOn (i.words.map .text)

end Invocation

end FilterWire
