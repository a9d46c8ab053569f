import FilterWire.Value.EntryKey

/-!
# Command lines

The options that every command shares, the commands with their own options and arguments, and how a
row of words is read as one of them.  Words that stand for themselves keep unpaired surrogates; in
names, values of options and paths these are lost.
-/

namespace FilterWire

/-- A word of a command line.  Like a key, it need not be a text. -/
abbrev Word := EntryKey

inductive Switch
  | help
  | config
  | logLevel
  | format
  | strict
  | lenient
  | legacy
  | noLegacy
  | force
  deriving DecidableEq

namespace Switch

def longName : Switch → Text
  | help => "--help".toList
  | config => "--config".toList
  | logLevel => "--log-level".toList
  | format => "--format".toList
  | strict => "--strict".toList
  | lenient => "--lenient".toList
  | legacy => "--legacy".toList
  | noLegacy => "--no-legacy".toList
  | force => "--force".toList

def shortName : Switch → Option Char
  | config => some 'c'
  | format => some 'f'
  | _ => none

def takesValue : Switch → Bool
  | config | logLevel | format => true
  | _ => false

end Switch

/-- Why no command comes out of a row of words. -/
inductive Refusal
  | misuse
  | help
  /-- A path holds a character that no path may hold. -/
  | unusablePath
  deriving DecidableEq

inductive Command
  | decode (expression : Option Word) (format : Option Text) (strict : Option Bool)
  | encode (source : Word) (legacy : Option Bool)
  | validate (expression : Option Word)
  | comparators
  | initConfig (path : Option Text) (force : Bool)

/-- The options in front of a command, and the words from the command on. -/
structure Shared where
  config : Option Text
  logLevel : Option Text
  command : Text
  words : List Word

namespace Command

/-- A word with a hyphen in front is an option; the hyphen alone is not. -/
def isOption (word : Text) : Bool :=
  match word with
  | '-' :: _ :: _ => true
  | _ => false

/-- The option of a word, and the value attached to it: after an equals sign for a long name, right
after the letter for a short one. -/
def option? (allowed : List Switch) (word : Text) : Option (Switch × Option Text) :=
  match word with
  | '-' :: '-' :: _ =>
    match Text.cut? ['='] word with
    | some (name, value) =>
      (allowed.find? fun s => s.longName = name).map fun s => (s, some value)
    | none => (allowed.find? fun s => s.longName = word).map fun s => (s, none)
  | '-' :: letter :: rest =>
    (allowed.find? fun s => s.shortName = some letter).map fun s =>
      (s, if rest.isEmpty then none else some rest)
  | _ => none

/-- The options in order with their values, and the other words.  After two hyphens there are no
more options; without `mixed` there are none after the first other word. -/
def scan (allowed : List Switch) (mixed : Bool) :
    List Word → Except Refusal (List (Switch × Text) × List Word)
  | [] => .ok ([], [])
  | word :: words =>
    if word.reading = ['-', '-'] then .ok ([], words)
    else if !isOption word.reading then
      if mixed then (scan allowed mixed words).map fun (options, rest) => (options, word :: rest)
      else .ok ([], word :: words)
    else match option? allowed word.reading with
      | none => .error .misuse
      | some (s, attached) =>
        if !s.takesValue then
          if attached.isSome then .error .misuse
          else (scan allowed mixed words).map fun (options, rest) => ((s, []) :: options, rest)
        else match attached with
          | some value =>
            (scan allowed mixed words).map fun (options, rest) => ((s, value) :: options, rest)
          | none => match words with
            | [] => .error .misuse
            | value :: words =>
              (scan allowed mixed words).map fun (options, rest) =>
                ((s, value.reading) :: options, rest)

def last? (options : List (Switch × Text)) (s : Switch) : Option Text :=
  (options.reverse.find? fun o => o.1 = s).map (·.2)

def lastOf? (options : List (Switch × Text)) (on off : Switch) : Option Bool :=
  (options.reverse.find? fun o => o.1 = on ∨ o.1 = off).map fun o => o.1 = on

def isGiven (options : List (Switch × Text)) (s : Switch) : Bool :=
  options.any fun o => o.1 = s

def usable (path : Option Text) : Except Refusal (Option Text) :=
  if path.any (·.contains '\x00') then .error .unusablePath else .ok path

def argument? : List Word → Except Refusal (Option Word)
  | [] => .ok none
  | [word] => .ok (some word)
  | _ => .error .misuse

def names : List Text :=
  ["decode", "encode", "validate", "comparators", "init-config"].map (·.toList)

def usage : Text :=
  "Usage: [--config PATH] [--log-level LEVEL] COMMAND

Commands:
  decode [EXPRESSION] [--format json|table] [--strict | --lenient]
  encode SOURCE [--legacy | --no-legacy]
  validate [EXPRESSION]
  comparators
  init-config [PATH] [--force]
".toList

def sharedOptions (words : List Word) :
    Except Refusal (Option Text × List (Switch × Text) × List Word) := do
  let (options, rest) ← scan [.help, .config, .logLevel] false words
  if isGiven options .help then .error .help
  let config ← usable (last? options .config)
  .ok (config, options, rest)

/-- Reads the words up to the name of a command.  If there is an option in the place of the name,
the words from there on are judged once more. -/
def shared (words : List Word) : Except Refusal Shared := do
  let (config, options, rest) ← sharedOptions words
  match rest with
  | [] => .error .misuse
  | command :: words =>
    if names.contains command.reading then
      .ok ⟨config, last? options .logLevel, command.reading, words⟩
    else do
      let _ ← sharedOptions rest
      .error .misuse

def parts (allowed : List Switch) (words : List Word) :
    Except Refusal (List (Switch × Text) × List Word) := do
  let (options, rest) ← scan (.help :: allowed) true words
  if isGiven options .help then .error .help
  .ok (options, rest)

def ofWords (name : Text) (words : List Word) : Except Refusal Command :=
  if name = "decode".toList then do
    let (options, rest) ← parts [.format, .strict, .lenient] words
    .ok (.decode (← argument? rest) (last? options .format) (lastOf? options .strict .lenient))
  else if name = "encode".toList then do
    let (options, rest) ← parts [.legacy, .noLegacy] words
    match ← argument? rest with
    | some source => .ok (.encode source (lastOf? options .legacy .noLegacy))
    | none => .error .misuse
  else if name = "validate".toList then do
    let (_, rest) ← parts [] words
    .ok (.validate (← argument? rest))
  else if name = "comparators".toList then do
    let (_, rest) ← parts [] words
    match rest with
    | [] => .ok .comparators
    | _ => .error .misuse
  else if name = "init-config".toList then do
    let (options, rest) ← parts [.force] words
    let path ← usable (rest.head?.map (·.reading))
    let _ ← argument? rest
    .ok (.initConfig path (isGiven options .force))
  else .error .misuse

end Command

end FilterWire
