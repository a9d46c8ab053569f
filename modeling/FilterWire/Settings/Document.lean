import FilterWire.Settings.Basic
import FilterWire.Toml.Reader

/-!
# Settings documents

Settings as a document of three sections, and the document that stands for the default.
-/

namespace FilterWire.Settings

def defaultDocument : Text :=
  "
[codec]
legacy_string_tokens = true
strict = false

[logging]
level = \"WARNING\"
file = \"\"

[output]
format = \"json\"
".toList

/-- The section under a key; an absent one is empty, and only tables are sections. -/
def section? (key : Text) (root : Entries) : Except Failure Entries :=
  match Value.valueAt? key root with
  | none => .ok []
  | some (.dict entries) => .ok entries
  | some _ => .error .unsupported

/-- The settings in a document, whose texts have no surrogates to lose. -/
def ofEntries (root : Entries) : Except Failure Settings := do
  let codec ← section? "codec".toList root
  let logging ← section? "logging".toList root
  let output ← section? "output".toList root
  let file := (Value.valueAt? "file".toList logging).getD .null
  ofValues
    (.bool ((Value.valueAt? legacyKey codec).getD (.bool true)).truth)
    (.bool ((Value.valueAt? strictKey codec).getD (.bool false)).truth)
    (.str ((Value.valueAt? "level".toList logging).getD (.str "WARNING".toList)).display)
    (.str (if file.truth then file.display else []))
    (.str ((Value.valueAt? "format".toList output).getD (.str "json".toList)).display)

def ofDocument (t : Text) : Except Failure Settings :=
  match Toml.read t with
  | .error .malformed => .error .malformedSettings
  | .error .integerTooLong => .error .integerTooLong
  | .ok root => ofEntries root

end FilterWire.Settings
