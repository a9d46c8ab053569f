import FilterWire.Command.Run
import FilterWire.Proofs.Settings.DefaultFile
import Mathlib.Data.List.TakeDrop
import Mathlib.Data.List.TakeWhile

/-!
# Runs under the default settings

Without settings of its own a run is the run of its command, apart from the
events that the console shows. Words that are no options are passed on to the
command, and texts without escape sequences are printed as they are.
-/

namespace FilterWire

namespace Command

/-! ## Words -/

theorem isOption_eq_false {word : Text} (h : word.head? ≠ some '-') : isOption word = false := by
  rcases word with _ | ⟨c, r⟩
  · rfl
  · have hc : c ≠ '-' := fun hc => h (congrArg some hc)
    rw [isOption]
    rintro c' r' hword
    exact hc (List.cons.inj hword).1

theorem scan_argument {allowed : List Switch} {word : Word} (h : word.reading.head? ≠ some '-')
    (words : List Word) : scan allowed true (word :: words) =
      (scan allowed true words).map fun p => (p.1, word :: p.2) := by
  have hend : word.reading ≠ ['-', '-'] := by
    intro hword
    rw [hword] at h
    exact h rfl
  rw [scan, if_neg hend, isOption_eq_false h]
  rfl

theorem scan_switch {allowed : List Switch} {mixed : Bool} {word : Text} {s : Switch}
    (hoption : isOption word = true) (hend : word ≠ ['-', '-'])
    (hword : option? allowed word = some (s, none)) (hs : s.takesValue = false)
    (words : List Word) : scan allowed mixed (.text word :: words) =
      (scan allowed mixed words).map fun p => ((s, []) :: p.1, p.2) := by
  rw [scan, EntryKey.reading, if_neg hend, hoption, hword]
  simp only [hs]
  rfl

theorem scan_command {allowed : List Switch} {name : Text} (h : name ∈ names)
    (words : List Word) :
    scan allowed false (.text name :: words) = .ok ([], .text name :: words) := by
  have hword : ∀ name ∈ names, name ≠ ['-', '-'] ∧ isOption name = false := by decide
  obtain ⟨hend, hoption⟩ := hword name h
  rw [scan, EntryKey.reading, if_neg hend, hoption]
  rfl

theorem shared_command {name : Text} (h : name ∈ names) (words : List Word) :
    shared (.text name :: words) = .ok ⟨none, none, name, words⟩ := by
  have hnames : names.contains name = true := List.contains_iff_mem.mpr h
  rw [shared, sharedOptions, scan_command h]
  change (if names.contains name then _ else _) = _
  rw [if_pos hnames]
  rfl

/-! ## Printed texts -/

theorem plainFrom_of_absent {t : Text} (h : '\x1b' ∉ t) (fuel : Nat) : plainFrom fuel t = t := by
  cases fuel with
  | zero => rfl
  | succ fuel =>
      have hall : ∀ c ∈ t, decide (c ≠ '\x1b') = true :=
        fun c hc => decide_eq_true fun heq => h (heq ▸ hc)
      have hspan : t.span (· ≠ '\x1b') = (t, []) := by
        rw [List.span_eq_takeWhile_dropWhile, List.takeWhile_eq_self_iff.mpr hall,
          List.dropWhile_eq_nil_iff.mpr hall]
      rw [plainFrom, hspan]

theorem echo_of_absent {t : Text} (h : '\x1b' ∉ t) : echo t = t ++ ['\n'] := by
  rw [echo, plainFrom_of_absent h]

end Command

namespace Invocation

/-- The settings that a run finds are the default ones, if no others are given. -/
def UsesDefaults (i : Invocation) : Prop :=
  Settings.load none (Settings.pathOf? i.environment) i.files = .ok .default

theorem usesDefaults_of_noFile {i : Invocation} (h : Settings.firstFile i.files
    (Settings.candidates none (Settings.pathOf? i.environment) i.files) = .ok none) :
    i.UsesDefaults := by
  rw [UsesDefaults, Settings.load, h]
  simp only [bind, Except.bind]
  exact Settings.ofDocument_default

theorem settings_of_defaults {i : Invocation} (h : i.UsesDefaults) (name : Text)
    (words : List Word) : settings ⟨none, none, name, words⟩ i = .ok .default := by
  rw [settings]
  change (Settings.load none (Settings.pathOf? i.environment) i.files >>= _) = _
  rw [h]
  rfl

/-- Under the default settings a run does what its command does. -/
theorem runOn_of_defaults {i : Invocation} (h : i.UsesDefaults) {name : Text} {words : List Word}
    {command : Command} (hname : name ∈ Command.names)
    (hcommand : Command.ofWords name words = .ok command) :
    (i.runOn (.text name :: words)).ending = (command.run .default i.input i.files).ending ∧
      (i.runOn (.text name :: words)).out = (command.run .default i.input i.files).out ∧
      (i.runOn (.text name :: words)).err = (command.run .default i.input i.files).err ∧
      (i.runOn (.text name :: words)).files = (command.run .default i.input i.files).files := by
  have hlevel : Level.ofName? Settings.default.logLevel = some .warning := by rfl
  have hlog : openLog i.now .default i.files = .ok (none, i.files) := rfl
  rw [runOn, Command.shared_command hname]
  dsimp only
  rw [settings_of_defaults h]
  dsimp only
  rw [hlevel]
  dsimp only
  rw [runLogged, hlog]
  dsimp only
  rw [hcommand]
  exact ⟨rfl, rfl, rfl, rfl⟩

theorem run_of_defaults {i : Invocation} (h : i.UsesDefaults) {name : Text} {words : List Text}
    {command : Command} (hname : name ∈ Command.names) (hwords : i.words = name :: words)
    (hcommand : Command.ofWords name (words.map .text) = .ok command) :
    i.run.ending = (command.run .default i.input i.files).ending ∧
      i.run.out = (command.run .default i.input i.files).out ∧
      i.run.err = (command.run .default i.input i.files).err ∧
      i.run.files = (command.run .default i.input i.files).files := by
  rw [run, hwords, List.map_cons]
  exact runOn_of_defaults h hname hcommand

end Invocation

end FilterWire
