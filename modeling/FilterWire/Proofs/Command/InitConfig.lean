import FilterWire.Proofs.Command.Defaults

/-!
# Writing the default settings

A run that writes the default settings keeps what already stands at their path, unless it is
forced. If it succeeds, it has changed no file but the one that it was to write.
-/

namespace FilterWire

namespace Command

variable {fs : FileTree} {argument : Option Text} {force : Bool}

/-- Where the default settings are written: at the given path, or else at that of the user. -/
def targetPath (fs : FileTree) (argument : Option Text) : Path :=
  (argument.map Path.ofText).getD (Settings.userPath fs)

theorem runInitConfig_of_occupied {l : Location} (hpath : fs.Leads (targetPath fs argument) l)
    (hl : fs.get? l ≠ none) :
    (runInitConfig fs argument false).ending.exitCode ≠ 0 ∧
      (runInitConfig fs argument false).files = fs := by
  obtain ⟨q, hq, hloc⟩ := hpath
  obtain ⟨node, hnode⟩ := Option.ne_none_iff_exists'.mp hl
  rw [targetPath] at hq
  rw [runInitConfig]
  simp only [bind, Except.bind, hq, FileTree.find?_of_locateUsable hloc, hnode]
  exact ⟨Nat.one_ne_zero, rfl⟩

theorem runInitConfig_succeeded
    (h : (runInitConfig fs argument force).ending.exitCode = 0) :
    ∃ l, Settings.writeDefault (targetPath fs argument) fs =
      .ok (l, (runInitConfig fs argument force).files) := by
  rw [runInitConfig] at h ⊢
  dsimp only at h ⊢
  split at h
  case h_1 => cases h
  case h_2 => cases h
  case h_3 l after hwritten =>
      obtain ⟨q, -, hwritten⟩ := bind_eq_ok_iff.mp hwritten
      obtain ⟨node, -, hwritten⟩ := bind_eq_ok_iff.mp hwritten
      split at hwritten
      case isTrue => cases hwritten
      case isFalse =>
          obtain ⟨result, hresult, heq⟩ := map_eq_ok_iff.mp hwritten
          obtain rfl := Option.some.inj heq
          exact ⟨l, hresult⟩

end Command

namespace Invocation

variable {i : Invocation} {shared : Shared} {command : Command}

theorem settingsFailed_failed (fs : FileTree) (e : Failure) :
    (settingsFailed fs e).ending.exitCode ≠ 0 ∧ (settingsFailed fs e).files = fs := by
  cases e <;> exact ⟨Nat.one_ne_zero, rfl⟩

/-- Without a log file a run either fails before its command and keeps the files, or it ends like
its command and leaves the files that the command leaves. -/
theorem run_of_noLog (hshared : Command.shared (i.words.map .text) = .ok shared)
    (hcommand : Command.ofWords shared.command shared.words = .ok command)
    (hlog : ∀ s, settings shared i = .ok s → s.logPath? = none) :
    (i.run.ending.exitCode ≠ 0 ∧ i.run.files = i.files) ∨
      ∃ s, i.run.ending = (command.run s i.input i.files).ending ∧
        i.run.files = (command.run s i.input i.files).files := by
  rw [run, runOn, hshared]
  dsimp only
  split
  case h_1 e _ => exact Or.inl (settingsFailed_failed i.files e)
  case h_2 s hs =>
      split
      case h_1 => exact Or.inl ⟨Nat.one_ne_zero, rfl⟩
      case h_2 level _ =>
          have hopen : openLog i.now s i.files = .ok (none, i.files) := by
            rw [openLog, hlog s hs]
          rw [runLogged, hopen, hcommand]
          exact Or.inr ⟨s, rfl, rfl⟩

/-- Writing the default document changes no other file, and loading the path where it was written
gives the default settings, whatever else there is to load. A run that does so without a log file
leaves alone what stands at its path, unless it is forced; if it succeeds, it has changed only the
file at its path. -/
theorem default_document_written :
    (∀ (p : Path) (fs fs' : FileTree) (l : Location),
      Settings.writeDefault p fs = .ok (l, fs') →
        fs'.Leads p l ∧ fs'.get? l = some (.file Settings.defaultDocument.encodeUtf8) ∧
        fs.AgreesExcept [l] fs' ∧
        (∀ environment, Settings.load (some p) environment fs' = .ok .default) ∧
        ∀ t environment, p = Path.ofText t → fs.get? fs.current = some .directory →
          Settings.load (Settings.pathOf? (some t)) environment fs' = .ok .default) ∧
    ∀ (i : Invocation) (shared : Shared) (argument : Option Text) (force : Bool),
      Command.shared (i.words.map .text) = .ok shared →
      Command.ofWords shared.command shared.words = .ok (.initConfig argument force) →
      (∀ s, settings shared i = .ok s → s.logPath? = none) →
        let p := Command.targetPath i.files argument
        (∀ l, force = false → i.files.Leads p l → i.files.get? l ≠ none →
          i.run.ending.exitCode ≠ 0 ∧ i.run.files = i.files) ∧
        (i.run.ending.exitCode = 0 → ∃ l, i.run.files.Leads p l ∧
          i.run.files.get? l = some (.file Settings.defaultDocument.encodeUtf8) ∧
          i.files.AgreesExcept [l] i.run.files) := by
  constructor
  · intro p fs fs' l h
    obtain ⟨hleads, hfile, hkept⟩ := Settings.writeDefault_eq_ok h
    refine ⟨hleads, hfile, hkept, Settings.load_of_writeDefault h, ?_⟩
    rintro t environment rfl hcurrent
    exact Settings.load_pathOf?_of_writeDefault h hcurrent environment
  · intro i shared argument force hshared hcommand hlog p
    rcases run_of_noLog hshared hcommand hlog with ⟨hfailed, hfiles⟩ | ⟨s, hending, hfiles⟩
    · exact ⟨fun _ _ _ _ => ⟨hfailed, hfiles⟩, fun h => absurd h hfailed⟩
    · rw [hending, hfiles, Command.run]
      constructor
      · rintro l rfl hleads hl
        exact Command.runInitConfig_of_occupied hleads hl
      · intro h
        obtain ⟨l, hwritten⟩ := Command.runInitConfig_succeeded h
        exact ⟨l, Settings.writeDefault_eq_ok hwritten⟩

/-- A path with a tilde and without its directories, next to other settings that the environment
may name and that are kept. -/
theorem default_document_written_of_tilde :
    let other : Location := ["work".toList, "other.toml".toList]
    let bytes := Text.encodeUtf8 "[output]\nformat = \"table\"\n".toList
    let fs : FileTree := ⟨[(["home".toList], .directory), (["work".toList], .directory),
      (other, .file bytes)], ["work".toList], ⟨['/'], ["home".toList]⟩, []⟩
    let fresh : Text := "~/a/b.toml".toList
    let given : Text := "other.toml".toList
    let i (word : Text) : Invocation :=
      ⟨["init-config".toList, word], none, none, fs, ⟨0, 0, 0, []⟩⟩
    (∃ l fs', Settings.writeDefault (Path.ofText fresh) fs = .ok (l, fs') ∧
      fs'.get? other = some (.file bytes) ∧
      Settings.load (some (Path.ofText fresh)) (some (Path.ofText given)) fs' = .ok .default) ∧
    (i fresh).run.ending.exitCode = 0 ∧
    (∃ l, (i fresh).run.files.Leads (Path.ofText fresh) l ∧
      (i fresh).run.files.get? l = some (.file Settings.defaultDocument.encodeUtf8) ∧
      fs.AgreesExcept [l] (i fresh).run.files) ∧
    (i given).run.ending.exitCode ≠ 0 ∧ (i given).run.files = fs := by
  intro other bytes fs fresh given i
  obtain ⟨hfiles, hruns⟩ := default_document_written
  have hwritten : ∃ l fs', Settings.writeDefault (Path.ofText fresh) fs = .ok (l, fs') ∧
      l = ["home".toList, "a".toList, "b.toml".toList] := ⟨_, _, rfl, rfl⟩
  obtain ⟨l, fs', hwritten, rfl⟩ := hwritten
  obtain ⟨-, -, hkept, hload, -⟩ := hfiles _ _ _ _ hwritten
  have hother : fs'.get? other = some (.file bytes) :=
    (hkept.file other (by decide) bytes).mpr rfl
  have hdefaults : ∀ word, (i word).UsesDefaults := fun word => usesDefaults_of_noFile (by rfl)
  have hlog : ∀ word s, settings ⟨none, none, "init-config".toList, [.text word]⟩ (i word) = .ok s →
      s.logPath? = none := by
    intro word s hs
    obtain rfl := Except.ok.inj ((settings_of_defaults (hdefaults word) _ _).symm.trans hs)
    rfl
  have hcommand : Command.ofWords "init-config".toList [.text fresh] =
      .ok (.initConfig (some fresh) false) := by rfl
  obtain ⟨-, hfresh⟩ := hruns (i fresh) ⟨none, none, "init-config".toList, [.text fresh]⟩
    (some fresh) false (by rfl) hcommand (hlog fresh)
  obtain ⟨hgiven, -⟩ := hruns (i given) ⟨none, none, "init-config".toList, [.text given]⟩
    (some given) false (by rfl) (by rfl) (hlog given)
  have hending : (i fresh).run.ending = (Command.runInitConfig fs (some fresh) false).ending :=
    (run_of_defaults (hdefaults fresh) (by decide) rfl hcommand).1
  have hsuccess : (i fresh).run.ending.exitCode = 0 := by
    rw [hending]
    rfl
  exact ⟨⟨_, fs', hwritten, hother, hload _⟩, hsuccess, hfresh hsuccess,
    hgiven other rfl ⟨_, rfl, rfl⟩ (by decide)⟩

end Invocation

end FilterWire
