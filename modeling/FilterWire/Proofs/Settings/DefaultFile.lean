import FilterWire.Proofs.Files.Tree
import FilterWire.Settings.Files

/-!
# The default settings on file

A settings file that is named wins over all other places to look for settings. If it has just been
written with the default document, it is read back as the default settings.
-/

namespace FilterWire.Settings

variable {fs fs' : FileTree} {p : Path} {l : Location}

/-- The node at a named path decides, wherever else settings may stand. -/
theorem load_of_file {bytes : Text.Bytes} {t : Text} (hp : fs.Leads p l)
    (hl : fs.get? l = some (.file bytes)) (ht : Text.ofBytes? bytes = some t)
    (environment : Option Path) : load (some p) environment fs = ofDocument t := by
  obtain ⟨q, hq, hloc⟩ := hp
  have hfile : fs.isFile q = .ok true :=
    bind_eq_ok_iff.mpr ⟨_, FileTree.find?_of_locateUsable hloc, by rw [hl]⟩
  have hfirst : firstFile fs (candidates (some p) environment fs) = .ok (some q) :=
    bind_eq_ok_iff.mpr ⟨q, hq, bind_eq_ok_iff.mpr ⟨true, hfile, rfl⟩⟩
  rw [load, hfirst]
  simp only [bind, Except.bind, FileTree.readText_of_locateUsable hloc hl ht]

/-- Whether the settings are the default ones, as a test to run. -/
def isDefault (s : Settings) : Bool :=
  match s with
  | ⟨.bool true, .bool false, level, .null, .json⟩ => level = default.logLevel
  | _ => false

theorem eq_default_of_isDefault {s : Settings} (h : s.isDefault = true) : s = default := by
  unfold isDefault at h
  split at h
  · rw [of_decide_eq_true h]
    rfl
  · cases h

/-- The default document means the default settings. -/
theorem ofDocument_default : ofDocument defaultDocument = .ok default := by
  have htest : (ofDocument defaultDocument).toOption.any isDefault = true := by
    decide +kernel
  cases hread : ofDocument defaultDocument with
  | error e =>
      rw [hread] at htest
      cases htest
  | ok s =>
      rw [hread] at htest
      rw [eq_default_of_isDefault htest]

/-- The default document has no line ends but line feeds, which are read as they are written. -/
theorem ofBytes?_default : Text.ofBytes? defaultDocument.encodeUtf8 = some defaultDocument := by
  decide +kernel

/-- What a path leads to after the default document is written there. -/
theorem writeDefault_eq_ok (h : writeDefault p fs = .ok (l, fs')) :
    fs'.Leads p l ∧ fs'.get? l = some (.file defaultDocument.encodeUtf8) ∧
      fs.AgreesExcept [l] fs' := by
  obtain ⟨q, hq, h⟩ := bind_eq_ok_iff.mp h
  obtain ⟨fs₁, hparent, h⟩ := bind_eq_ok_iff.mp h
  obtain ⟨fs₂, hwrite, h⟩ := bind_eq_ok_iff.mp h
  obtain ⟨target, htarget, hfree, rfl⟩ := FileTree.writeText_eq_ok_iff.mp hwrite
  obtain ⟨hl, rfl⟩ := Prod.mk.inj (Except.ok.inj h)
  have hfile := FileTree.agreesExcept_set_file hfree defaultDocument.encodeUtf8
  have hdirectories := (FileTree.agreesExcept_of_makeDirectory hparent).mono
    (List.nil_subset [target])
  have hkept := hdirectories.trans hfile
  have hloc := hfile.locateUsable htarget
  -- the location that is told is found by name, and the walk to the file has ended there
  have hsame : target = l := (FileTree.resolve_of_locateUsable hloc).symm.trans hl
  have hroot : target ≠ [] := by
    rintro rfl
    exact hfree rfl
  subst hsame
  exact ⟨⟨q, (hkept.expand_eq p).trans hq, hloc⟩, FileTree.get?_set_self hroot, hkept⟩

theorem load_of_writeDefault (h : writeDefault p fs = .ok (l, fs')) (environment : Option Path) :
    load (some p) environment fs' = .ok .default := by
  obtain ⟨hleads, hfile, -⟩ := writeDefault_eq_ok h
  rw [load_of_file hleads hfile ofBytes?_default, ofDocument_default]

/-- A text that names no path stands for the current directory, where no document can be written. -/
theorem load_pathOf?_of_writeDefault {t : Text} (h : writeDefault (Path.ofText t) fs = .ok (l, fs'))
    (hcurrent : fs.get? fs.current = some .directory) (environment : Option Path) :
    load (pathOf? (some t)) environment fs' = .ok .default := by
  cases t with
  | nil =>
      obtain ⟨⟨q, hq, hloc⟩, hfile, hkept⟩ := writeDefault_eq_ok h
      obtain rfl : Path.ofText [] = q := Except.ok.inj hq
      have hl : fs'.current = l := FileTree.resolve_of_locateUsable hloc
      have hdirectory := hkept.directory _ hcurrent
      rw [← hkept.current, hl, hfile] at hdirectory
      cases hdirectory
  | cons c t => exact load_of_writeDefault h environment

end FilterWire.Settings
