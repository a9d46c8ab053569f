import FilterWire.Proofs.Draft.Document
import FilterWire.Proofs.Text.Case
import FilterWire.Settings.Basic

/-!
# Runs of changes to settings

Every change normalises all settings, not only those that it names. Settings
that are normal already stay as they are, so a change that succeeds alters
what it names, and one that fails alters nothing.
-/

namespace FilterWire

theorem Value.textOr_eq_ok_iff {v : Value} {failure : Failure} {t : Text} :
    v.textOr failure = .ok t ↔ v.IsText ∧ v.display = t := by
  cases v with
  | str t' => simp [textOr, IsText, display]
  | unpaired codes => simp [textOr, IsText]
  | _ => exact iff_of_false (by rintro ⟨⟩) fun h => h.1.elim

namespace OutputFormat

theorem ofName?_eq_some_iff {t : Text} {f : OutputFormat} : ofName? t = some f ↔ t = f.name := by
  constructor
  · intro h
    rw [ofName?] at h
    split at h
    case isTrue ht =>
        obtain rfl := Option.some.inj h
        exact ht
    case isFalse =>
        split at h
        case isTrue ht =>
            obtain rfl := Option.some.inj h
            exact ht
        case isFalse => cases h
  · rintro rfl
    cases f <;> rfl

theorem lower_name (f : OutputFormat) : f.name.lower = f.name := by
  cases f <;> rfl

theorem exists_name_eq_iff {t : Text} :
    (∃ f : OutputFormat, t = f.name) ↔ t = "json".toList ∨ t = "table".toList := by
  constructor
  · rintro ⟨f, rfl⟩
    cases f
    · exact Or.inl rfl
    · exact Or.inr rfl
  · rintro (rfl | rfl)
    · exact ⟨json, rfl⟩
    · exact ⟨table, rfl⟩

end OutputFormat

namespace Settings

/-- The format is one of two, the level is in upper case, and an empty log file is none. -/
structure IsNormal (s : Settings) : Prop where
  format : s.format.name = "json".toList ∨ s.format.name = "table".toList
  level : s.logLevel.upper = s.logLevel
  file : s.logFile = .null ∨ s.logFile.truth = true

variable {legacy strict level file format : Value} {s next : Settings}
  {changes : List (Text × Value)}

/-! ## One change -/

theorem ofValues_eq_ok_iff : ofValues legacy strict level file format = .ok s ↔
    level.IsText ∧ format.IsText ∧ ∃ f : OutputFormat, format.display.lower = f.name ∧
      s = ⟨legacy, strict, level.display.upper, if file.truth then file else .null, f⟩ := by
  simp only [ofValues, bind_eq_ok_iff, Value.textOr_eq_ok_iff]
  constructor
  · rintro ⟨_, ⟨hlevel, rfl⟩, _, ⟨hformat, rfl⟩, h⟩
    split at h
    case h_1 => cases h
    case h_2 f hname =>
        exact ⟨hlevel, hformat, f, OutputFormat.ofName?_eq_some_iff.mp hname,
          (Except.ok.inj h).symm⟩
  · rintro ⟨hlevel, hformat, f, hname, rfl⟩
    refine ⟨_, ⟨hlevel, rfl⟩, _, ⟨hformat, rfl⟩, ?_⟩
    rw [OutputFormat.ofName?_eq_some_iff.mpr hname]

theorem isNormal_of_ofValues (h : ofValues legacy strict level file format = .ok s) :
    s.IsNormal := by
  obtain ⟨-, -, f, -, rfl⟩ := ofValues_eq_ok_iff.mp h
  refine ⟨OutputFormat.exists_name_eq_iff.mp ⟨f, rfl⟩, Text.upper_upper _, ?_⟩
  dsimp only
  split
  case isTrue hfile => exact Or.inr hfile
  case isFalse => exact Or.inl rfl

theorem update_eq_ok_iff : update changes s = .ok next ↔ (∀ e ∈ changes, e.1 ∈ keys) ∧
    ofValues ((changes.lookup legacyKey).getD s.legacy) ((changes.lookup strictKey).getD s.strict)
      ((changes.lookup levelKey).getD (.str s.logLevel))
      ((changes.lookup fileKey).getD s.logFile)
      ((changes.lookup formatKey).getD (.str s.format.name)) = .ok next := by
  have hknown : (changes.any fun e => !keys.contains e.1) = false ↔ ∀ e ∈ changes, e.1 ∈ keys := by
    simp
  rw [update]
  split
  case isTrue hunknown =>
      refine iff_of_false (by rintro ⟨⟩) fun h => ?_
      rw [hknown.mpr h.1] at hunknown
      cases hunknown
  case isFalse h =>
      have hall : ∀ e ∈ changes, e.1 ∈ keys := hknown.mp (Bool.eq_false_iff.mpr h)
      exact ⟨fun hvalues => ⟨hall, hvalues⟩, And.right⟩

theorem isNormal_of_update (h : update changes s = .ok next) : next.IsNormal :=
  isNormal_of_ofValues (update_eq_ok_iff.mp h).2

theorem IsNormal.file_eq (hs : s.IsNormal) :
    (if s.logFile.truth then s.logFile else .null) = s.logFile := by
  rcases hs.file with hfile | hfile
  · rw [hfile]
    rfl
  · rw [if_pos hfile]

/-- The fields of settings under their names. -/
theorem field_toValue (s : Settings) :
    s.toValue.field legacyKey = .ok s.legacy ∧ s.toValue.field strictKey = .ok s.strict ∧
      s.toValue.field levelKey = .ok (.str s.logLevel) ∧
      s.toValue.field fileKey = .ok s.logFile ∧
      s.toValue.field formatKey = .ok (.str s.format.name) :=
  ⟨rfl, rfl, rfl, rfl, rfl⟩

/-- A field that a change does not name is normal already, and stays. -/
theorem field_of_update (hs : s.IsNormal) (h : update changes s = .ok next) {k : Text}
    (hk : k ∈ keys) (hnone : changes.lookup k = none) :
    next.toValue.field k = s.toValue.field k := by
  obtain ⟨-, -, f, hname, rfl⟩ := ofValues_eq_ok_iff.mp (update_eq_ok_iff.mp h).2
  obtain ⟨hlegacy, hstrict, hlevel, hfile, hformat⟩ := field_toValue s
  simp only [keys, List.mem_cons, List.not_mem_nil, or_false] at hk
  rcases hk with rfl | rfl | rfl | rfl | rfl
  · rw [(field_toValue _).1, hlegacy, hnone, Option.getD_none]
  · rw [(field_toValue _).2.1, hstrict, hnone, Option.getD_none]
  · rw [(field_toValue _).2.2.1, hlevel, hnone, Option.getD_none, Value.display, hs.level]
  · rw [(field_toValue _).2.2.2.1, hfile, hnone, Option.getD_none, hs.file_eq]
  · rw [hnone, Option.getD_none, Value.display, OutputFormat.lower_name] at hname
    rw [(field_toValue _).2.2.2.2, hformat, hname]

theorem update_nil (hs : s.IsNormal) : update [] s = .ok s := by
  refine update_eq_ok_iff.mpr ⟨by simp, ofValues_eq_ok_iff.mpr
    ⟨trivial, trivial, s.format, OutputFormat.lower_name s.format, ?_⟩⟩
  change s = ⟨s.legacy, s.strict, s.logLevel.upper,
    if s.logFile.truth then s.logFile else .null, s.format⟩
  rw [hs.level, hs.file_eq]

/-- With texts for the level and the format, only an unknown field or an unknown format is
refused. -/
theorem exists_update_iff (hlevel : ((changes.lookup levelKey).getD (.str s.logLevel)).IsText)
    (hformat : ((changes.lookup formatKey).getD (.str s.format.name)).IsText) :
    (∃ next, update changes s = .ok next) ↔ (∀ e ∈ changes, e.1 ∈ keys) ∧
      ∃ f : OutputFormat,
        ((changes.lookup formatKey).getD (.str s.format.name)).display.lower = f.name := by
  simp only [update_eq_ok_iff, ofValues_eq_ok_iff]
  constructor
  · rintro ⟨next, hknown, -, -, f, hname, -⟩
    exact ⟨hknown, f, hname⟩
  · rintro ⟨hknown, f, hname⟩
    exact ⟨_, hknown, hlevel, hformat, f, hname, rfl⟩

/-! ## A run of changes -/

/-- The settings from which the next change starts: the last ones among some outcomes, or those
before them all. -/
def lastGood (s : Settings) (outcomes : List (Except Failure Settings)) : Settings :=
  outcomes.foldl (fun s outcome => outcome.toOption.getD s) s

theorem run_cons (s : Settings) (changes : List (Text × Value))
    (rest : List (List (Text × Value))) : run s (changes :: rest) =
      update changes s :: run (lastGood s [update changes s]) rest := by
  rw [run]
  cases update changes s <;> rfl

theorem run_append (s : Settings) (before rest : List (List (Text × Value))) :
    run s (before ++ rest) = run s before ++ run (lastGood s (run s before)) rest := by
  induction before generalizing s with
  | nil => rfl
  | cons changes before ih =>
      rw [List.cons_append, run_cons, run_cons, ih, List.cons_append]
      rfl

/-- What every change preserves holds of all settings on the way, and of the last ones. -/
theorem run_invariant {P : Settings → Prop}
    (hstep : ∀ changes s next, P s → update changes s = .ok next → P next) (hs : P s)
    (steps : List (List (Text × Value))) :
    (∀ t, .ok t ∈ run s steps → P t) ∧ P (lastGood s (run s steps)) := by
  induction steps generalizing s with
  | nil => exact ⟨by simp [run], hs⟩
  | cons changes steps ih =>
      have hnext : P (lastGood s [update changes s]) := by
        cases h : update changes s with
        | error e => exact hs
        | ok next => exact hstep changes s next hs h
      obtain ⟨hall, hlast⟩ := ih hnext
      rw [run_cons]
      refine ⟨fun t ht => ?_, hlast⟩
      rcases List.mem_cons.mp ht with hhead | ht
      · rw [← hhead] at hnext
        exact hnext
      · exact hall t ht

theorem isNormal_of_run (hs : s.IsNormal) (steps : List (List (Text × Value))) :
    (∀ t, .ok t ∈ run s steps → t.IsNormal) ∧ (lastGood s (run s steps)).IsNormal :=
  run_invariant (fun _ _ _ _ h => isNormal_of_update h) hs steps

/-- All settings on the way are normal. A change starts from the last settings before it; if it
fails, the next one starts from there too, and otherwise from the changed settings, which differ in
named fields only. With texts for the level and the format, a change fails just if the format is
unknown or it names an unknown field. -/
theorem run_changes {initial : List (Text × Value)} {first : Settings}
    (h : update initial default = .ok first) (steps : List (List (Text × Value))) :
    (∀ t, .ok t ∈ .ok first :: run first steps → t.IsNormal) ∧
    ∀ before changes rest, steps = before ++ changes :: rest →
      let s := lastGood first (run first before)
      let level := (changes.lookup levelKey).getD (.str s.logLevel)
      let format := (changes.lookup formatKey).getD (.str s.format.name)
      (∀ e, update changes s = .error e →
        run first steps = run first before ++ .error e :: run s rest) ∧
      (∀ next, update changes s = .ok next →
        run first steps = run first before ++ .ok next :: run next rest ∧
        ∀ k ∈ keys, changes.lookup k = none → next.toValue.field k = s.toValue.field k) ∧
      (changes = [] → update changes s = .ok s) ∧
      (level.IsText → format.IsText → ((∃ e, update changes s = .error e) ↔
        (format.display.lower ≠ "json".toList ∧ format.display.lower ≠ "table".toList) ∨
          ∃ e ∈ changes, e.1 ∉ keys)) := by
  have hfirst : first.IsNormal := isNormal_of_update h
  constructor
  · intro t ht
    rcases List.mem_cons.mp ht with hhead | ht
    · obtain rfl := Except.ok.inj hhead
      exact hfirst
    · exact (isNormal_of_run hfirst steps).1 t ht
  · rintro before changes rest rfl
    intro s level format
    have hs : s.IsNormal := (isNormal_of_run hfirst before).2
    have hrun : run first (before ++ changes :: rest) =
        run first before ++ update changes s :: run (lastGood s [update changes s]) rest := by
      rw [run_append, run_cons]
    refine ⟨fun e he => ?_, fun next hnext => ⟨?_, fun k hk hnone => ?_⟩, ?_,
      fun hlevel hformat => ?_⟩
    · rw [hrun, he]
      rfl
    · rw [hrun, hnext]
      rfl
    · exact field_of_update hs hnext hk hnone
    · rintro rfl
      exact update_nil hs
    · rw [exists_eq_error_iff, exists_update_iff hlevel hformat, OutputFormat.exists_name_eq_iff,
        not_and_or, not_or, or_comm, not_forall]
      simp only [Classical.not_imp, ne_eq, format]

/-- A ligature in the level, then an unknown format, a known one together with a log file, and a
level of the wrong type. -/
theorem run_changes_of_mixed_steps :
    let initial : List (Text × Value) := [(levelKey, .str "ﬁne".toList), (fileKey, .int 0)]
    let first : Settings := ⟨.bool true, .bool false, "FINE".toList, .null, .json⟩
    let next : Settings := ⟨.bool true, .bool false, "FINE".toList, .str "a.log".toList, .table⟩
    let unknown : List (Text × Value) := [(formatKey, .str "XML".toList)]
    let known : List (Text × Value) :=
      [(formatKey, .str "TABLE".toList), (fileKey, .str "a.log".toList)]
    let wrong : List (Text × Value) := [(levelKey, .int 3)]
    update initial default = .ok first ∧ lastGood first (run first [unknown]) = first ∧
      update known first = .ok next ∧
      run first [unknown, known, wrong] = run first [unknown] ++ .ok next :: run next [wrong] ∧
      (∀ k ∈ keys, known.lookup k = none → next.toValue.field k = first.toValue.field k) ∧
      ∃ e, update unknown first = .error e := by
  intro initial first next unknown known wrong
  have hfirst : update initial default = .ok first := by rfl
  have hlast : lastGood first (run first [unknown]) = first := by rfl
  have hnext : update known first = .ok next := by rfl
  obtain ⟨-, hsteps⟩ := run_changes hfirst [unknown, known, wrong]
  obtain ⟨-, hok, -, -⟩ := hsteps [unknown] known [wrong] rfl
  rw [hlast] at hok
  obtain ⟨hrun, hkept⟩ := hok next hnext
  obtain ⟨-, -, -, hrefused⟩ := hsteps [] unknown [known, wrong] rfl
  exact ⟨hfirst, hlast, hnext, hrun, hkept,
    (hrefused trivial trivial).mpr (Or.inl ⟨by decide, by decide⟩)⟩

end Settings

end FilterWire
