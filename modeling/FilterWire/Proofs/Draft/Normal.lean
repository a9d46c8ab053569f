import FilterWire.Proofs.Draft.BreakOff
import FilterWire.Proofs.Text.Case

/-!
# Reading a document brings it into one form

Whatever document a draft was read from, the draft is in the form that its
own document gives back: upper case, truth values and converted queries stay
as they are. A key spelled with underscores counts only without the other
spelling of it.
-/

namespace FilterWire

namespace Entry

/-- What was read as an entry has its query converted. -/
theorem hasTextQuery_of_ofValue {v : Value} {e : Entry} (h : ofValue v = .ok e) :
    e.HasTextQuery := by
  rcases ofValue_eq_ok h with ⟨-, rfl⟩ | ⟨-, field, option, query, -, -, -, rfl⟩
  · trivial
  · exact Value.isText_toText query

end Entry

namespace FilterDraft

variable {es es' : Entries} {d : FilterDraft}

theorem upperMode_upperMode (v : Value) : upperMode (upperMode v) = upperMode v := by
  cases v with
  | str t => exact congrArg Value.str t.upper_upper
  | unpaired codes => exact congrArg Value.unpaired (Text.upperCodes_upperCodes codes)
  | _ => rfl

/-! ## The draft of a document -/

theorem isNormal_withEntries (es : Entries) {entries : List Entry}
    (h : ∀ e ∈ entries, e.HasTextQuery) : (withEntries es entries).IsNormal where
  mode := upperMode_upperMode _
  absent := ⟨_, rfl⟩
  entries := h

/-- Filters are read as entries, one by one, or there are none. -/
theorem exists_entries_of_ofEntries (h : ofEntries es = .ok d) :
    ∃ (vs : List Value) (entries : List Entry), vs.mapM Entry.ofValue = .ok entries ∧
      d = withEntries es entries := by
  rw [ofEntries_eq] at h
  cases hvs : (if (filtersOf es).truth then elements (filtersOf es) else .ok []) with
  | error e =>
      rw [hvs] at h
      cases h
  | ok vs =>
      rw [hvs] at h
      obtain ⟨entries, hread, hd⟩ := map_eq_ok_iff.mp h
      exact ⟨vs, entries, hread, hd.symm⟩

theorem isNormal_of_ofEntries (h : ofEntries es = .ok d) : d.IsNormal := by
  obtain ⟨vs, entries, hread, rfl⟩ := exists_entries_of_ofEntries h
  refine isNormal_withEntries es fun e he => ?_
  obtain ⟨v, -, hv⟩ := exists_of_mem_mapM hread he
  exact Entry.hasTextQuery_of_ofValue hv

theorem isNormal_of_ofValue {v : Value} (h : ofValue v = .ok d) : d.IsNormal := by
  cases v with
  | dict es => exact isNormal_of_ofEntries h
  | _ => cases h

/-! ## The other spelling -/

/-- The document with its mode and its flag under the keys with underscores. -/
def otherDocument (mode absent : Value) (items : List Value) : Entries :=
  [(otherModeKey, mode), (otherAbsentKey, absent), (filtersKey, .list items)]

theorem ofEntries_otherDocument (mode absent : Value) (items : List Value) :
    ofEntries (otherDocument mode absent items) =
      (items.mapM Entry.ofValue).map (⟨upperMode mode, .bool absent.truth, ·⟩) := by
  cases items <;> rfl

theorem pick_congr {key other : Text} (default : Value)
    (hkey : Value.valueAt? key es' = Value.valueAt? key es)
    (hother : Value.valueAt? key es = none →
      Value.valueAt? other es' = Value.valueAt? other es) :
    pick key other default es' = pick key other default es := by
  rw [pick, pick, hkey]
  cases h : Value.valueAt? key es with
  | none => rw [hother h]
  | some v => rfl

theorem valueAt?_setKey_of_ne {key other : Text} (h : key ≠ other) (v : Value) (es : Entries) :
    Value.valueAt? key (Value.setKey other v es) = Value.valueAt? key es := by
  have hkey : (EntryKey.text key == EntryKey.text other) = false := by simpa using h
  rw [Value.setKey]
  induction es with
  | nil => simp [Dictionary.set, Value.valueAt?, List.lookup_cons, List.lookup_nil, hkey]
  | cons e es ih =>
      obtain ⟨k, u⟩ := e
      rw [Dictionary.set]
      split
      case isTrue heq => simp [Value.valueAt?, List.lookup_cons, heq, hkey]
      case isFalse =>
          simp only [Value.valueAt?, List.lookup_cons] at ih ⊢
          rw [ih]

/-- A key with underscores beside the other spelling of it. -/
def Overruled (es : Entries) (key : Text) : Prop :=
  key = otherModeKey ∧ (Value.valueAt? modeKey es).isSome ∨
    key = otherAbsentKey ∧ (Value.valueAt? absentKey es).isSome

/-- Documents that differ at nothing but overruled keys are read alike. -/
theorem ofEntries_congr
    (h : ∀ key, ¬ Overruled es key → Value.valueAt? key es' = Value.valueAt? key es) :
    ofEntries es' = ofEntries es := by
  have hkey : ∀ key, key ≠ otherModeKey → key ≠ otherAbsentKey →
      Value.valueAt? key es' = Value.valueAt? key es := by
    intro key hmode habsent
    apply h
    rintro (⟨heq, -⟩ | ⟨heq, -⟩)
    · exact hmode heq
    · exact habsent heq
  have hmode : pick modeKey otherModeKey (.str Mode.and.word) es' =
      pick modeKey otherModeKey (.str Mode.and.word) es := by
    refine pick_congr _ (hkey _ (by decide) (by decide)) fun hnone => h _ ?_
    rintro (⟨-, hsome⟩ | ⟨heq, -⟩)
    · simp [hnone] at hsome
    · exact absurd heq (by decide)
  have habsent : pick absentKey otherAbsentKey (.bool false) es' =
      pick absentKey otherAbsentKey (.bool false) es := by
    refine pick_congr _ (hkey _ (by decide) (by decide)) fun hnone => h _ ?_
    rintro (⟨heq, -⟩ | ⟨-, hsome⟩)
    · exact absurd heq (by decide)
    · simp [hnone] at hsome
  have hfilters : filtersOf es' = filtersOf es := by
    rw [filtersOf, filtersOf, hkey _ (by decide) (by decide)]
  have hentries : withEntries es' = withEntries es := by
    funext entries
    rw [withEntries, withEntries, hmode, habsent]
  rw [ofEntries_eq, ofEntries_eq, hfilters, hentries]

/-- A filter set with texts for queries comes back from its document in either spelling. A draft
that was read from any document comes back from its own, and what stands under a key with
underscores does not matter beside the other spelling of it. -/
theorem document_restored :
    (∀ (d : FilterDraft) (mode : Option Mode) (absent : Bool),
      d.mode = Value.ofOption (fun m => .str m.word) mode → d.absent = .bool absent →
      (∀ e ∈ d.entries, e.HasTextQuery) →
      ofValue d.toValue = .ok d ∧
        ofValue (.dict (otherDocument d.mode d.absent (d.entries.map (·.toValue)))) = .ok d) ∧
    (∀ v d, ofValue v = .ok d → ofValue d.toValue = .ok d) ∧
    ∀ es es', (∀ key, ¬ Overruled es key → Value.valueAt? key es' = Value.valueAt? key es) →
      ofValue (.dict es') = ofValue (.dict es) := by
  refine ⟨fun d mode absent hmode habsent hentries => ?_, fun v d h => ?_, fun es es' h => ?_⟩
  · have hnormal : d.IsNormal :=
      ⟨by rw [hmode, upperMode_ofOption], ⟨absent, habsent⟩, hentries⟩
    refine ⟨hnormal.ofValue_toValue, ?_⟩
    rw [ofValue, ofEntries_otherDocument]
    exact hnormal.map_ofValue
  · exact (isNormal_of_ofValue h).ofValue_toValue
  · exact ofEntries_congr h

/-- A number for a field, beside a hole; then a mode whose upper case is longer, a flag that counts
as true, a query that is no text, and a null that wins over the other spelling. -/
theorem document_restored_of_loose_document :
    let entries : List Entry := [.hole, .condition ⟨.int 5, .null, .str "q".toList⟩]
    let loose : Entries := [(.text modeKey, .str "oß".toList), (.text absentKey, .null),
      (.text otherAbsentKey, .int 3), (.text filtersKey, .list [.null, .dict
        [(.text "query".toList, .list [.null]), (.text "field".toList, .bool true),
          (.text "option".toList, .null)]])]
    let read : FilterDraft := ⟨.str "OSS".toList, .bool false,
      [.hole, .condition ⟨.bool true, .null, .str "[None]".toList⟩]⟩
    ofValue (.dict (otherDocument .null (.bool true) (entries.map (·.toValue)))) =
        .ok ⟨.null, .bool true, entries⟩ ∧
      ofValue (.dict loose) = .ok read ∧ ofValue read.toValue = .ok read ∧
      ofValue (.dict (Value.setKey otherAbsentKey (.bool true) loose)) = .ok read := by
  intro entries loose read
  obtain ⟨hset, hdocument, hspelling⟩ := document_restored
  have hentries : ∀ e ∈ entries, e.HasTextQuery := by
    intro e he
    rcases List.mem_cons.mp he with rfl | he
    · trivial
    · obtain rfl := List.mem_singleton.mp he
      trivial
  have hloose : ofValue (.dict loose) = .ok read := by rfl
  obtain ⟨-, hother⟩ := hset ⟨.null, .bool true, entries⟩ none true rfl rfl hentries
  refine ⟨hother, hloose, hdocument _ _ hloose, ?_⟩
  rw [hspelling loose, hloose]
  intro key hkey
  refine valueAt?_setKey_of_ne ?_ _ loose
  rintro rfl
  exact hkey (Or.inr ⟨rfl, rfl⟩)

end FilterDraft

end FilterWire
