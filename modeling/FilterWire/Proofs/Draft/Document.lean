import FilterWire.Draft.Expression
import FilterWire.Proofs.Comparator.Registry
import FilterWire.Proofs.Logged

/-!
# Filter sets and their documents

A filter set comes back from its document, hole by hole and condition by
condition. As a draft it is written just as it is itself.
-/

namespace FilterWire

namespace Value

def IsText : Value → Prop
  | str _ | unpaired _ => True
  | _ => False

theorem isText_toText (v : Value) : v.toText.IsText := by
  cases v <;> trivial

theorem toText_eq_self {v : Value} (h : v.IsText) : v.toText = v := by
  cases v <;> first | rfl | exact h.elim

theorem display_toText (v : Value) : v.toText.display = v.display := by
  cases v <;> rfl

end Value

namespace Registry

theorem lookup_str (r : Registry) (k : Key) (t : Text) :
    r.lookup k (.str t) = match r.find? k t with
      | some c => .ok c
      | none => .error (.codec (.unknown k (.str t))) := rfl

end Registry

namespace ConditionDraft

theorem resolve_ofCondition {c : Condition} {k : Comparator}
    (h : Registry.standard.find? .label c.option = some k) : (ofCondition c).resolve = .ok c := by
  obtain ⟨-, hlabel⟩ := Registry.find?_eq_some_iff.mp h
  have hlookup : Registry.standard.lookup .label (ofCondition c).option = .ok k := by
    rw [ofCondition, Registry.lookup_str, h]
  have hoption : k.label = c.option := hlabel
  rw [resolve, hlookup]
  change Except.ok (⟨c.field, k.label, c.query⟩ : Condition) = .ok c
  rw [hoption]

/-- A condition is written like its draft. -/
theorem encode_ofCondition (legacy : Bool) (c : Condition) :
    (ofCondition c).encode legacy = (Condition.encode legacy c).mapError .codec := by
  cases h : Registry.standard.find? .label c.option with
  | none =>
      have hresolve : (ofCondition c).resolve =
          .error (.codec (.unknown .label (.str c.option))) := by
        rw [resolve, ofCondition, Registry.lookup_str, h]
        rfl
      rw [encode, hresolve, Condition.encode, h]
      rfl
  | some k => rw [encode, resolve_ofCondition h, Logged.ofExcept_bind_ok]

end ConditionDraft

namespace Entry

/-- A hole, or a condition whose query has been converted. -/
def HasTextQuery : Entry → Prop
  | hole => True
  | condition d => d.query.IsText
  | raw _ => False

theorem hasTextQuery_ofOption (f : Option Condition) : (ofOption f).HasTextQuery := by
  cases f <;> trivial

theorem ofValue_toValue {e : Entry} (h : e.HasTextQuery) : ofValue e.toValue = .ok e := by
  cases e with
  | hole => rfl
  | condition d =>
      have hquery : d.query.toText = d.query := Value.toText_eq_self h
      change Except.ok (condition { d with query := d.query.toText }) = .ok (condition d)
      rw [hquery]
  | raw v => exact h.elim

theorem ofOption_injective : Function.Injective ofOption := by
  intro f f' h
  cases f with
  | none => cases f' with
    | none => rfl
    | some c => cases h
  | some c => cases f' with
    | none => cases h
    | some c' =>
        obtain ⟨hfield, hoption, hquery⟩ := ConditionDraft.mk.inj (Entry.condition.inj h)
        obtain ⟨field, option, query⟩ := c
        cases hfield
        cases hoption
        cases hquery
        rfl

theorem encode_ofOption (legacy : Bool) (f : Option Condition) :
    (ofOption f).encode legacy = (FilterSet.encodeEntry legacy f).mapError .codec := by
  cases f with
  | none => rfl
  | some c => exact ConditionDraft.encode_ofCondition legacy c

end Entry

namespace FilterDraft

/-- The entries of a document with nothing but a mode, a flag and a list of filters. -/
def document (mode absent : Value) (items : List Value) : Entries :=
  [(modeKey, mode), (absentKey, absent), (filtersKey, .list items)]

theorem toValue_eq_document (d : FilterDraft) :
    d.toValue = .dict (document d.mode d.absent (d.entries.map (·.toValue))) := rfl

theorem ofEntries_document (mode absent : Value) (items : List Value) :
    ofEntries (document mode absent items) =
      (items.mapM Entry.ofValue).map (⟨upperMode mode, .bool absent.truth, ·⟩) := by
  cases items <;> rfl

theorem upperMode_ofOption (mode : Option Mode) :
    upperMode (Value.ofOption (fun m => .str m.word) mode) =
      Value.ofOption (fun m => .str m.word) mode := by
  rcases mode with _ | _ | _ <;> rfl

/-- A draft as a document gives it: the mode in upper case, a truth value for the flag, and queries
that are texts. -/
structure IsNormal (d : FilterDraft) : Prop where
  mode : upperMode d.mode = d.mode
  absent : ∃ b, d.absent = .bool b
  entries : ∀ e ∈ d.entries, e.HasTextQuery

namespace IsNormal

variable {d : FilterDraft}

/-- With its own mode, flag and entries a document gives the draft back. -/
theorem map_ofValue (h : d.IsNormal) : ((d.entries.map (·.toValue)).mapM Entry.ofValue).map
    (⟨upperMode d.mode, .bool d.absent.truth, ·⟩) = .ok d := by
  have hentries : (d.entries.map (·.toValue)).mapM Entry.ofValue = .ok (d.entries.map id) := by
    rw [List.mapM_map]
    exact mapM_eq_ok_map fun e he => Entry.ofValue_toValue (h.entries e he)
  have habsent : Value.bool d.absent.truth = d.absent := by
    obtain ⟨b, hb⟩ := h.absent
    rw [hb]
    rfl
  rw [hentries, List.map_id, h.mode, habsent]
  rfl

theorem ofValue_toValue (h : d.IsNormal) : ofValue d.toValue = .ok d := by
  rw [toValue_eq_document, ofValue, ofEntries_document]
  exact h.map_ofValue

end IsNormal

theorem isNormal_ofFilterSet (s : FilterSet) : (ofFilterSet s).IsNormal where
  mode := upperMode_ofOption s.mode
  absent := ⟨s.includesAbsent, rfl⟩
  entries := by
    intro e he
    obtain ⟨f, -, rfl⟩ := List.mem_map.mp he
    exact Entry.hasTextQuery_ofOption f

/-- A filter set comes back from its document. -/
theorem ofValue_toValue (s : FilterSet) :
    ofValue (ofFilterSet s).toValue = .ok (ofFilterSet s) :=
  (isNormal_ofFilterSet s).ofValue_toValue

/-- Nothing of a filter set is lost in its draft. -/
theorem ofFilterSet_injective : Function.Injective ofFilterSet := by
  intro s s' h
  obtain ⟨mode, absent, filters⟩ := s
  obtain ⟨mode', absent', filters'⟩ := s'
  obtain ⟨hmode, habsent, hfilters⟩ := FilterDraft.mk.inj h
  have hmode : mode = mode' := by
    rcases mode with _ | _ | _ <;> rcases mode' with _ | _ | _ <;> first | rfl | cases hmode
  have hfilters : filters = filters' := List.map_injective_iff.mpr Entry.ofOption_injective hfilters
  have habsent : absent = absent' := Value.bool.inj habsent
  rw [hmode, habsent, hfilters]

theorem joiner_ofFilterSet (s : FilterSet) :
    (ofFilterSet s).joiner = (s.mode.getD .and).joiner := by
  obtain ⟨mode, absent, filters⟩ := s
  rcases mode with _ | _ | _ <;> rfl

/-- What can be written has no holes, so every entry has a field. -/
theorem fields_of_calls {legacy : Bool} {fs : List (Option Condition)} {calls : List Text}
    (h : (fs.mapM fun f => (FilterSet.encodeEntry legacy f).outcome) = .ok calls) :
    ((fs.map Entry.ofOption).mapM fun e => e.field.map (·.display)) =
      .ok (fs.filterMap fun f => f.map (·.field)) := by
  induction fs generalizing calls with
  | nil => rfl
  | cons f fs ih =>
      obtain ⟨call, rest, hcall, hrest, -⟩ := mapM_cons_eq_ok_iff.mp h
      cases f with
      | none => cases hcall
      | some c => exact mapM_cons_eq_ok_iff.mpr ⟨c.field, _, rfl, ih hrest, rfl⟩

/-- A filter set is written like its draft. -/
theorem encode_ofFilterSet (legacy : Bool) (s : FilterSet) :
    (ofFilterSet s).encode legacy = (FilterSet.encode legacy s).mapError .codec := by
  have hcalls : Logged.each (Entry.encode legacy) (ofFilterSet s).entries =
      (Logged.each (FilterSet.encodeEntry legacy) s.filters).mapError .codec := by
    rw [Logged.mapError_each, ofFilterSet, Logged.each_map]
    simp only [Entry.encode_ofOption]
  rw [encode, FilterSet.encode, Logged.mapError_bind, hcalls, joiner_ofFilterSet]
  refine Logged.bind_congr fun calls h => ?_
  have hwritten :
      (s.filters.mapM fun f => (FilterSet.encodeEntry legacy f).outcome) = .ok calls := by
    rw [Logged.outcome_mapError, Logged.outcome_each] at h
    exact mapError_eq_ok_iff.mp h
  have hfields := fields_of_calls hwritten
  rw [ofFilterSet, hfields]
  rfl

end FilterDraft

end FilterWire
