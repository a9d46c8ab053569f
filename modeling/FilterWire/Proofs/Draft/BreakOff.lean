import FilterWire.Proofs.Condition.Transmission
import FilterWire.Proofs.Draft.Forms

/-!
# Documents that are unfit

Writing the filter set of a document succeeds or fails in terms of filter
sets, unless the first fault is a value of a type that has no place there:
filters that are no list, an entry that is neither null nor a dictionary, or
a collection for an option.
-/

namespace FilterWire

/-- Whether a failure is about filter sets: an error of the codec or a missing key. -/
def Failure.isTold : Failure → Bool
  | codec _ | missingKey _ => true
  | _ => false

namespace Value

/-- Neither null nor a dictionary. -/
def IsForeign : Value → Prop
  | null | dict _ => False
  | _ => True

def IsCollection : Value → Prop
  | list _ | dict _ => True
  | _ => False

theorem IsText.not_collection {v : Value} (h : v.IsText) : ¬ v.IsCollection := by
  intro hcollection
  cases v with
  | str t => exact hcollection
  | unpaired codes => exact hcollection
  | _ => exact h

def HasKnownOption (v : Value) : Prop :=
  ∃ t ∈ Registry.standard.labels, v.field ConditionDraft.optionKey = .ok (.str t)

def HasCollectionOption (v : Value) : Prop :=
  ∃ x, v.field ConditionDraft.optionKey = .ok x ∧ x.IsCollection

theorem HasKnownOption.not_collection {v : Value} (h : v.HasKnownOption) :
    ¬ v.HasCollectionOption := by
  obtain ⟨t, -, ht⟩ := h
  rintro ⟨x, hx, hcollection⟩
  obtain rfl := Except.ok.inj (ht.symm.trans hx)
  exact hcollection

theorem isForeign_ofCodes (codes : List Nat) : (ofCodes codes).IsForeign := by
  rw [ofCodes]
  split <;> trivial

theorem isForeign_ofKey (key : EntryKey) : (ofKey key).IsForeign := by
  cases key <;> trivial

end Value

/-! ## One entry -/

namespace ConditionDraft

/-- The keys of the three parts, in the order in which they are looked up. -/
def partKeys : List Text := [fieldKey, optionKey, queryKey]

/-- The first of the three parts that a dictionary lacks. -/
def missingKey? (es : Entries) : Option Text :=
  partKeys.find? fun key => (Value.valueAt? key es).isNone

/-- A dictionary has all three parts, or the first that it lacks is told. -/
theorem parts_or_missing (es : Entries) :
    (missingKey? es = none ∧ ∃ field option query, Value.valueAt? fieldKey es = some field ∧
      Value.valueAt? optionKey es = some option ∧ Value.valueAt? queryKey es = some query) ∨
      ∃ key, missingKey? es = some key ∧ ofParts (.dict es) = .error (.missingKey key) := by
  cases hfield : Value.valueAt? fieldKey es with
  | none =>
      refine Or.inr ⟨fieldKey, by simp [missingKey?, partKeys, hfield], ?_⟩
      rw [ofParts, Value.field, hfield]
      rfl
  | some field =>
      cases hoption : Value.valueAt? optionKey es with
      | none =>
          refine Or.inr ⟨optionKey, by simp [missingKey?, partKeys, hfield, hoption], ?_⟩
          rw [ofParts, Value.field_dict hfield, Value.field, hoption]
          rfl
      | some option =>
          cases hquery : Value.valueAt? queryKey es with
          | none =>
              refine Or.inr ⟨queryKey, by simp [missingKey?, partKeys, hfield, hoption, hquery], ?_⟩
              rw [ofParts, Value.field_dict hfield, Value.field_dict hoption, Value.field, hquery]
              rfl
          | some query =>
              have hnone : missingKey? es = none := by
                simp [missingKey?, partKeys, hfield, hoption, hquery]
              exact Or.inl ⟨hnone, field, option, query, rfl, rfl, rfl⟩

theorem resolve_of_label {d : ConditionDraft} {k : Comparator}
    (hk : k ∈ Registry.standard.comparators) (hoption : d.option = .str k.label) :
    d.resolve = .ok ⟨d.field.display, k.label, d.query.display⟩ := by
  have hfind : Registry.standard.find? .label k.label = some k :=
    Registry.find?_eq_some_iff.mpr ⟨hk, rfl⟩
  rw [resolve, hoption, Registry.lookup_str, hfind]
  rfl

/-- Any option but a collection or a registered label is told to be unknown. -/
theorem encode_of_unknown (legacy : Bool) {d : ConditionDraft}
    (hlabel : ¬ ∃ t ∈ Registry.standard.labels, d.option = .str t)
    (hcollection : ¬ d.option.IsCollection) :
    d.encode legacy = Logged.fail (.codec (.unknown .label d.option)) := by
  have hlookup : Registry.standard.lookup .label d.option =
      .error (.codec (.unknown .label d.option)) := by
    cases hoption : d.option with
    | str t =>
        cases hfind : Registry.standard.find? .label t with
        | none => rw [Registry.lookup_str, hfind]
        | some k =>
            obtain ⟨hk, rfl⟩ := Registry.find?_eq_some_iff.mp hfind
            exact absurd ⟨k.label, Registry.mem_labels_iff.mpr ⟨k, hk, rfl⟩, hoption⟩ hlabel
    | list items => exact absurd (show d.option.IsCollection by rw [hoption]; trivial) hcollection
    | dict es => exact absurd (show d.option.IsCollection by rw [hoption]; trivial) hcollection
    | _ => rfl
  rw [encode, resolve, hlookup]
  rfl

theorem outcome_encode (legacy : Bool) (d : ConditionDraft) : (d.encode legacy).outcome =
    d.resolve >>= fun c => (Condition.encode legacy c).outcome.mapError .codec := by
  rw [encode, Logged.outcome_bind]
  rfl

/-- A draft is written under a registered label, breaks off at a collection, and is refused under
any other option. -/
theorem outcome_encode_cases (legacy : Bool) (d : ConditionDraft) :
    (∃ t ∈ Registry.standard.labels, d.option = .str t) ∧
        (∃ call, (d.encode legacy).outcome = .ok call) ∨
      d.option.IsCollection ∧ (d.encode legacy).outcome = .error .unfit ∨
      (¬ ∃ t ∈ Registry.standard.labels, d.option = .str t) ∧ ¬ d.option.IsCollection ∧
        ∃ cause, (d.encode legacy).outcome = .error (.codec cause) := by
  by_cases hlabel : ∃ t ∈ Registry.standard.labels, d.option = .str t
  · obtain ⟨t, ht, hoption⟩ := hlabel
    obtain ⟨k, hk, rfl⟩ := Registry.mem_labels_iff.mp ht
    refine Or.inl ⟨⟨k.label, ht, hoption⟩, ?_⟩
    rw [outcome_encode, resolve_of_label hk hoption]
    change ∃ call, (Condition.encode legacy _).outcome.mapError Failure.codec = .ok call
    rw [Condition.outcome_encode hk rfl]
    exact ⟨_, rfl⟩
  · by_cases hcollection : d.option.IsCollection
    · refine Or.inr (Or.inl ⟨hcollection, ?_⟩)
      rw [outcome_encode, resolve]
      cases hoption : d.option with
      | list items => rfl
      | dict es => rfl
      | _ =>
        rw [hoption] at hcollection
        exact hcollection.elim
    · refine Or.inr (Or.inr ⟨hlabel, hcollection, .unknown .label d.option, ?_⟩)
      rw [encode_of_unknown legacy hlabel hcollection]
      rfl

end ConditionDraft

/-- The first part that an entry of a document lacks; null has no parts. -/
def Value.missingKey? : Value → Option Text
  | dict es => ConditionDraft.missingKey? es
  | _ => none

namespace Entry

theorem ofValue_dict (es : Entries) :
    ofValue (.dict es) = (ConditionDraft.ofValue (.dict es)).map condition := rfl

/-- Null is read as a hole, and a dictionary with all three parts as a condition. -/
theorem ofValue_eq_ok {v : Value} {e : Entry} (h : ofValue v = .ok e) : v = .null ∧ e = hole ∨
    v.IsEntry ∧ ∃ field option query, v.field ConditionDraft.fieldKey = .ok field ∧
      v.field ConditionDraft.optionKey = .ok option ∧
      v.field ConditionDraft.queryKey = .ok query ∧
      e = condition ⟨field, option, query.toText⟩ := by
  cases v with
  | null =>
      obtain rfl := Except.ok.inj h
      exact Or.inl ⟨rfl, rfl⟩
  | dict es =>
      rcases ConditionDraft.parts_or_missing es with
        ⟨-, field, option, query, hfield, hoption, hquery⟩ | ⟨key, -, hparts⟩
      · rw [ofValue_dict, ConditionDraft.ofValue_dict hfield hoption hquery] at h
        obtain rfl := Except.ok.inj h
        exact Or.inr ⟨⟨by simp [hfield], by simp [hoption], by simp [hquery]⟩, field, option, query,
          Value.field_dict hfield, Value.field_dict hoption, Value.field_dict hquery, rfl⟩
      · rw [ofValue_dict, ConditionDraft.ofValue, hparts] at h
        cases h
  | _ => cases h

/-- Anything but a dictionary that lacks a part is foreign. -/
theorem ofValue_eq_error {v : Value} {e : Failure} (h : ofValue v = .error e) :
    v.IsForeign ∧ e = .unfit ∨ ∃ key, v.missingKey? = some key ∧ e = .missingKey key := by
  cases v with
  | null => cases h
  | dict es =>
      rcases ConditionDraft.parts_or_missing es with
        ⟨-, field, option, query, hfield, hoption, hquery⟩ | ⟨key, hkey, hparts⟩
      · rw [ofValue_dict, ConditionDraft.ofValue_dict hfield hoption hquery] at h
        cases h
      · rw [ofValue_dict, ConditionDraft.ofValue, hparts] at h
        exact Or.inr ⟨key, hkey, (Except.error.inj h).symm⟩
  | _ => exact Or.inl ⟨trivial, (Except.error.inj h).symm⟩

theorem ofValue_foreign {v : Value} (h : v.IsForeign) : ofValue v = .error .unfit := by
  cases v with
  | null => exact h.elim
  | dict es => exact h.elim
  | _ => rfl

theorem exists_ofValue_iff {v : Value} : (∃ e, ofValue v = .ok e) ↔ v.IsEntry := by
  constructor
  · rintro ⟨e, h⟩
    rcases ofValue_eq_ok h with ⟨rfl, -⟩ | ⟨hentry, -⟩
    · trivial
    · exact hentry
  · intro h
    obtain ⟨⟨e, he, -⟩, -⟩ := exists_alike h
    exact ⟨e, he⟩

theorem exists_mapM_iff {items : List Value} :
    (∃ entries, items.mapM ofValue = .ok entries) ↔ ∀ v ∈ items, v.IsEntry := by
  rw [exists_mapM_eq_ok_iff]
  exact forall₂_congr fun v _ => exists_ofValue_iff

/-- An entry of a document, read and written. -/
def rewrite (legacy : Bool) (v : Value) : Except Failure Text :=
  ofValue v >>= fun e => (e.encode legacy).outcome

/-- An entry is written under a registered label, breaks off at a collection, and is refused
otherwise. -/
theorem rewrite_cases (legacy : Bool) {v : Value} (h : v.IsEntry) :
    v.HasKnownOption ∧ (∃ call, rewrite legacy v = .ok call) ∨
      v.HasCollectionOption ∧ rewrite legacy v = .error .unfit ∨
      ¬ v.HasKnownOption ∧ ¬ v.HasCollectionOption ∧
        ∃ cause, rewrite legacy v = .error (.codec cause) := by
  obtain ⟨e, hread⟩ := exists_ofValue_iff.mpr h
  rcases ofValue_eq_ok hread with ⟨rfl, -⟩ | ⟨-, field, option, query, -, hoption, -, rfl⟩
  · refine Or.inr (Or.inr ⟨?_, ?_, _, rfl⟩)
    · rintro ⟨t, -, ht⟩
      cases ht
    · rintro ⟨x, hx, -⟩
      cases hx
  · have hrewrite : rewrite legacy v =
        (ConditionDraft.encode legacy ⟨field, option, query.toText⟩).outcome := by
      rw [rewrite, hread]
      rfl
    have hknown : v.HasKnownOption ↔ ∃ t ∈ Registry.standard.labels, option = .str t := by
      rw [Value.HasKnownOption, hoption]
      simp
    have hcollection : v.HasCollectionOption ↔ option.IsCollection := by
      rw [Value.HasCollectionOption, hoption]
      simp
    rw [hrewrite, hknown, hcollection]
    exact ConditionDraft.outcome_encode_cases legacy ⟨field, option, query.toText⟩

theorem exists_rewrite_iff (legacy : Bool) {v : Value} (h : v.IsEntry) :
    (∃ call, rewrite legacy v = .ok call) ↔ v.HasKnownOption := by
  rcases rewrite_cases legacy h with ⟨hknown, hcall⟩ | ⟨hcollection, hunfit⟩ |
    ⟨hknown, -, cause, hcause⟩
  · exact iff_of_true hcall hknown
  · exact iff_of_false (by simp [hunfit]) fun hknown => hknown.not_collection hcollection
  · exact iff_of_false (by simp [hcause]) hknown

theorem rewrite_untold_iff (legacy : Bool) {v : Value} {e : Failure} (h : v.IsEntry) :
    rewrite legacy v = .error e ∧ e.isTold = false ↔ v.HasCollectionOption ∧ e = .unfit := by
  rcases rewrite_cases legacy h with ⟨hknown, call, hcall⟩ | ⟨hcollection, hunfit⟩ |
    ⟨-, hcollection, cause, hcause⟩
  · exact iff_of_false (by simp [hcall]) fun hboth => hknown.not_collection hboth.1
  · rw [hunfit, and_iff_right hcollection]
    constructor
    · rintro ⟨heq, -⟩
      exact (Except.error.inj heq).symm
    · rintro rfl
      exact ⟨rfl, rfl⟩
  · refine iff_of_false ?_ fun hboth => hcollection hboth.1
    rintro ⟨heq, htold⟩
    rw [hcause] at heq
    rw [← Except.error.inj heq] at htold
    cases htold

end Entry

/-! ## Documents -/

namespace FilterDraft

/-- What a document has for its filters; null if it has nothing. -/
def filtersOf (es : Entries) : Value :=
  (Value.valueAt? filtersKey es).getD .null

/-- A document whose first fault is a value of a type that has no place there. -/
inductive Unfit (es : Entries) : Prop
  /-- The filters are neither false nor a list. -/
  | filters (htruth : (filtersOf es).truth = true) (hlist : ∀ items, filtersOf es ≠ .list items)
  /-- The first item that is no entry is not even a dictionary. -/
  | entry {before after : List Value} {v : Value}
      (hfilters : filtersOf es = .list (before ++ v :: after))
      (hbefore : ∀ u ∈ before, u.IsEntry) (hv : v.IsForeign)
  /-- All items are entries, and the first option that is no label is a collection. -/
  | option {before after : List Value} {v : Value}
      (hfilters : filtersOf es = .list (before ++ v :: after))
      (hentries : ∀ u ∈ before ++ v :: after, u.IsEntry) (hbefore : ∀ u ∈ before, u.HasKnownOption)
      (hv : v.HasCollectionOption)

/-- The draft of a document with the given entries. -/
def withEntries (es : Entries) (entries : List Entry) : FilterDraft :=
  ⟨upperMode (pick modeKey otherModeKey (.str Mode.and.word) es),
    .bool (pick absentKey otherAbsentKey (.bool false) es).truth, entries⟩

theorem ofEntries_eq (es : Entries) : ofEntries es =
    (if (filtersOf es).truth then elements (filtersOf es) else .ok []) >>= fun vs =>
      (vs.mapM Entry.ofValue).map (withEntries es) := by
  have hmap : ∀ vs : List Value, (vs.mapM Entry.ofValue).map (withEntries es) =
      vs.mapM Entry.ofValue >>= fun entries => .ok (withEntries es entries) := by
    intro vs
    cases vs.mapM Entry.ofValue <;> rfl
  simp only [hmap]
  rw [ofEntries]
  by_cases h : (filtersOf es).truth = true
  · rw [if_pos h]
    exact if_pos h
  · rw [if_neg h]
    exact if_neg h

theorem ofEntries_list {es : Entries} {items : List Value} (h : filtersOf es = .list items) :
    ofEntries es = (items.mapM Entry.ofValue).map (withEntries es) := by
  rw [ofEntries_eq, h]
  cases items <;> rfl

theorem ofEntries_false {es : Entries} (h : (filtersOf es).truth = false) :
    ofEntries es = .ok (withEntries es []) := by
  rw [ofEntries_eq, h]
  rfl

/-- Only texts, dictionaries and lists have elements, and characters and keys are no entries. -/
theorem elements_cases {v : Value} (htruth : v.truth = true) (hlist : ∀ items, v ≠ .list items) :
    elements v = .error .unfit ∨ ∃ u us, elements v = .ok (u :: us) ∧ u.IsForeign := by
  cases v with
  | list items => exact absurd rfl (hlist items)
  | str t =>
      cases t with
      | nil => cases htruth
      | cons c t => exact Or.inr ⟨_, _, rfl, trivial⟩
  | unpaired codes =>
      cases codes with
      | nil => cases htruth
      | cons n codes => exact Or.inr ⟨_, _, rfl, Value.isForeign_ofCodes [n]⟩
  | dict entries =>
      cases entries with
      | nil => cases htruth
      | cons e entries => exact Or.inr ⟨_, _, rfl, Value.isForeign_ofKey e.1⟩
  | _ => exact Or.inl rfl

theorem ofEntries_unfit {es : Entries} (htruth : (filtersOf es).truth = true)
    (hlist : ∀ items, filtersOf es ≠ .list items) : ofEntries es = .error .unfit := by
  rw [ofEntries_eq, if_pos htruth]
  rcases elements_cases htruth hlist with h | ⟨u, us, h, hu⟩
  · rw [h]
    rfl
  · have hfirst : (u :: us).mapM Entry.ofValue = .error .unfit :=
      mapM_eq_error_iff.mpr ⟨[], u, us, rfl, by simp, Entry.ofValue_foreign hu⟩
    rw [h]
    change ((u :: us).mapM Entry.ofValue).map (withEntries es) = _
    rw [hfirst]
    rfl

/-! ## Writing a document -/

section Write

variable {legacy : Bool} {es : Entries} {items : List Value}

/-- Entries that can all be written are conditions, so each of them has a field. -/
theorem exists_fields {entries : List Entry} (h : items.mapM Entry.ofValue = .ok entries)
    (hknown : ∀ v ∈ items, v.HasKnownOption) :
    ∃ fields, (entries.mapM fun e => e.field.map (·.display)) = .ok fields := by
  refine exists_mapM_eq_ok fun e he => ?_
  obtain ⟨v, hv, hread⟩ := exists_of_mem_mapM h he
  rcases Entry.ofValue_eq_ok hread with ⟨rfl, -⟩ | ⟨-, field, option, query, -, -, -, rfl⟩
  · obtain ⟨t, -, ht⟩ := hknown _ hv
    cases ht
  · exact ⟨field.display, rfl⟩

theorem outcome_encode_of_ok {d : FilterDraft} (h : ofEntries es = .ok d) :
    (Expression.encode legacy (.dict es)).outcome = (d.encode legacy).outcome := by
  rw [Expression.encode, h]
  rfl

theorem outcome_encode (legacy : Bool) (d : FilterDraft) : (d.encode legacy).outcome =
    d.entries.mapM (fun e => (e.encode legacy).outcome) >>= fun calls =>
      (d.entries.mapM fun e => e.field.map (·.display)) >>= fun fields =>
        .ok (FilterSet.assemble d.joiner d.absent.truth fields calls) := by
  rw [encode, Logged.outcome_bind, Logged.outcome_each]
  refine congrArg _ (funext fun calls => ?_)
  rw [Logged.outcome_bind]
  rfl

/-- With entries that can all be read, writing succeeds if each of them can be written. -/
theorem outcome_encode_list (legacy : Bool) (hfilters : filtersOf es = .list items)
    (hentries : ∀ v ∈ items, v.IsEntry) :
    (∃ calls wire, items.mapM (Entry.rewrite legacy) = .ok calls ∧
        (Expression.encode legacy (.dict es)).outcome = .ok wire) ∨
      ∃ e, items.mapM (Entry.rewrite legacy) = .error e ∧
        (Expression.encode legacy (.dict es)).outcome = .error e := by
  obtain ⟨entries, hread⟩ := Entry.exists_mapM_iff.mpr hentries
  have hdraft : ofEntries es = .ok (withEntries es entries) := by
    rw [ofEntries_list hfilters, hread]
    rfl
  have hcalls : entries.mapM (fun e => (e.encode legacy).outcome) =
      items.mapM (Entry.rewrite legacy) := (mapM_bind_of_mapM hread).symm
  rw [outcome_encode_of_ok hdraft, outcome_encode, withEntries, hcalls]
  cases h : items.mapM (Entry.rewrite legacy) with
  | error e => exact Or.inr ⟨e, rfl, rfl⟩
  | ok calls =>
      have hknown : ∀ v ∈ items, v.HasKnownOption := by
        intro v hv
        obtain ⟨call, -, hcall⟩ := exists_of_mapM_eq_ok h hv
        exact (Entry.exists_rewrite_iff legacy (hentries v hv)).mp ⟨call, hcall⟩
      obtain ⟨fields, hfields⟩ := exists_fields hread hknown
      rw [hfields]
      exact Or.inl ⟨calls, _, rfl, rfl⟩

theorem outcome_encode_eq_error_iff {e : Failure} (hfilters : filtersOf es = .list items)
    (hentries : ∀ v ∈ items, v.IsEntry) :
    (Expression.encode legacy (.dict es)).outcome = .error e ↔
      items.mapM (Entry.rewrite legacy) = .error e := by
  rcases outcome_encode_list legacy hfilters hentries with ⟨calls, wire, hcalls, hwire⟩ |
    ⟨e', he', hencode⟩
  · simp [hcalls, hwire]
  · rw [he', hencode]
    simp

theorem exists_encode_iff (legacy : Bool) (hfilters : filtersOf es = .list items)
    (hentries : ∀ v ∈ items, v.IsEntry) :
    (∃ wire, (Expression.encode legacy (.dict es)).outcome = .ok wire) ↔
      ∀ v ∈ items, v.HasKnownOption := by
  have hrewrite : (∀ v ∈ items, v.HasKnownOption) ↔
      ∃ calls, items.mapM (Entry.rewrite legacy) = .ok calls := by
    rw [exists_mapM_eq_ok_iff]
    exact forall₂_congr fun v hv => (Entry.exists_rewrite_iff legacy (hentries v hv)).symm
  rw [hrewrite]
  rcases outcome_encode_list legacy hfilters hentries with ⟨calls, wire, hcalls, hwire⟩ |
    ⟨e, he, hencode⟩
  · exact iff_of_true ⟨wire, hwire⟩ ⟨calls, hcalls⟩
  · simp [he, hencode]

theorem encode_of_ofEntries {e : Failure} (h : ofEntries es = .error e) :
    Expression.encode legacy (.dict es) = Logged.fail e := by
  rw [Expression.encode, h]
  rfl

theorem outcome_encode_of_ofEntries {e : Failure} (h : ofEntries es = .error e) :
    (Expression.encode legacy (.dict es)).outcome = .error e := by
  rw [encode_of_ofEntries h, Logged.outcome_fail]

theorem outcome_encode_eq_ok_iff {wire : Option Text} :
    (Expression.encode legacy (.dict es)).outcome = .ok wire ↔
      ∃ d, ofEntries es = .ok d ∧ (d.encode legacy).outcome = .ok wire := by
  cases h : ofEntries es with
  | error e => simp [outcome_encode_of_ofEntries h]
  | ok d => simp [outcome_encode_of_ok h]

theorem outcome_encode_unread {e : Failure} (hfilters : filtersOf es = .list items)
    (h : items.mapM Entry.ofValue = .error e) :
    (Expression.encode legacy (.dict es)).outcome = .error e := by
  apply outcome_encode_of_ofEntries
  rw [ofEntries_list hfilters, h]
  rfl

theorem outcome_encode_of_unfit (h : Unfit es) :
    (Expression.encode legacy (.dict es)).outcome = .error .unfit := by
  cases h with
  | filters htruth hlist => exact outcome_encode_of_ofEntries (ofEntries_unfit htruth hlist)
  | entry hfilters hbefore hv =>
      exact outcome_encode_unread hfilters (mapM_eq_error_iff.mpr ⟨_, _, _, rfl,
        fun u hu => Entry.exists_ofValue_iff.mpr (hbefore u hu), Entry.ofValue_foreign hv⟩)
  | @option before after v hfilters hentries hbefore hv =>
      have hlast : v.IsEntry := hentries v (List.mem_append_right before List.mem_cons_self)
      refine (outcome_encode_eq_error_iff hfilters hentries).mpr
        (mapM_eq_error_iff.mpr ⟨before, v, after, rfl, fun u hu => ?_, ?_⟩)
      · have hu' := hentries u (List.mem_append_left _ hu)
        exact (Entry.exists_rewrite_iff legacy hu').mpr (hbefore u hu)
      · exact ((Entry.rewrite_untold_iff legacy hlast).mpr ⟨hv, rfl⟩).1

/-- An untold failure with a list for the filters is about an entry, or about an option. -/
theorem unfit_of_untold {e : Failure} (hfilters : filtersOf es = .list items)
    (hencode : (Expression.encode legacy (.dict es)).outcome = .error e)
    (htold : e.isTold = false) : Unfit es ∧ e = .unfit := by
  cases hread : items.mapM Entry.ofValue with
  | error e' =>
      rw [outcome_encode_unread hfilters hread] at hencode
      obtain rfl := Except.error.inj hencode
      obtain ⟨before, v, after, rfl, hbefore, hv⟩ := mapM_eq_error_iff.mp hread
      rcases Entry.ofValue_eq_error hv with ⟨hforeign, rfl⟩ | ⟨key, -, rfl⟩
      · have hentries := fun u hu => Entry.exists_ofValue_iff.mp (hbefore u hu)
        exact ⟨.entry hfilters hentries hforeign, rfl⟩
      · cases htold
  | ok entries =>
      have hentries := Entry.exists_mapM_iff.mp ⟨_, hread⟩
      obtain ⟨before, v, after, rfl, hbefore, hv⟩ :=
        mapM_eq_error_iff.mp ((outcome_encode_eq_error_iff hfilters hentries).mp hencode)
      have hlast := hentries v (List.mem_append_right before List.mem_cons_self)
      obtain ⟨hcollection, rfl⟩ := (Entry.rewrite_untold_iff legacy hlast).mp ⟨hv, htold⟩
      refine ⟨.option hfilters hentries (fun u hu => ?_) hcollection, rfl⟩
      have hu' := hentries u (List.mem_append_left _ hu)
      exact (Entry.exists_rewrite_iff legacy hu').mp (hbefore u hu)

/-- A failure that is not told is about a value of a type that has no place in the document. -/
theorem outcome_encode_untold_iff {e : Failure} :
    (Expression.encode legacy (.dict es)).outcome = .error e ∧ e.isTold = false ↔
      Unfit es ∧ e = .unfit := by
  constructor
  · rintro ⟨hencode, htold⟩
    by_cases htruth : (filtersOf es).truth = true
    swap
    · -- without filters there is nothing to break off at
      rw [Expression.encode, ofEntries_false (Bool.eq_false_iff.mpr htruth)] at hencode
      cases hencode
    cases hfilters : filtersOf es with
    | list items => exact unfit_of_untold hfilters hencode htold
    | _ =>
      have hlist : ∀ items, filtersOf es ≠ .list items := by
        rw [hfilters]
        rintro items heq
        cases heq
      rw [outcome_encode_of_unfit (.filters htruth hlist)] at hencode
      exact ⟨.filters htruth hlist, (Except.error.inj hencode).symm⟩
  · rintro ⟨h, rfl⟩
    exact ⟨outcome_encode_of_unfit h, rfl⟩

end Write

end FilterDraft

end FilterWire
