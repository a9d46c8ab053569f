import FilterWire.Proofs.Condition.Warning
import FilterWire.Proofs.Draft.BreakOff
import FilterWire.Proofs.FilterSet.Writing

/-!
# Which entry is refused

A document is first read as a whole, and the first key that an entry lacks is
told. The entries are written one after the other, up to the first that has
no registered label. Until then each hidden comparator is warned of.
-/

namespace FilterWire

/-! ## Warnings of one condition -/

namespace Condition

/-- The warning under a label: among the text comparators those without brackets are hidden by
legacy names. -/
def warning? (legacy : Bool) (label : Text) : Option Event :=
  if legacy && unbracketedTexts.any (· = label) then
    (Registry.standard.find? .label label).map fun k => .sentAs k.token Comparator.sharedName
  else none

theorem isWarning_of_warning? {legacy : Bool} {label : Text} {event : Event}
    (h : warning? legacy label = some event) : event.isWarning = true := by
  rw [warning?] at h
  split at h
  · obtain ⟨k, -, rfl⟩ := Option.map_eq_some_iff.mp h
    rfl
  · cases h

theorem isLossy_eq_label : ∀ legacy, ∀ k ∈ Registry.standard.comparators,
    k.isLossy legacy = (legacy && unbracketedTexts.any (· = k.label)) := by
  decide

theorem events_encode {legacy : Bool} {c : Condition} {k : Comparator}
    (hk : k ∈ Registry.standard.comparators) (hlabel : k.label = c.option) :
    (encode legacy c).events = (warning? legacy c.option).toList := by
  have hfind : Registry.standard.find? .label c.option = some k :=
    Registry.find?_eq_some_iff.mpr ⟨hk, hlabel⟩
  have hlossy : (legacy && unbracketedTexts.any (· = c.option)) = k.isLossy legacy := by
    rw [← hlabel]
    exact (isLossy_eq_label legacy k hk).symm
  rw [encode_eq hk hlabel, warning?, hfind, hlossy]
  cases legacy with
  | false =>
      rw [Comparator.isLossy_modern hk]
      rfl
  | true =>
      by_cases h : k.isLossy true = true
      · rw [if_pos h, if_pos h, Comparator.nameFor_of_isLossy hk h]
        rfl
      · rw [if_neg h, if_neg h]
        rfl

end Condition

/-! ## Missing keys -/

theorem ConditionDraft.isSome_missingKey?_iff {fs : Entries} :
    (missingKey? fs).isSome = true ↔ ∃ key ∈ partKeys, Value.valueAt? key fs = none := by
  rw [missingKey?, List.find?_isSome]
  simp only [Option.isNone_iff_eq_none]

namespace Entry

theorem ofValue_of_missing {v : Value} {key : Text} (h : v.missingKey? = some key) :
    ofValue v = .error (.missingKey key) := by
  cases v with
  | dict fs =>
      rcases ConditionDraft.parts_or_missing fs with ⟨hnone, -⟩ | ⟨key', hkey, hparts⟩
      · have hsome : ConditionDraft.missingKey? fs = some key := h
        rw [hnone] at hsome
        cases hsome
      · obtain rfl := Option.some.inj (hkey.symm.trans h)
        rw [ofValue_dict, ConditionDraft.ofValue, hparts]
        rfl
  | _ => cases h

theorem exists_ofValue_of_complete {v : Value} (hv : ¬ v.IsForeign) (h : v.missingKey? = none) :
    ∃ e, ofValue v = .ok e := by
  cases hread : ofValue v with
  | ok e => exact ⟨e, rfl⟩
  | error failure =>
      rcases ofValue_eq_error hread with ⟨hforeign, -⟩ | ⟨key, hkey, -⟩
      · exact absurd hforeign hv
      · rw [h] at hkey
        cases hkey

/-! ## One entry -/

/-- A hole, or a condition whose option is a text. -/
def HasTextOption : Entry → Prop
  | hole => True
  | condition d => d.option.IsText
  | raw _ => False

def label? : Entry → Option Text
  | condition ⟨_, .str t, _⟩ => some t
  | _ => none

def IsRegistered (e : Entry) : Prop :=
  ∃ t ∈ Registry.standard.labels, e.label? = some t

def warning? (legacy : Bool) (e : Entry) : Option Event :=
  e.label?.bind (Condition.warning? legacy)

/-- Why an entry is not written: it is a hole, or its option is no registered label. -/
inductive Refused : Entry → CodecError → Prop
  | hole : Refused hole (.malformed "None".toList)
  | unknown {d : ConditionDraft} (h : ∀ t ∈ Registry.standard.labels, d.option ≠ .str t) :
      Refused (condition d) (.unknown .label d.option)

variable {legacy : Bool} {e : Entry} {cause : CodecError}

theorem label?_eq_some_iff {t : Text} :
    e.label? = some t ↔ ∃ d, e = condition d ∧ d.option = .str t := by
  constructor
  · intro h
    cases e with
    | condition d =>
        obtain ⟨field, option, query⟩ := d
        cases option with
        | str t' =>
            obtain rfl := Option.some.inj h
            exact ⟨_, rfl, rfl⟩
        | _ => cases h
    | hole => cases h
    | raw v => cases h
  · rintro ⟨⟨field, option, query⟩, rfl, rfl⟩
    rfl

theorem isRegistered_condition_iff {d : ConditionDraft} :
    (condition d).IsRegistered ↔ ∃ t ∈ Registry.standard.labels, d.option = .str t := by
  simp [IsRegistered, label?_eq_some_iff]

theorem registered_or_refused (h : e.HasTextOption) :
    e.IsRegistered ∨ ∃ cause, e.Refused cause := by
  cases e with
  | hole => exact Or.inr ⟨_, .hole⟩
  | condition d =>
      by_cases hlabel : ∃ t ∈ Registry.standard.labels, d.option = .str t
      · exact Or.inl (isRegistered_condition_iff.mpr hlabel)
      · exact Or.inr ⟨_, .unknown fun t ht heq => hlabel ⟨t, ht, heq⟩⟩
  | raw v => exact h.elim

/-- A registered entry is written as a call, with the warning of its label and no other event. -/
theorem IsRegistered.encode_eq (h : e.IsRegistered) (legacy : Bool) : ∃ call, call ≠ [] ∧
    e.encode legacy = ⟨(e.warning? legacy).toList, .ok call⟩ := by
  obtain ⟨t, ht, hlabel⟩ := h
  obtain ⟨k, hk, rfl⟩ := Registry.mem_labels_iff.mp ht
  obtain ⟨d, rfl, hoption⟩ := label?_eq_some_iff.mp hlabel
  let c : Condition := ⟨d.field.display, k.label, d.query.display⟩
  have hevents : (Condition.encode legacy c).events = (Condition.warning? legacy k.label).toList :=
    Condition.events_encode hk rfl
  refine ⟨(Condition.toCall legacy k c).text, Call.text_ne_nil, ?_⟩
  rw [encode, ConditionDraft.encode, ConditionDraft.resolve_of_label hk hoption,
    Logged.ofExcept_bind_ok, warning?, hlabel, Option.bind_some, ← hevents,
    Condition.encode_eq hk rfl]
  rfl

theorem IsRegistered.exists_call (h : e.IsRegistered) (legacy : Bool) :
    ∃ call, call ≠ [] ∧ (e.encode legacy).outcome = .ok call := by
  obtain ⟨call, hne, hencode⟩ := h.encode_eq legacy
  exact ⟨call, hne, by rw [hencode]⟩

theorem IsRegistered.events_encode (h : e.IsRegistered) (legacy : Bool) :
    (e.encode legacy).events = (e.warning? legacy).toList := by
  obtain ⟨call, -, hencode⟩ := h.encode_eq legacy
  rw [hencode]

theorem IsRegistered.exists_field (h : e.IsRegistered) : ∃ v, e.field = .ok v := by
  obtain ⟨t, -, hlabel⟩ := h
  obtain ⟨d, rfl, -⟩ := label?_eq_some_iff.mp hlabel
  exact ⟨d.field, rfl⟩

theorem Refused.not_registered (h : e.Refused cause) : ¬ e.IsRegistered := by
  cases h with
  | hole =>
      rintro ⟨t, -, hlabel⟩
      cases hlabel
  | unknown h =>
      rw [isRegistered_condition_iff]
      rintro ⟨t, ht, hoption⟩
      exact h t ht hoption

/-- A refused entry is told of, without a warning. -/
theorem Refused.encode_eq (h : e.Refused cause) (htext : e.HasTextOption) (legacy : Bool) :
    e.encode legacy = Logged.fail (.codec cause) := by
  cases h with
  | hole => rfl
  | unknown h =>
      exact ConditionDraft.encode_of_unknown legacy (fun ⟨t, ht, heq⟩ => h t ht heq)
        (Value.IsText.not_collection htext)

end Entry

namespace FilterDraft

variable {legacy : Bool} {d : FilterDraft} {es : Entries} {items : List Value}

/-! ## All entries -/

/-- Either all entries can be written, or there is a first that cannot. -/
theorem registered_or_refused_first {entries : List Entry} (h : ∀ e ∈ entries, e.HasTextOption) :
    (∀ e ∈ entries, e.IsRegistered) ∨ ∃ before e after cause, entries = before ++ e :: after ∧
      (∀ u ∈ before, u.IsRegistered) ∧ e.Refused cause := by
  induction entries with
  | nil => exact Or.inl (by simp)
  | cons e entries ih =>
      obtain ⟨hhead, htail⟩ := List.forall_mem_cons.mp h
      rcases Entry.registered_or_refused hhead with he | ⟨cause, hcause⟩
      · rcases ih htail with hall | ⟨before, u, after, cause, rfl, hbefore, hu⟩
        · exact Or.inl (List.forall_mem_cons.mpr ⟨he, hall⟩)
        · exact Or.inr ⟨e :: before, u, after, cause, rfl,
            List.forall_mem_cons.mpr ⟨he, hbefore⟩, hu⟩
      · exact Or.inr ⟨[], e, entries, cause, rfl, by simp, hcause⟩

/-- Only the entries leave events. -/
theorem events_encode (legacy : Bool) (d : FilterDraft) :
    (d.encode legacy).events = (Logged.each (Entry.encode legacy) d.entries).events :=
  Logged.events_bind_of_silent (fun _ => Logged.events_bind_of_silent (fun _ => rfl) _) _

theorem events_each_registered {before : List Entry} (h : ∀ e ∈ before, e.IsRegistered)
    (after : List Entry) : (Logged.each (Entry.encode legacy) (before ++ after)).events =
      before.filterMap (Entry.warning? legacy) ++
        (Logged.each (Entry.encode legacy) after).events := by
  have hevents : ∀ e ∈ before, (e.encode legacy).events = (e.warning? legacy).toList :=
    fun e he => (h e he).events_encode legacy
  rw [Logged.events_each_append, List.flatMap_congr hevents, List.filterMap_eq_flatMap_toList]
  exact fun e he => ((h e he).exists_call legacy).imp fun _ hcall => hcall.2

theorem filter_isWarning (legacy : Bool) (entries : List Entry) :
    (entries.filterMap (Entry.warning? legacy)).filter (·.isWarning) =
      entries.filterMap (Entry.warning? legacy) := by
  rw [List.filter_eq_self]
  intro event hevent
  obtain ⟨e, -, he⟩ := List.mem_filterMap.mp hevent
  obtain ⟨label, -, hlabel⟩ := Option.bind_eq_some_iff.mp he
  exact Condition.isWarning_of_warning? hlabel

theorem exists_calls {entries : List Entry} (h : ∀ e ∈ entries, e.IsRegistered) (legacy : Bool) :
    ∃ calls, entries.mapM (fun e => (e.encode legacy).outcome) = .ok calls ∧
      (∀ call ∈ calls, call ≠ []) ∧ (calls = [] ↔ entries = []) := by
  obtain ⟨calls, hcalls⟩ := exists_mapM_eq_ok fun e he =>
    ((h e he).exists_call legacy).imp fun _ hcall => hcall.2
  refine ⟨calls, hcalls, fun call hcall => ?_, eq_nil_iff_of_mapM_eq_ok hcalls⟩
  obtain ⟨e, he, hencode⟩ := exists_of_mem_mapM hcalls hcall
  obtain ⟨call', hne, hencode'⟩ := (h e he).exists_call legacy
  obtain rfl := Except.ok.inj (hencode.symm.trans hencode')
  exact hne

/-- With registered labels only, there is an expression unless there are no entries. -/
theorem encode_of_registered (h : ∀ e ∈ d.entries, e.IsRegistered) (legacy : Bool) :
    ∃ wire, (d.encode legacy).outcome = .ok wire ∧ (wire = none ↔ d.entries = []) ∧
      (d.encode legacy).warnings = d.entries.filterMap (Entry.warning? legacy) := by
  obtain ⟨calls, hcalls, hnonempty, hempty⟩ := exists_calls h legacy
  obtain ⟨fields, hfields⟩ : ∃ fields,
      (d.entries.mapM fun e => e.field.map (·.display)) = .ok fields := by
    refine exists_mapM_eq_ok fun e he => ?_
    obtain ⟨v, hv⟩ := (h e he).exists_field
    exact ⟨v.display, by rw [hv]; rfl⟩
  refine ⟨FilterSet.assemble d.joiner d.absent.truth fields calls, ?_,
    (FilterSet.assemble_eq_none_iff hnonempty).trans hempty, ?_⟩
  · rw [outcome_encode, hcalls]
    change ((d.entries.mapM fun e => e.field.map (·.display)) >>= _) = _
    rw [hfields]
    rfl
  · have hall : (Logged.each (Entry.encode legacy) (d.entries ++ [])).events =
        d.entries.filterMap (Entry.warning? legacy) ++ [] := events_each_registered h []
    rw [List.append_nil, List.append_nil] at hall
    rw [Logged.warnings, events_encode, hall, filter_isWarning]

/-- The first entry without a registered label is told of, after the warnings before it. -/
theorem encode_of_refused {before after : List Entry} {e : Entry} {cause : CodecError}
    (hentries : d.entries = before ++ e :: after) (hbefore : ∀ u ∈ before, u.IsRegistered)
    (he : e.Refused cause) (htext : e.HasTextOption) (legacy : Bool) :
    (d.encode legacy).outcome = .error (.codec cause) ∧
      (d.encode legacy).warnings = before.filterMap (Entry.warning? legacy) := by
  have hencode := he.encode_eq htext legacy
  constructor
  · have hcalls : d.entries.mapM (fun e => (e.encode legacy).outcome) = .error (.codec cause) := by
      refine mapM_eq_error_iff.mpr
        ⟨before, e, after, hentries, fun u hu => ?_, by rw [hencode]; rfl⟩
      exact ((hbefore u hu).exists_call legacy).imp fun _ hcall => hcall.2
    rw [outcome_encode, hcalls]
    rfl
  · have hrest : (Logged.each (Entry.encode legacy) (e :: after)).events = [] := by
      rw [Logged.each_cons, hencode]
      rfl
    rw [Logged.warnings, events_encode, hentries, events_each_registered hbefore, hrest,
      List.append_nil, filter_isWarning]

/-! ## Documents -/

/-- The first key that an item lacks is told before anything is written. -/
theorem encode_of_missing {key : Text} (hfilters : filtersOf es = .list items)
    (hitems : ∀ v ∈ items, ¬ v.IsForeign) (h : items.findSome? Value.missingKey? = some key)
    (legacy : Bool) : Expression.encode legacy (.dict es) = Logged.fail (.missingKey key) := by
  obtain ⟨before, v, after, rfl, hv, hbefore⟩ := List.findSome?_eq_some_iff.mp h
  have hread : (before ++ v :: after).mapM Entry.ofValue = .error (.missingKey key) :=
    mapM_eq_error_iff.mpr ⟨before, v, after, rfl,
      fun u hu => Entry.exists_ofValue_of_complete (hitems u (List.mem_append_left _ hu))
        (hbefore u hu), Entry.ofValue_of_missing hv⟩
  apply encode_of_ofEntries
  rw [ofEntries_list hfilters, hread]
  rfl

/-- The entries are written up to the first that is a hole or has no registered label. Its failure
comes after the warnings of the entries before it, and the empty set alone has no expression. A
document whose items lack keys is told of the first of these, before anything is written. -/
theorem encode_first_refusal (legacy : Bool) :
    (∀ d : FilterDraft, (∀ e ∈ d.entries, e.HasTextOption) →
      ((∃ wire, (d.encode legacy).outcome = .ok wire) ↔ ∀ e ∈ d.entries, e.IsRegistered) ∧
      (∀ wire, (d.encode legacy).outcome = .ok wire → (wire = none ↔ d.entries = []) ∧
        (d.encode legacy).warnings = d.entries.filterMap (Entry.warning? legacy)) ∧
      ∀ failure, (d.encode legacy).outcome = .error failure → ∃ before e after cause,
        d.entries = before ++ e :: after ∧ (∀ u ∈ before, u.IsRegistered) ∧ e.Refused cause ∧
        failure = .codec cause ∧
        (d.encode legacy).warnings = before.filterMap (Entry.warning? legacy)) ∧
    ∀ es items, filtersOf es = .list items → (∀ v ∈ items, ¬ v.IsForeign) →
      ∀ fs key, .dict fs ∈ items → key ∈ ConditionDraft.partKeys → Value.valueAt? key fs = none →
        ∃ first, items.findSome? Value.missingKey? = some first ∧
          Expression.encode legacy (.dict es) = Logged.fail (.missingKey first) := by
  constructor
  · intro d htext
    rcases registered_or_refused_first htext with hall |
      ⟨before, e, after, cause, hentries, hbefore, he⟩
    · obtain ⟨wire, hwire, hnone, hwarnings⟩ := encode_of_registered hall legacy
      refine ⟨iff_of_true ⟨wire, hwire⟩ hall, ?_, ?_⟩
      · intro wire' hwire'
        obtain rfl := Except.ok.inj (hwire.symm.trans hwire')
        exact ⟨hnone, hwarnings⟩
      · intro failure hfailure
        rw [hwire] at hfailure
        cases hfailure
    · have hmem : e ∈ d.entries := by simp [hentries]
      obtain ⟨hrefused, hwarnings⟩ :=
        encode_of_refused hentries hbefore he (htext e hmem) legacy
      refine ⟨iff_of_false ?_ fun hall => he.not_registered (hall e hmem), ?_, ?_⟩
      · rintro ⟨wire, hwire⟩
        rw [hrefused] at hwire
        cases hwire
      · intro wire hwire
        rw [hrefused] at hwire
        cases hwire
      · intro failure hfailure
        obtain rfl := Except.error.inj (hrefused.symm.trans hfailure)
        exact ⟨before, e, after, cause, hentries, hbefore, he, rfl, hwarnings⟩
  · intro es items hfilters hitems fs key hfs hkey habsent
    have hmissing : (items.findSome? Value.missingKey?).isSome = true := by
      rw [List.findSome?_isSome_iff]
      exact ⟨.dict fs, hfs, ConditionDraft.isSome_missingKey?_iff.mpr ⟨key, hkey, habsent⟩⟩
    obtain ⟨first, hfirst⟩ := Option.isSome_iff_exists.mp hmissing
    exact ⟨first, hfirst, encode_of_missing hfilters hitems hfirst legacy⟩

/-- A hidden comparator, an unknown label and a hole; and a document in which an unknown label
stands before an item without its key. -/
theorem encode_first_refusal_of_mixed_faults :
    (encode true ⟨.null, .bool true,
        [.condition ⟨.str "[a]".toList, .str "Text is exactly".toList, .int 1⟩,
          .condition ⟨.str "[b]".toList, .str "Near".toList, .int 2⟩, .hole]⟩).warnings =
        [.sentAs "STRING_EQUALS".toList "MATCHES".toList] ∧
      Expression.encode true (.dict [(filtersKey, .list
        [.dict [(ConditionDraft.fieldKey, .str "[b]".toList),
            (ConditionDraft.optionKey, .str "Near".toList), (ConditionDraft.queryKey, .int 2)],
          .null, .dict [(ConditionDraft.queryKey, .int 3), (ConditionDraft.fieldKey, .null)]])]) =
        Logged.fail (.missingKey "option".toList) := by
  obtain ⟨hdrafts, hdocuments⟩ := encode_first_refusal true
  constructor
  · obtain ⟨-, -, hfailure⟩ := hdrafts ⟨.null, .bool true,
      [.condition ⟨.str "[a]".toList, .str "Text is exactly".toList, .int 1⟩,
        .condition ⟨.str "[b]".toList, .str "Near".toList, .int 2⟩, .hole]⟩
      (by simp [Entry.HasTextOption, Value.IsText])
    obtain ⟨before, e, after, cause, hentries, hbefore, he, -, hwarnings⟩ := hfailure _ rfl
    rcases before with _ | ⟨u, _ | ⟨u', before⟩⟩
    · -- the first entry is not refused
      obtain ⟨rfl, -⟩ := List.cons_eq_cons.mp hentries
      exact absurd ⟨"Text is exactly".toList, by decide, rfl⟩ he.not_registered
    · obtain ⟨rfl, -⟩ := List.cons_eq_cons.mp hentries
      rw [hwarnings]
      rfl
    · -- the second is not registered
      obtain ⟨rfl, hrest⟩ := List.cons_eq_cons.mp hentries
      obtain ⟨rfl, -⟩ := List.cons_eq_cons.mp hrest
      obtain ⟨t, ht, hlabel⟩ := hbefore _ (List.mem_cons_of_mem _ List.mem_cons_self)
      obtain rfl := Option.some.inj hlabel
      exact absurd ht (by decide)
  · obtain ⟨first, hfirst, hencode⟩ := hdocuments [(filtersKey, .list
        [.dict [(ConditionDraft.fieldKey, .str "[b]".toList),
            (ConditionDraft.optionKey, .str "Near".toList), (ConditionDraft.queryKey, .int 2)],
          .null, .dict [(ConditionDraft.queryKey, .int 3), (ConditionDraft.fieldKey, .null)]])]
      _ rfl (by simp [Value.IsForeign])
      [(ConditionDraft.queryKey, .int 3), (ConditionDraft.fieldKey, .null)]
      ConditionDraft.optionKey (by simp) (by decide) rfl
    obtain rfl := Option.some.inj hfirst
    exact hencode

end FilterDraft

end FilterWire
