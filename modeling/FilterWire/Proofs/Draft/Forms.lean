import FilterWire.Proofs.Draft.Document

/-!
# Forms of one draft

A filter set can be handed over as a document, with its conditions taken
apart but not converted, or with its conditions as they are. Conversion
comes at different times then, but what is written is the same.
-/

namespace FilterWire

namespace Value

/-- Null, or a dictionary with the three parts of a condition, whatever they are. -/
def IsEntry : Value → Prop
  | null => True
  | dict es => (valueAt? ConditionDraft.fieldKey es).isSome ∧
      (valueAt? ConditionDraft.optionKey es).isSome ∧ (valueAt? ConditionDraft.queryKey es).isSome
  | _ => False

theorem field_dict {key : Text} {es : Entries} {v : Value} (h : valueAt? key es = some v) :
    (dict es).field key = .ok v := by
  rw [field, h]

end Value

namespace ConditionDraft

/-- The query is converted when it is written, if not before. -/
theorem encode_toText (legacy : Bool) (d : ConditionDraft) :
    encode legacy { d with query := d.query.toText } = encode legacy d := by
  rw [encode, encode, resolve, resolve, Value.display_toText]

section Parts

variable {es : Entries} {field option query : Value}

theorem ofParts_dict (hfield : Value.valueAt? fieldKey es = some field)
    (hoption : Value.valueAt? optionKey es = some option)
    (hquery : Value.valueAt? queryKey es = some query) :
    ofParts (.dict es) = .ok ⟨field, option, query⟩ := by
  rw [ofParts, Value.field_dict hfield, Value.field_dict hoption, Value.field_dict hquery]
  rfl

theorem ofValue_dict (hfield : Value.valueAt? fieldKey es = some field)
    (hoption : Value.valueAt? optionKey es = some option)
    (hquery : Value.valueAt? queryKey es = some query) :
    ofValue (.dict es) = .ok ⟨field, option, query.toText⟩ := by
  rw [ofValue, ofParts_dict hfield hoption hquery]
  rfl

end Parts

end ConditionDraft

namespace Entry

/-- Two entries are written alike, as calls and as fields of null checks. -/
structure Alike (e e' : Entry) : Prop where
  encode : ∀ legacy, e.encode legacy = e'.encode legacy
  field : e.field = e'.field

/-- An entry that is converted, and one that is only taken apart, are written like the entry as it
was given. -/
theorem exists_alike {v : Value} (h : v.IsEntry) :
    (∃ e, ofValue v = .ok e ∧ Alike e (asGiven v)) ∧
      ∃ e, ofParts v = .ok e ∧ Alike e (asGiven v) := by
  cases v with
  | null => exact ⟨⟨hole, rfl, fun _ => rfl, rfl⟩, ⟨hole, rfl, fun _ => rfl, rfl⟩⟩
  | dict es =>
      obtain ⟨hfield, hoption, hquery⟩ := h
      obtain ⟨field, hfield⟩ := Option.isSome_iff_exists.mp hfield
      obtain ⟨option, hoption⟩ := Option.isSome_iff_exists.mp hoption
      obtain ⟨query, hquery⟩ := Option.isSome_iff_exists.mp hquery
      have hparts := ConditionDraft.ofParts_dict hfield hoption hquery
      have hvalue := ConditionDraft.ofValue_dict hfield hoption hquery
      have hgiven : ∀ legacy, (asGiven (.dict es)).encode legacy =
          ConditionDraft.encode legacy ⟨field, option, query.toText⟩ := by
        intro legacy
        change (Logged.ofExcept (ConditionDraft.ofValue (.dict es)) >>= _) = _
        rw [hvalue, Logged.ofExcept_bind_ok]
      have hname : (asGiven (.dict es)).field = .ok field := Value.field_dict hfield
      constructor
      · refine ⟨condition ⟨field, option, query.toText⟩, ?_, fun legacy => ?_, hname.symm⟩
        · change (ConditionDraft.ofValue (.dict es)).map condition = _
          rw [hvalue]
          rfl
        · rw [hgiven]
          rfl
      · refine ⟨condition ⟨field, option, query⟩, ?_, fun legacy => ?_, hname.symm⟩
        · change (ConditionDraft.ofParts (.dict es)).map condition = _
          rw [hparts]
          rfl
        · rw [hgiven]
          exact (ConditionDraft.encode_toText legacy ⟨field, option, query⟩).symm
  | _ => exact h.elim

end Entry

namespace FilterDraft

theorem mapM_field_congr {es es' : List Entry} (h : List.Forall₂ Entry.Alike es es') :
    (es.mapM fun e => e.field.map (·.display)) = es'.mapM fun e => e.field.map (·.display) := by
  induction h with
  | nil => rfl
  | cons hhead _ ih => rw [List.mapM_cons, List.mapM_cons, hhead.field, ih]

/-- Drafts that join alike, are guarded alike and have entries that are written alike are written
alike. -/
theorem encode_congr {legacy : Bool} {d d' : FilterDraft} (hmode : d.mode = d'.mode)
    (habsent : d.absent.truth = d'.absent.truth)
    (hentries : List.Forall₂ Entry.Alike d.entries d'.entries) :
    d.encode legacy = d'.encode legacy := by
  have hcalls : Logged.each (Entry.encode legacy) d.entries =
      Logged.each (Entry.encode legacy) d'.entries :=
    Logged.each_congr (hentries.imp fun e e' he => he.encode legacy)
  have hjoiner : d.joiner = d'.joiner := by rw [joiner, joiner, hmode]
  rw [encode, encode, hcalls, mapM_field_congr hentries, hjoiner, habsent]

theorem exists_entries {read : Value → Except Failure Entry} {vs : List Value}
    (h : ∀ v ∈ vs, ∃ e, read v = .ok e ∧ Entry.Alike e (Entry.asGiven v)) :
    ∃ es, vs.mapM read = .ok es ∧ List.Forall₂ Entry.Alike es (vs.map Entry.asGiven) := by
  have hsame : List.Forall₂ (fun given v => v ∈ vs ∧ given = Entry.asGiven v)
      (vs.map Entry.asGiven) vs :=
    List.forall₂_map_left_iff.mpr (List.forall₂_same.mpr fun v hv => ⟨hv, rfl⟩)
  obtain ⟨es, hes, halike⟩ := exists_mapM_of_forall₂ (f := read)
    (S := fun given e => Entry.Alike e given) hsame (by
      rintro _ v ⟨hv, rfl⟩
      exact h v hv)
  exact ⟨es, hes, halike.flip⟩

/-- The three forms of a filter set are written alike, with the same outcome and the same
warnings: its document, the set with its conditions taken apart, and the set with its conditions
as they are. -/
theorem encode_forms {vs : List Value} (h : ∀ v ∈ vs, v.IsEntry) (mode : Option Mode)
    (absent : Value) (legacy : Bool) :
    ∃ es, vs.mapM Entry.ofParts = .ok es ∧
      Expression.encode legacy
          (.dict (document (Value.ofOption (fun m => .str m.word) mode) absent vs)) =
        encode legacy ⟨Value.ofOption (fun m => .str m.word) mode, absent, es⟩ ∧
      encode legacy ⟨Value.ofOption (fun m => .str m.word) mode, absent, es⟩ =
        encode legacy ⟨Value.ofOption (fun m => .str m.word) mode, absent,
          vs.map Entry.asGiven⟩ := by
  obtain ⟨converted, hconverted, hbefore⟩ :=
    exists_entries fun v hv => (Entry.exists_alike (h v hv)).1
  obtain ⟨taken, htaken, hlater⟩ := exists_entries fun v hv => (Entry.exists_alike (h v hv)).2
  have hgiven : encode legacy ⟨Value.ofOption (fun m => .str m.word) mode, absent, taken⟩ =
      encode legacy ⟨Value.ofOption (fun m => .str m.word) mode, absent, vs.map Entry.asGiven⟩ :=
    encode_congr rfl rfl hlater
  refine ⟨taken, htaken, ?_, hgiven⟩
  rw [Expression.encode, ofEntries_document, hconverted, upperMode_ofOption, hgiven]
  exact encode_congr rfl rfl hbefore

/-- A truth value for a field, a list for a query, a key too many, a condition that is sent as
another one, and a number for the flag. -/
theorem encode_forms_of_loose_entries :
    let entries : List Value :=
      [.dict [(.text "query".toList, .list [.null, .int 2]), (.text "field".toList, .bool true),
          (.text "note".toList, .null), (.text "option".toList, .str "Text contains".toList)],
        .dict [(.text "field".toList, .str "[b]".toList),
          (.text "option".toList, .str "Is equal to".toList), (.text "query".toList, .null)]]
    (Expression.encode true (.dict (document .null (.int 3) entries))).outcome =
        .ok (some ("(IS_NULL(True) AND IS_NULL([b])) OR " ++
          "((MATCHES(True, [.*[None, 2].*]) AND EQ([b], None)) ?: false)").toList) ∧
      Expression.encode true (.dict (document .null (.int 3) entries)) =
        encode true ⟨.null, .int 3, entries.map Entry.asGiven⟩ := by
  intro entries
  refine ⟨by rfl, ?_⟩
  obtain ⟨_, -, hparts, hgiven⟩ := @encode_forms entries
    (by
      intro v hv
      rcases List.mem_cons.mp hv with rfl | hv
      · exact ⟨rfl, rfl, rfl⟩
      · obtain rfl := List.mem_singleton.mp hv
        exact ⟨rfl, rfl, rfl⟩) none (.int 3) true
  exact hparts.trans hgiven

end FilterDraft

end FilterWire
