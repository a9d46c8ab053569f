import FilterWire.Proofs.Draft.Document
import FilterWire.Proofs.FilterSet.Strictness

/-!
# Validation of expressions

A verdict on an expression reports either the document of what a lenient
reading gives, or the error of the strict reading. Which of them it is can
be told from the lenient reading alone.
-/

namespace FilterWire

theorem FilterSet.malformedCount_eq_zero_iff {s : FilterSet} :
    s.malformedCount = 0 ↔ none ∉ s.filters := by
  rw [malformedCount, List.countP_eq_zero]
  constructor
  · intro h hmem
    exact h none hmem rfl
  · intro h f hf hnone
    rw [Option.isNone_iff_eq_none] at hnone
    exact h (hnone ▸ hf)

theorem FilterSet.exists_conditions_of_whole {s : FilterSet} (h : none ∉ s.filters) :
    ∃ cs : List Condition, s.filters = cs.map some := by
  obtain ⟨mode, absent, filters⟩ := s
  induction filters with
  | nil => exact ⟨[], rfl⟩
  | cons f fs ih =>
      rw [List.mem_cons, not_or] at h
      obtain ⟨c, rfl⟩ := Option.ne_none_iff_exists'.mp (Ne.symm h.1)
      obtain ⟨cs, hcs⟩ := ih h.2
      exact ⟨c :: cs, congrArg (some c :: ·) hcs⟩

theorem FilterDraft.null_notMem_of_whole {s : FilterSet} (h : none ∉ s.filters) :
    Value.null ∉ (ofFilterSet s).entries.map (·.toValue) := by
  rw [ofFilterSet, List.map_map]
  intro hmem
  obtain ⟨f, hf, hnull⟩ := List.mem_map.mp hmem
  cases f with
  | none => exact h hf
  | some c => cases hnull

/-- A document of conditions, with everything that stands in it. -/
theorem FilterDraft.toValue_of_conditions {s : FilterSet} {cs : List Condition}
    (h : s.filters = cs.map some) : (ofFilterSet s).toValue =
      .dict [("inclusionType".toList, Value.ofOption (fun m => .str m.word) s.mode),
        ("includesAbsentFieldNames".toList, .bool s.includesAbsent),
        ("filters".toList, .list <| cs.map fun c => .dict [("field".toList, .str c.field),
          ("option".toList, .str c.option), ("query".toList, .str c.query)])] := by
  rw [ofFilterSet, h, toValue, List.map_map, List.map_map]
  rfl

namespace Expression

/-! ## Texts and null -/

theorem expression_ofOption (t : Option Text) :
    (Value.ofOption .str t).expression = .ok (t.getD []) := by
  rcases t with _ | _ | _ <;> rfl

theorem decode_ofOption (strict : Bool) (t : Option Text) :
    decode strict (Value.ofOption .str t) =
      (FilterSet.decode strict (t.getD [])).mapError .codec := by
  rw [decode, expression_ofOption, Logged.ofExcept_bind_ok]

theorem validate_ofOption (t : Option Text) :
    validate (Value.ofOption .str t) = FilterSet.validate (t.getD []) := by
  rw [validate, expression_ofOption, Logged.ofExcept_bind_ok]

theorem outcome_decode_eq_ok_iff {strict : Bool} {t : Option Text} {s : FilterSet} :
    (decode strict (Value.ofOption .str t)).outcome = .ok s ↔
      (FilterSet.decode strict (t.getD [])).outcome = .ok s := by
  rw [decode_ofOption, Logged.outcome_mapError, mapError_eq_ok_iff]

theorem codec_of_decode_error {strict : Bool} {t : Option Text} {e : Failure}
    (h : (decode strict (Value.ofOption .str t)).outcome = .error e) :
    ∃ cause, e = .codec cause := by
  rw [decode_ofOption, Logged.outcome_mapError] at h
  cases hdecode : (FilterSet.decode strict (t.getD [])).outcome with
  | error cause =>
      rw [hdecode] at h
      exact ⟨cause, (Except.error.inj h).symm⟩
  | ok s =>
      rw [hdecode] at h
      cases h

/-- The strict reading gets through where the lenient one leaves no hole. -/
theorem outcome_decode_strict_iff {t : Option Text} {s : FilterSet} :
    (decode true (Value.ofOption .str t)).outcome = .ok s ↔
      (decode false (Value.ofOption .str t)).outcome = .ok s ∧ none ∉ s.filters := by
  rw [outcome_decode_eq_ok_iff, outcome_decode_eq_ok_iff, FilterSet.outcome_decode_strict_eq_ok_iff,
    FilterSet.malformedCount_eq_zero_iff]

/-! ## The report -/

theorem outcome_validate_of_ok {t : Option Text} {s : FilterSet}
    (h : (decode true (Value.ofOption .str t)).outcome = .ok s) :
    (validate (Value.ofOption .str t)).outcome = .ok (.valid s) := by
  have hdecode : (FilterSet.decode true (t.getD [])).outcome = .ok s :=
    outcome_decode_eq_ok_iff.mp h
  rw [validate_ofOption, FilterSet.validate, hdecode]

theorem outcome_validate_of_error {t : Option Text} {e : CodecError}
    (h : (decode true (Value.ofOption .str t)).outcome = .error (.codec e)) :
    (validate (Value.ofOption .str t)).outcome = .ok (.invalid e) := by
  rw [decode_ofOption, Logged.outcome_mapError] at h
  cases hdecode : (FilterSet.decode true (t.getD [])).outcome with
  | error e' =>
      rw [hdecode] at h
      obtain rfl := Failure.codec.inj (Except.error.inj h)
      rw [validate_ofOption, FilterSet.validate, hdecode]
  | ok s =>
      rw [hdecode] at h
      cases h

/-- Reading a text or null fails with errors of the codec only, and a verdict is always given. It is
positive if the lenient reading leaves no hole, with a document of the mode, the flag and the
conditions, which gives back this filter set and no other; otherwise it has the message of the error
that the strict reading ends with. -/
theorem validate_exact (t : Option Text) :
    (∀ strict e, (decode strict (Value.ofOption .str t)).outcome = .error e →
      ∃ cause, e = .codec cause) ∧
    ∃ valid error normalized,
      (validate (Value.ofOption .str t)).outcome.map Verdict.toValue =
        .ok (.dict [("valid".toList, .bool valid), ("error".toList, error),
          ("normalized".toList, normalized)]) ∧
      (valid = true ↔
        ∃ s, (decode false (Value.ofOption .str t)).outcome = .ok s ∧ none ∉ s.filters) ∧
      (∀ s, (decode false (Value.ofOption .str t)).outcome = .ok s → none ∉ s.filters →
        error = .null ∧ normalized = (FilterDraft.ofFilterSet s).toValue ∧
        (∃ items, normalized.field FilterDraft.filtersKey = .ok (.list items) ∧ .null ∉ items) ∧
        (∃ cs : List Condition, s.filters = cs.map some ∧ normalized =
          .dict [("inclusionType".toList, Value.ofOption (fun m => .str m.word) s.mode),
            ("includesAbsentFieldNames".toList, .bool s.includesAbsent),
            ("filters".toList, .list <| cs.map fun c => .dict [("field".toList, .str c.field),
              ("option".toList, .str c.option), ("query".toList, .str c.query)])]) ∧
        ∀ s', FilterDraft.ofValue normalized = .ok (FilterDraft.ofFilterSet s') ↔ s' = s) ∧
      ((¬ ∃ s, (decode false (Value.ofOption .str t)).outcome = .ok s ∧ none ∉ s.filters) →
        normalized = .null ∧
        ∃ e, (decode true (Value.ofOption .str t)).outcome = .error e ∧
          error = .str e.message) := by
  refine ⟨fun strict e h => codec_of_decode_error h, ?_⟩
  cases hstrict : (decode true (Value.ofOption .str t)).outcome with
  | ok s =>
      have hwhole := outcome_decode_strict_iff.mp hstrict
      refine ⟨true, .null, (FilterDraft.ofFilterSet s).toValue, ?_, ?_, ?_, ?_⟩
      · rw [outcome_validate_of_ok hstrict]
        rfl
      · exact iff_of_true rfl ⟨s, hwhole⟩
      · intro s' hs' _
        obtain rfl := Except.ok.inj (hwhole.1.symm.trans hs')
        obtain ⟨cs, hcs⟩ := FilterSet.exists_conditions_of_whole hwhole.2
        refine ⟨rfl, rfl, ⟨_, rfl, FilterDraft.null_notMem_of_whole hwhole.2⟩,
          ⟨cs, hcs, FilterDraft.toValue_of_conditions hcs⟩, fun s' => ?_⟩
        rw [FilterDraft.ofValue_toValue, Except.ok.injEq, FilterDraft.ofFilterSet_injective.eq_iff]
        exact eq_comm
      · exact fun hnone => absurd ⟨s, hwhole⟩ hnone
  | error e =>
      have hnone : ¬ ∃ s, (decode false (Value.ofOption .str t)).outcome = .ok s ∧
          none ∉ s.filters := by
        rintro ⟨s, hs⟩
        rw [outcome_decode_strict_iff.mpr hs] at hstrict
        cases hstrict
      obtain ⟨cause, rfl⟩ := codec_of_decode_error hstrict
      refine ⟨false, .str cause.message, .null, ?_, ?_, ?_, ?_⟩
      · rw [outcome_validate_of_error hstrict]
        rfl
      · exact iff_of_false Bool.false_ne_true hnone
      · exact fun s hs hfilters => absurd ⟨s, hs, hfilters⟩ hnone
      · exact fun _ => ⟨rfl, _, rfl, rfl⟩

/-- A segment that is no call stands before a call that nobody knows, and is what the report tells.
Two conditions behind null checks make up a document. -/
theorem validate_exact_of_both_verdicts :
    (validate (.str "(GT([a], 1) OR x OR NEAR([b], 2)) ?: false".toList)).outcome.map
        Verdict.toValue =
      .ok (.dict [("valid".toList, .bool false),
        ("error".toList, .str "Malformed condition: 'x'".toList), ("normalized".toList, .null)]) ∧
    (validate (.str ("(IS_NULL([a]) AND IS_NULL([b])) OR ((GT([a], 1) OR " ++
        "MATCHES([b], [^x.*])) ?: false)").toList)).outcome.map Verdict.toValue =
      .ok (.dict [("valid".toList, .bool true), ("error".toList, .null), ("normalized".toList,
        .dict [("inclusionType".toList, .str "OR".toList),
          ("includesAbsentFieldNames".toList, .bool true),
          ("filters".toList, .list [
            .dict [("field".toList, .str "[a]".toList),
              ("option".toList, .str "Greater than".toList), ("query".toList, .str "1".toList)],
            .dict [("field".toList, .str "[b]".toList),
              ("option".toList, .str "Text starts with".toList),
              ("query".toList, .str "x".toList)]])])]) := by
  constructor
  · let t := some "(GT([a], 1) OR x OR NEAR([b], 2)) ?: false".toList
    obtain ⟨-, valid, error, normalized, hreport, hvalid, -, hfault⟩ := validate_exact t
    have hstrict : (decode true (Value.ofOption .str t)).outcome =
        .error (.codec (.malformed "x".toList)) := by rfl
    have hnone : ¬ ∃ s, (decode false (Value.ofOption .str t)).outcome = .ok s ∧
        none ∉ s.filters := by
      rintro ⟨s, hs⟩
      rw [outcome_decode_strict_iff.mpr hs] at hstrict
      cases hstrict
    obtain ⟨rfl, e, he, rfl⟩ := hfault hnone
    obtain rfl := Except.error.inj (hstrict.symm.trans he)
    obtain rfl : valid = false := Bool.eq_false_iff.mpr fun h => hnone (hvalid.mp h)
    exact hreport
  · let t := some ("(IS_NULL([a]) AND IS_NULL([b])) OR ((GT([a], 1) OR " ++
      "MATCHES([b], [^x.*])) ?: false)").toList
    let s : FilterSet := ⟨some .or, true, [some ⟨"[a]".toList, "Greater than".toList, ['1']⟩,
      some ⟨"[b]".toList, "Text starts with".toList, ['x']⟩]⟩
    obtain ⟨-, valid, error, normalized, hreport, hvalid, hwhole, -⟩ := validate_exact t
    have hlenient : (decode false (Value.ofOption .str t)).outcome = .ok s :=
      outcome_decode_eq_ok_iff.mpr (by rfl)
    have hs : none ∉ s.filters := by decide
    obtain ⟨rfl, rfl, -⟩ := hwhole s hlenient hs
    obtain rfl : valid = true := hvalid.mpr ⟨s, hlenient, hs⟩
    exact hreport

end Expression

end FilterWire
