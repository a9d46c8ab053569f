import FilterWire.Proofs.FilterSet.Provenance
import FilterWire.Proofs.FilterSet.Writing

/-!
# Writing what was read

The conditions of a filter set that was read can all be written: their
comparators are registered. Whatever is written is made of the text that was
read, of names of calls and of brackets.
-/

namespace FilterWire

/-- The conditions of a set that was read are made of the text, with comparators that are
registered. -/
theorem FilterSet.parts_of_decode {t : Text} {s : FilterSet}
    (h : (decode false t).outcome = .ok s) {c : Condition} (hc : some c ∈ s.filters) :
    c.field <:+: t ∧ c.query <:+: t ∧
      ∃ k ∈ Registry.standard.comparators, k.label = c.option := by
  obtain ⟨piece, hpiece, hread⟩ := exists_of_mem_mapM (decode_lenient h).1 hc
  obtain ⟨slice, hslice, call, b, -, rfl, hspelled⟩ := Condition.exists_spelledBy_of_decode hread
  have htext : call.spelled b <:+: t := hslice.trans ((inOrder_pieces t).infix_of_mem hpiece)
  have hfield : call.field <:+: call.spelled b :=
    ⟨call.name ++ ['('], ',' :: b :: call.value ++ [')'], by simp [Call.spelled]⟩
  have hvalue : call.value <:+: call.spelled b :=
    ⟨call.name ++ '(' :: call.field ++ [',', b], [')'], by simp [Call.spelled]⟩
  obtain ⟨k, hk, hoption, -⟩ := hspelled.meaning
  refine ⟨?_, hspelled.query.trans (hvalue.trans htext), k, (Registry.find?_eq_some_iff.mp hk).1,
    hoption.symm⟩
  rw [hspelled.field]
  exact hfield.trans htext

theorem Condition.escape_notMem_text {legacy : Bool} {c : Condition} {k : Comparator}
    (hk : k ∈ Registry.standard.comparators) (hfield : '\x1b' ∉ c.field)
    (hquery : '\x1b' ∉ c.query) : '\x1b' ∉ (toCall legacy k c).text := by
  have hname : '\x1b' ∉ k.nameFor legacy :=
    (Comparator.isWord_nameFor legacy k hk).notMem (by decide)
  have hvalue : '\x1b' ∉ k.codec.encode c.query := notMem_encode hk (by decide) hquery
  simp [toCall, Call.text, hname, hfield, hvalue]

namespace FilterSet

variable {t : Text} {s : FilterSet} {legacy : Bool}

theorem escape_notMem_assemble {joiner : Text} {absent : Bool} {fields calls : List Text}
    (hjoiner : '\x1b' ∉ joiner) (hfields : ∀ f ∈ fields, '\x1b' ∉ f)
    (hcalls : ∀ call ∈ calls, '\x1b' ∉ call) {wire : Text}
    (h : assemble joiner absent fields calls = some wire) : '\x1b' ∉ wire := by
  have hbody : '\x1b' ∉ joiner.intercalate calls := Text.notMem_intercalate hjoiner hcalls
  have hchecks : '\x1b' ∉ Guard.checkJoiner.intercalate (fields.map Guard.nullCheck) := by
    apply Text.notMem_intercalate (by decide)
    intro check hcheck
    obtain ⟨f, hf, rfl⟩ := List.mem_map.mp hcheck
    simp [Guard.nullCheck, Guard.nullCheckName, hfields f hf]
  rw [assemble] at h
  split at h
  · cases h
  · obtain rfl := Option.some.inj h
    split
    · simp [Guard.wrapNullChecks, Guard.wrapSentinel, Guard.separator, Guard.sentinelEnd, hbody,
        hchecks]
    · simp [Guard.wrapSentinel, Guard.sentinelEnd, hbody]

/-- What was read at one place can be written, without characters that were not read. -/
theorem exists_call_of_place (h : (decode false t).outcome = .ok s) {c : Condition}
    (hc : some c ∈ s.filters) (legacy : Bool) : ∃ call,
      (encodeEntry legacy (some c)).outcome = .ok call ∧ ('\x1b' ∉ t → '\x1b' ∉ call) := by
  obtain ⟨hfield, hquery, k, hk, hlabel⟩ := parts_of_decode h hc
  refine ⟨_, Condition.outcome_encode hk hlabel, fun ht => Condition.escape_notMem_text hk ?_ ?_⟩
  · exact fun hmem => ht (hfield.subset hmem)
  · exact fun hmem => ht (hquery.subset hmem)

/-- A set that was read without holes can be written, and has an expression unless it is empty. -/
theorem encode_of_decode (h : (decode false t).outcome = .ok s) (hwhole : none ∉ s.filters)
    (legacy : Bool) : ∃ wire, (encode legacy s).outcome = .ok wire ∧
      (wire = none ↔ s.filters = []) ∧ ('\x1b' ∉ t → ∀ u, wire = some u → '\x1b' ∉ u) := by
  have hplace : ∀ f ∈ s.filters, ∃ call, (encodeEntry legacy f).outcome = .ok call ∧
      ('\x1b' ∉ t → '\x1b' ∉ call) := by
    intro f hf
    cases f with
    | none => exact absurd hf hwhole
    | some c => exact exists_call_of_place h hf legacy
  obtain ⟨calls, hcalls⟩ := exists_mapM_eq_ok fun f hf => (hplace f hf).imp fun _ hcall => hcall.1
  have hempty : calls = [] ↔ s.filters = [] := eq_nil_iff_of_mapM_eq_ok hcalls
  have hnonempty : ∀ call ∈ calls, call ≠ [] := by
    intro call hcall
    obtain ⟨f, -, hwritten⟩ := exists_of_mem_mapM hcalls hcall
    exact ne_nil_of_encodeEntry hwritten
  refine ⟨_, outcome_encode_of_calls hcalls, (assemble_eq_none_iff hnonempty).trans hempty,
    fun ht u hu => ?_⟩
  apply escape_notMem_assemble _ _ _ hu
  · cases s.mode.getD .and <;> decide
  · intro f hf
    obtain ⟨g, hg, hfield⟩ := List.mem_filterMap.mp hf
    obtain ⟨c, rfl, rfl⟩ := Option.map_eq_some_iff.mp hfield
    exact fun hmem => ht ((parts_of_decode h hg).1.subset hmem)
  · intro call hcall
    obtain ⟨f, hf, hwritten⟩ := exists_of_mem_mapM hcalls hcall
    obtain ⟨call', hwritten', hclear⟩ := hplace f hf
    obtain rfl := Except.ok.inj (hwritten.symm.trans hwritten')
    exact hclear ht

/-- A hole cannot be written. -/
theorem encode_of_hole (h : none ∈ s.filters) (legacy : Bool) :
    ∃ e, (encode legacy s).outcome = .error e := by
  cases hcalls : s.filters.mapM fun f => (encodeEntry legacy f).outcome with
  | error e =>
      refine ⟨e, ?_⟩
      rw [encode, Logged.outcome_bind, Logged.outcome_each, hcalls]
      rfl
  | ok calls =>
      obtain ⟨call, -, hcall⟩ := exists_of_mapM_eq_ok hcalls h
      cases hcall

end FilterSet

end FilterWire
