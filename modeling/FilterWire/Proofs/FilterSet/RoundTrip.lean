import FilterWire.Proofs.Condition.Transmission
import FilterWire.Proofs.FilterSet.Segments
import FilterWire.Proofs.FilterSet.WrittenCall
import FilterWire.Proofs.FilterSet.Writing

/-!
# Writing a filter set and reading it again

A written filter set is read condition by condition: what happens to each
of them is what happens to it on its own, wherever it stands and however
many there are.
-/

namespace FilterWire

theorem Mode.balanced_joiner (m : Mode) : Group.Balanced m.joiner := by
  cases m <;> decide

/-- What a condition has to satisfy to travel with others: its value holds no combiner, and it
can stand behind the null checks or without them. -/
structure Condition.Conveyable (absent : Bool) (c : Condition) : Prop where
  registered : c.option ∈ Registry.standard.labels
  field : IsReference c.field
  oneLine : '\n' ∉ c.query
  noCombiner : ∀ k ∈ Registry.standard.comparators, k.label = c.option →
    ¬ HasCombiner (' ' :: k.codec.encode c.query)
  balanced : absent = true → Group.Balanced c.query
  noNullCheck : absent = false →
    ¬ Guard.nullCheckName <:+: c.field ∧ ¬ Guard.nullCheckName <:+: c.query

namespace Condition

/-- What joining asks of a piece. -/
structure Joinable (absent : Bool) (t : Text) : Prop where
  ne_nil : t ≠ []
  noCombiner : ¬ HasCombiner (t ++ [' '])
  balanced : absent = true → Group.Balanced t
  noNullCheck : absent = false → ¬ Guard.nullCheckName <:+: t

variable {legacy absent : Bool} {c : Condition}

theorem Conveyable.exists_joinable (hc : c.Conveyable absent) (legacy : Bool) :
    ∃ t, (encode legacy c).outcome = .ok t ∧ Joinable absent t := by
  obtain ⟨k, hk, hlabel⟩ := Registry.mem_labels_iff.mp hc.registered
  have hname := Comparator.isWord_nameFor legacy k hk
  refine ⟨(toCall legacy k c).text, outcome_encode hk hlabel, Call.text_ne_nil, ?_, ?_, ?_⟩
  · exact Call.not_hasCombiner_text hname hc.field (hc.noCombiner k hk hlabel)
  · intro habsent
    exact Call.balanced_text hname hc.field (Comparator.balanced_encode hk (hc.balanced habsent))
  · intro habsent hnull
    obtain ⟨hfield, hquery⟩ := hc.noNullCheck habsent
    rcases Call.nullCheckName_infix_text_iff.mp hnull with h | h | h
    · exact Comparator.nullCheckName_absent_nameFor legacy k hk h
    · exact hfield h
    · exact hquery (Comparator.nullCheckName_infix_encode hk h)

theorem Conveyable.exists_transmit (hc : c.Conveyable absent) (legacy : Bool) :
    ∃ d, (transmit legacy c).outcome = .ok d := by
  obtain ⟨k, hk, hlabel⟩ := Registry.mem_labels_iff.mp hc.registered
  exact ⟨_, outcome_transmit hk hlabel hc.field hc.oneLine⟩

theorem exists_calls {cs : List Condition} (hcs : ∀ c ∈ cs, c.Conveyable absent)
    (legacy : Bool) : ∃ calls, (cs.mapM fun c => (encode legacy c).outcome) = .ok calls ∧
      calls.length = cs.length ∧ ∀ t ∈ calls, Joinable absent t := by
  have hencode : ∀ c ∈ cs, ∃ t, (encode legacy c).outcome = .ok t ∧ Joinable absent t :=
    fun c hc => (hcs c hc).exists_joinable legacy
  obtain ⟨calls, hcalls⟩ := exists_mapM_eq_ok fun c hc => (hencode c hc).imp fun _ ht => ht.1
  refine ⟨calls, hcalls, length_of_mapM_eq_ok hcalls, fun t ht => ?_⟩
  obtain ⟨c, hc, hct⟩ := exists_of_mem_mapM hcalls ht
  obtain ⟨t', ht', hjoin⟩ := hencode c hc
  obtain rfl := Except.ok.inj (hct.symm.trans ht')
  exact hjoin

end Condition

namespace FilterSet

open Condition (Joinable)

/-- What is read where a filter set was written. -/
def transmit (legacy : Bool) (s : FilterSet) : Logged CodecError FilterSet := do
  match ← encode legacy s with
  | some t => decode false t
  | none => pure empty

variable {legacy absent : Bool} {mode : Option Mode} {cs : List Condition}

theorem outcome_decode_assemble {m : Mode} {fields calls : List Text} (hfields : fields ≠ [])
    (hreference : ∀ f ∈ fields, IsReference f) (hne : calls ≠ [])
    (hjoin : ∀ t ∈ calls, Joinable absent t) :
    ∃ t, assemble m.joiner absent fields calls = some t ∧ (decode false t).outcome =
      (calls.mapM fun t => (Condition.decode t).outcome).map
        fun ds => ⟨some (if 2 ≤ calls.length then m else .and), absent, ds⟩ := by
  have hnonempty : ∀ t ∈ calls, t ≠ [] := fun t ht => (hjoin t ht).ne_nil
  have hcombiner : ∀ t ∈ calls, ¬ HasCombiner (t ++ [' ']) := fun t ht => (hjoin t ht).noCombiner
  rw [assemble_of_calls hne hnonempty]
  cases absent with
  | false =>
      exact ⟨_, rfl, outcome_decode_wrapSentinel hne hnonempty hcombiner
        fun t ht => (hjoin t ht).noNullCheck rfl⟩
  | true =>
      have hsep : ¬ Guard.separator <:+:
          Guard.checkJoiner.intercalate (fields.map Guard.nullCheck) :=
        Guard.separator_absent fun f hf => Text.absent_of_notMem List.mem_cons_self
          ((hreference f hf).notMem (by decide) (by decide) (by decide))
      have hbody : Group.Balanced (Guard.wrapSentinel (m.joiner.intercalate calls)) :=
        Guard.balanced_wrapSentinel (Group.Balanced.intercalate m.balanced_joiner
          fun t ht => (hjoin t ht).balanced rfl)
      refine ⟨_, rfl, ?_⟩
      change (decode false (Guard.guarded _ _)).outcome = _
      rw [outcome_decode_guarded (Guard.nullCheckName_infix_checks hfields) hsep hbody,
        Guard.stripSentinel_wrapSentinel, outcome_decodeBody_intercalate hne hnonempty hcombiner]

theorem outcome_encode {calls : List Text}
    (hcalls : (cs.mapM fun c => (Condition.encode legacy c).outcome) = .ok calls) :
    (encode legacy ⟨mode, absent, cs.map some⟩).outcome =
      .ok (assemble (mode.getD .and).joiner absent (cs.map (·.field)) calls) := by
  have hfields : (⟨mode, absent, cs.map some⟩ : FilterSet).fields = cs.map (·.field) := by
    simp [fields, List.filterMap_map]
  rw [encode, hfields]
  simp only [Logged.outcome_bind, Logged.outcome_each, List.mapM_map, Function.comp_def,
    encodeEntry, hcalls]
  rfl

/-- A filter set is read condition by condition, each as it is read on its own; the mode is kept
if it joins anything. -/
theorem transmit_of_conveyable (hne : cs ≠ []) (hcs : ∀ c ∈ cs, c.Conveyable absent) :
    ∃ ds, (cs.mapM fun c => (Condition.transmit legacy c).outcome) = .ok ds ∧
      (transmit legacy ⟨mode, absent, cs.map some⟩).outcome =
        .ok ⟨some (if 2 ≤ cs.length then mode.getD .and else .and), absent, ds⟩ ∧
      ((∀ c ∈ cs, (Condition.transmit legacy c).outcome = .ok (some c)) → ds = cs.map some) := by
  obtain ⟨ds, hds⟩ := exists_mapM_eq_ok fun c hc => (hcs c hc).exists_transmit legacy
  obtain ⟨calls, hcalls, hlength, hjoin⟩ := Condition.exists_calls hcs legacy
  refine ⟨ds, hds, ?_, fun hsame => Except.ok.inj (hds.symm.trans (mapM_eq_ok_map hsame))⟩
  have hreference : ∀ f ∈ cs.map (·.field), IsReference f := by
    intro f hf
    obtain ⟨c, hc, rfl⟩ := List.mem_map.mp hf
    exact (hcs c hc).field
  have hcallsne : calls ≠ [] := by
    rw [← List.length_pos_iff, hlength]
    exact List.length_pos_of_ne_nil hne
  have hread : (calls.mapM fun t => (Condition.decode t).outcome) = .ok ds := by
    rw [← mapM_bind_of_mapM hcalls, ← hds]
    simp only [Condition.transmit, Logged.outcome_bind]
  obtain ⟨t, htext, hdecode⟩ := outcome_decode_assemble (m := mode.getD .and)
    (by simpa using hne) hreference hcallsne hjoin
  rw [transmit, Logged.outcome_bind, outcome_encode hcalls, htext]
  change (decode false t).outcome = _
  rw [hdecode, hread, hlength]
  rfl

/-- An option that cannot be told again, a query that looks like brackets, and an empty value. -/
theorem transmit_of_three :
    (transmit true ⟨some .or, true,
        [some ⟨"[a]".toList, "Text is exactly".toList, "x\tANDy (z)\tOR".toList⟩,
          some ⟨"[IS_NULL]".toList, "Text ends with".toList, "] ([.*^)".toList⟩,
          some ⟨"[c]".toList, "Less than".toList, []⟩]⟩).outcome =
      .ok ⟨some .or, true,
        [some ⟨"[a]".toList, "Matches".toList, "x\tANDy (z)\tOR".toList⟩,
          some ⟨"[IS_NULL]".toList, "Text ends with".toList, "] ([.*^)".toList⟩, none]⟩ := by
  obtain ⟨ds, hds, hout, -⟩ := @transmit_of_conveyable true true (some .or)
    [⟨"[a]".toList, "Text is exactly".toList, "x\tANDy (z)\tOR".toList⟩,
      ⟨"[IS_NULL]".toList, "Text ends with".toList, "] ([.*^)".toList⟩,
      ⟨"[c]".toList, "Less than".toList, []⟩] (by decide) (by
      simp only [List.forall_mem_cons, List.not_mem_nil, false_imp_iff, implies_true, and_true]
      refine ⟨⟨by decide, ⟨"a".toList, by decide, rfl⟩, by decide, by decide, by decide, by decide⟩,
        ⟨by decide, ⟨"IS_NULL".toList, by decide, rfl⟩, by decide, by decide, by decide, by decide⟩,
        ⟨by decide, ⟨"c".toList, by decide, rfl⟩, by decide, by decide, by decide, by decide⟩⟩)
  obtain rfl := Except.ok.inj hds
  exact hout

end FilterSet

end FilterWire
