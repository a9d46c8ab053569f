import FilterWire.Proofs.FilterSet.RoundTrip

/-!
# Reading an expression and writing it again

An expression by the names of legacy writing is written again call by
call. Each call keeps its field and its value, and its name too unless it
is a plain match behind the shared name, which goes by its own token then.
-/

namespace FilterWire

namespace Comparator

/-- The names that legacy writing gives to calls. -/
def legacyNames : List Text :=
  Registry.standard.comparators.map (·.nameFor true)

theorem plain_of_nameFor_ne : ∀ legacy, ∀ k ∈ Registry.standard.comparators,
    k.nameFor true ≠ sharedName →
      k.codec = .plain ∧ k.token = k.nameFor true ∧ k.nameFor legacy = k.nameFor true := by
  decide

/-- Only a plain match gives up the shared name. -/
theorem nameFor_ofSharedName (legacy : Bool) (value : Text) :
    (ofSharedName value).nameFor legacy =
      if ofSharedName value = matching then matching.token else sharedName := by
  rcases ofSharedName_cases value with h | h | h | h <;> rw [h] <;> cases legacy <;> decide

end Comparator

namespace Call

open Comparator (sharedName ofSharedName matching legacyNames)

/-- What a call of a well-formed expression looks like. -/
structure Expressible (absent : Bool) (call : Call) : Prop where
  name : call.name ∈ legacyNames
  field : IsReference call.field
  value_ne_nil : call.value ≠ []
  value_oneLine : '\n' ∉ call.value
  noCombiner : ¬ HasCombiner (' ' :: call.value)
  balanced : absent = true → Group.Balanced call.value
  noNullCheck : absent = false →
    ¬ Guard.nullCheckName <:+: call.field ∧ ¬ Guard.nullCheckName <:+: call.value

/-- Behind the shared name the value stands in the brackets of the comparator that it is read as,
a plain match in none. -/
def Bracketed (call : Call) : Prop :=
  call.name = sharedName → ∃ q, (ofSharedName call.value).codec.encode q = call.value

/-- A match by the shared name whose value has no brackets. -/
def IsPlainMatch (call : Call) : Prop :=
  call.name = sharedName ∧ ofSharedName call.value = matching

instance (call : Call) : Decidable call.IsPlainMatch :=
  inferInstanceAs (Decidable (_ ∧ _))

/-- The call as it is written again. -/
def restated (call : Call) : Call :=
  if call.IsPlainMatch then { call with name := matching.token } else call

theorem field_restated (call : Call) : call.restated.field = call.field := by
  rw [restated]
  split <;> rfl

theorem map_field_restated (calls : List Call) :
    (calls.map restated).map (·.field) = calls.map (·.field) := by
  rw [List.map_map]
  exact List.map_congr_left fun call _ => call.field_restated

variable {absent : Bool} {call : Call}

theorem Expressible.isWord_name (h : call.Expressible absent) : IsWord call.name := by
  obtain ⟨k, hk, hname⟩ := List.mem_map.mp h.name
  exact hname ▸ Comparator.isWord_nameFor true k hk

theorem Expressible.joinable (h : call.Expressible absent) :
    Condition.Joinable absent call.text where
  ne_nil := text_ne_nil
  noCombiner := not_hasCombiner_text h.isWord_name h.field h.noCombiner
  balanced habsent := balanced_text h.isWord_name h.field (h.balanced habsent)
  noNullCheck := by
    intro habsent hnull
    obtain ⟨hfield, hvalue⟩ := h.noNullCheck habsent
    rcases nullCheckName_infix_text_iff.mp hnull with hin | hin | hin
    · obtain ⟨k, hk, hname⟩ := List.mem_map.mp h.name
      rw [← hname] at hin
      exact Comparator.nullCheckName_absent_nameFor true k hk hin
    · exact hfield hin
    · exact hvalue hin

/-- A call whose value was written for its comparator is read as the condition behind it. -/
theorem read_and_write {k : Comparator} {q : Text} (hfind : find? call.text = some call)
    (hk : k ∈ Registry.standard.comparators) (hcomparator : Condition.comparatorOf call = .ok k)
    (hq : k.codec.encode q = call.value) (legacy : Bool) :
    (Condition.decode call.text).outcome = .ok (some ⟨call.field, k.label, q⟩) ∧
      (Condition.encode legacy ⟨call.field, k.label, q⟩).outcome =
        .ok (text ⟨k.nameFor legacy, call.field, call.value⟩) := by
  constructor
  · have hdecode : k.codec.decode call.value = q := by rw [← hq, Codec.decode_encode]
    rw [Condition.outcome_decode_of_call hfind, Condition.ofCall, hcomparator]
    change Except.ok (some (Condition.mk call.field k.label (k.codec.decode call.value))) = _
    rw [hdecode]
  · rw [Condition.outcome_encode hk rfl, Condition.toCall, hq]

/-- A call is read as a condition that is written as the same call, up to the name of a plain
match. -/
theorem Expressible.exists_condition (h : call.Expressible absent) (hbracketed : call.Bracketed)
    (legacy : Bool) :
    ∃ c : Condition, (Condition.decode call.text).outcome = .ok (some c) ∧
      c.field = call.field ∧ (Condition.encode legacy c).outcome = .ok call.restated.text := by
  have hfind : find? call.text = some call := by
    have htext := find?_text h.isWord_name h.field h.value_oneLine
    rwa [if_neg h.value_ne_nil] at htext
  by_cases hshared : call.name = sharedName
  · obtain ⟨q, hq⟩ := hbracketed hshared
    have hcomparator : Condition.comparatorOf call = .ok (ofSharedName call.value) := by
      rw [Condition.comparatorOf, if_pos hshared]
    obtain ⟨hread, hwrite⟩ :=
      read_and_write hfind (Comparator.ofSharedName_mem call.value) hcomparator hq legacy
    refine ⟨_, hread, rfl, hwrite.trans ?_⟩
    rw [Comparator.nameFor_ofSharedName, restated]
    by_cases hmatching : ofSharedName call.value = matching
    · rw [if_pos hmatching, if_pos ⟨hshared, hmatching⟩]
    · rw [if_neg hmatching, if_neg fun hplain => hmatching hplain.2, ← hshared]
  · obtain ⟨k, hk, hname⟩ := List.mem_map.mp h.name
    obtain ⟨hplain, htoken, hlegacy⟩ :=
      Comparator.plain_of_nameFor_ne legacy k hk (by rwa [hname])
    have hcomparator := Condition.comparatorOf_token hk (htoken.trans hname)
    have hq : k.codec.encode call.value = call.value := by rw [hplain, Codec.encode]
    obtain ⟨hread, hwrite⟩ := read_and_write hfind hk hcomparator hq legacy
    refine ⟨_, hread, rfl, hwrite.trans ?_⟩
    rw [hlegacy, hname, restated, if_neg fun hmatch => hshared hmatch.1]

/-- The joined calls tell whether one of them is a plain match. -/
theorem intercalate_restated_eq_iff (sep : Text) {calls : List Call} :
    sep.intercalate ((calls.map restated).map text) = sep.intercalate (calls.map text) ↔
      ∀ call ∈ calls, ¬ call.IsPlainMatch := by
  constructor
  · intro h
    induction calls with
    | nil => simp
    | cons call calls ih =>
        -- `MATCH(` against `MATCHES(` tells the first call, the rest stands behind the same text
        have hnot : ¬ call.IsPlainMatch := by
          intro hplain
          have hname : call.name = sharedName := hplain.1
          cases calls <;>
            simp [restated, hplain, text, hname, sharedName, matching, Comparator.plain] at h
        have hsame : call.restated = call := by rw [restated, if_neg hnot]
        refine List.forall_mem_cons.mpr ⟨hnot, ?_⟩
        cases calls with
        | nil => simp
        | cons call' calls =>
            simp only [List.map_cons, List.intercalate_cons_cons, hsame, List.append_assoc] at h
            exact ih (List.append_cancel_left (List.append_cancel_left h))
  · intro h
    have hsame : calls.map restated = calls := by
      calc
        calls.map restated = calls.map id := List.map_congr_left fun call hcall => by
          rw [restated, if_neg (h call hcall), id]
        _ = calls := List.map_id calls
    rw [hsame]

end Call

namespace FilterSet

/-- What is written where an expression was read. -/
def restate (legacy : Bool) (t : Text) : Logged CodecError (Option Text) := do
  encode legacy (← decode false t)

/-- The expression of some calls. -/
def expression (m : Mode) (absent : Bool) (calls : List Call) : Text :=
  let body := Guard.wrapSentinel (m.joiner.intercalate (calls.map Call.text))
  if absent then Guard.wrapNullChecks body (calls.map (·.field)) else body

variable {m : Mode} {absent legacy : Bool} {calls : List Call}

theorem exists_conditions (hcalls : ∀ call ∈ calls, call.Expressible absent)
    (hbracketed : ∀ call ∈ calls, call.Bracketed) (legacy : Bool) :
    ∃ cs : List Condition, cs.map (·.field) = calls.map (·.field) ∧
      ((calls.map Call.text).mapM fun t => (Condition.decode t).outcome) = .ok (cs.map some) ∧
      (cs.mapM fun c => (Condition.encode legacy c).outcome) =
        .ok ((calls.map Call.restated).map Call.text) := by
  induction calls with
  | nil => exact ⟨[], rfl, rfl, rfl⟩
  | cons call calls ih =>
      obtain ⟨c, hread, hfield, hwrite⟩ :=
        (hcalls call List.mem_cons_self).exists_condition (hbracketed call List.mem_cons_self)
          legacy
      obtain ⟨cs, hfields, hreads, hwrites⟩ :=
        ih (fun d hd => hcalls d (List.mem_cons_of_mem call hd))
          fun d hd => hbracketed d (List.mem_cons_of_mem call hd)
      refine ⟨c :: cs, ?_, ?_, ?_⟩
      · rw [List.map_cons, List.map_cons, hfield, hfields]
      · exact mapM_cons_eq_ok_iff.mpr ⟨some c, cs.map some, hread, hreads, rfl⟩
      · exact mapM_cons_eq_ok_iff.mpr ⟨_, _, hwrite, hwrites, rfl⟩

theorem assemble_eq_expression (m : Mode) (absent : Bool) (hne : calls ≠ []) :
    assemble m.joiner absent (calls.map (·.field)) (calls.map Call.text) =
      some (expression m absent calls) := by
  have hnonempty : ∀ t ∈ calls.map Call.text, t ≠ [] :=
    List.forall_mem_map.mpr fun _ _ => Call.text_ne_nil
  rw [assemble_of_calls (by simpa using hne) hnonempty]
  rfl

/-- A single call is joined to nothing. -/
theorem expression_mode (m m' : Mode) (h : ¬ 2 ≤ calls.length) :
    expression m absent calls = expression m' absent calls := by
  have hbody : m.joiner.intercalate (calls.map Call.text) =
      m'.joiner.intercalate (calls.map Call.text) := by
    cases calls with
    | nil => rfl
    | cons call calls =>
        obtain rfl : calls = [] := by
          rw [List.length_cons] at h
          exact List.length_eq_zero_iff.mp (by omega)
        rfl
  rw [expression, expression, hbody]

theorem expression_restated_eq_iff :
    expression m absent (calls.map Call.restated) = expression m absent calls ↔
      ∀ call ∈ calls, ¬ call.IsPlainMatch := by
  rw [← Call.intercalate_restated_eq_iff m.joiner, expression, expression,
    Call.map_field_restated]
  cases absent with
  | false => simp [Guard.wrapSentinel]
  | true => simp [Guard.wrapNullChecks, Guard.wrapSentinel]

/-- An expression is written again call by call with the same mode and the same guard, only a
plain match behind the shared name changes its name. So it comes back as it was exactly if it
holds none of these. -/
theorem restate_expression (hne : calls ≠ []) (hcalls : ∀ call ∈ calls, call.Expressible absent)
    (hbracketed : ∀ call ∈ calls, call.Bracketed) :
    (restate legacy (expression m absent calls)).outcome =
        .ok (some (expression m absent (calls.map Call.restated))) ∧
      (expression m absent (calls.map Call.restated) = expression m absent calls ↔
        ∀ call ∈ calls, ¬ call.IsPlainMatch) := by
  refine ⟨?_, expression_restated_eq_iff⟩
  obtain ⟨cs, hfields, hreads, hwrites⟩ := exists_conditions hcalls hbracketed legacy
  have hreference : ∀ f ∈ calls.map (·.field), IsReference f := by
    intro f hf
    obtain ⟨call, hcall, rfl⟩ := List.mem_map.mp hf
    exact (hcalls call hcall).field
  have hjoin : ∀ t ∈ calls.map Call.text, Condition.Joinable absent t := by
    intro t ht
    obtain ⟨call, hcall, rfl⟩ := List.mem_map.mp ht
    exact (hcalls call hcall).joinable
  obtain ⟨t, htext, hdecode⟩ := outcome_decode_assemble (m := m) (by simpa using hne) hreference
    (by simpa using hne) hjoin
  rw [assemble_eq_expression m absent hne] at htext
  obtain rfl := Option.some.inj htext
  rw [hreads, List.length_map] at hdecode
  have hrestated : calls.map Call.restated ≠ [] := by simpa using hne
  have hwritten := assemble_eq_expression (if 2 ≤ calls.length then m else .and) absent hrestated
  rw [Call.map_field_restated] at hwritten
  rw [restate, Logged.outcome_bind, hdecode]
  change (encode legacy ⟨some (if 2 ≤ calls.length then m else .and), absent,
    cs.map some⟩).outcome = _
  rw [outcome_encode hwrites, hfields, Option.getD_some, hwritten]
  split
  · rfl
  · rw [expression_mode .and m (by rwa [List.length_map])]

/-- A bracketed match with a loose word, and a plain match with parentheses. -/
theorem restate_expression_of_two :
    (restate true (expression .or true [⟨"MATCHES".toList, "[a]".toList, "[^x\tAND.*]".toList⟩,
        ⟨"MATCHES".toList, "[b]".toList, "f(y)".toList⟩])).outcome =
      .ok (some (expression .or true [⟨"MATCHES".toList, "[a]".toList, "[^x\tAND.*]".toList⟩,
        ⟨"MATCH".toList, "[b]".toList, "f(y)".toList⟩])) ∧
    expression .or true [⟨"MATCHES".toList, "[a]".toList, "[^x\tAND.*]".toList⟩,
        ⟨"MATCHES".toList, "[b]".toList, "f(y)".toList⟩] =
      ("(IS_NULL([a]) AND IS_NULL([b])) OR " ++
        "((MATCHES([a], [^x\tAND.*]) OR MATCHES([b], f(y))) ?: false)").toList := by
  obtain ⟨hout, -⟩ := @restate_expression .or true true
    [⟨"MATCHES".toList, "[a]".toList, "[^x\tAND.*]".toList⟩,
      ⟨"MATCHES".toList, "[b]".toList, "f(y)".toList⟩] (by decide) (by
        simp only [List.forall_mem_cons, List.not_mem_nil, false_imp_iff, implies_true, and_true]
        exact ⟨⟨by decide, ⟨"a".toList, by decide, rfl⟩, by decide, by decide, by decide, by decide,
            by decide⟩,
          ⟨by decide, ⟨"b".toList, by decide, rfl⟩, by decide, by decide, by decide, by decide,
            by decide⟩⟩) (by
        simp only [List.forall_mem_cons, List.not_mem_nil, false_imp_iff, implies_true, and_true]
        exact ⟨fun _ => ⟨"x\tAND".toList, by decide⟩, fun _ => ⟨"f(y)".toList, by decide⟩⟩)
  have hrestated : [⟨"MATCHES".toList, "[a]".toList, "[^x\tAND.*]".toList⟩,
      ⟨"MATCHES".toList, "[b]".toList, "f(y)".toList⟩].map Call.restated =
        [⟨"MATCHES".toList, "[a]".toList, "[^x\tAND.*]".toList⟩,
          ⟨"MATCH".toList, "[b]".toList, "f(y)".toList⟩] := by decide
  rw [hrestated] at hout
  exact ⟨hout, by decide⟩

/-- A plain match behind the shared name stands in a well-formed expression and does not come
back as it was. -/
theorem restate_plain_match_ne :
    Call.Expressible false ⟨"MATCHES".toList, "[a]".toList, "foo".toList⟩ ∧
      Group.Balanced "foo".toList ∧
      expression .and false [⟨"MATCHES".toList, "[a]".toList, "foo".toList⟩] =
        "(MATCHES([a], foo)) ?: false".toList ∧
      (restate true "(MATCHES([a], foo)) ?: false".toList).outcome =
        .ok (some "(MATCH([a], foo)) ?: false".toList) ∧
      (restate true "(MATCHES([a], foo)) ?: false".toList).outcome ≠
        .ok (some "(MATCHES([a], foo)) ?: false".toList) := by
  have hout : (restate true "(MATCHES([a], foo)) ?: false".toList).outcome =
      .ok (some "(MATCH([a], foo)) ?: false".toList) := by rfl
  refine ⟨⟨by decide, ⟨"a".toList, by decide, rfl⟩, by decide, by decide, by decide, by decide,
    by decide⟩, by decide, by decide, hout, ?_⟩
  rw [hout]
  intro h
  exact absurd (Option.some.inj (Except.ok.inj h)) (by decide)

end FilterSet

end FilterWire
