import FilterWire.Proofs.FilterSet.RoundTrip
import Mathlib.Algebra.Order.BigOperators.Group.List
import Mathlib.Algebra.Order.Group.Nat

/-!
# Conditions that stay apart

The joiner cuts the joined calls between them and wherever else it stands
in one of them. So conditions that come back on their own come back as a
filter set exactly if no value holds the joiner, no other combiner stands
before the first one, and nothing is taken for a null check.
-/

namespace FilterWire

namespace Condition

/-- The value that stands for the query in a call. -/
def wireValue (c : Condition) : Text :=
  match Registry.standard.find? .label c.option with
  | some k => k.codec.encode c.query
  | none => c.query

/-- The call that a condition is written as; without a comparator it would have no name. -/
def call (legacy : Bool) (c : Condition) : Call :=
  match Registry.standard.find? .label c.option with
  | some k => toCall legacy k c
  | none => ⟨[], c.field, c.query⟩

variable {legacy : Bool} {c : Condition}

theorem value_call (legacy : Bool) (c : Condition) : (c.call legacy).value = c.wireValue := by
  rw [call, wireValue]
  split <;> rfl

theorem field_call (legacy : Bool) (c : Condition) : (c.call legacy).field = c.field := by
  rw [call]
  split <;> rfl

/-! ## Conditions that come back -/

section Restored

variable (h : (transmit legacy c).outcome = .ok (some c))

include h

theorem find?_label_of_transmit : ∃ k ∈ Registry.standard.comparators, k.label = c.option ∧
    Registry.standard.find? .label c.option = some k := by
  cases hfind : Registry.standard.find? .label c.option with
  | none =>
      rw [transmit, Logged.outcome_bind, encode, hfind] at h
      cases h
  | some k =>
      obtain ⟨hk, hlabel⟩ := Registry.find?_eq_some_iff.mp hfind
      exact ⟨k, hk, hlabel, rfl⟩

theorem outcome_encode_of_transmit : (encode legacy c).outcome = .ok (c.call legacy).text := by
  obtain ⟨k, hk, hlabel, hfind⟩ := find?_label_of_transmit h
  rw [call, hfind, outcome_encode hk hlabel]

theorem outcome_decode_of_transmit : (decode (c.call legacy).text).outcome = .ok (some c) := by
  have hread := h
  rw [transmit, Logged.outcome_bind, outcome_encode_of_transmit h] at hread
  exact hread

theorem isReference_of_transmit : IsReference (c.call legacy).field := by
  rw [field_call]
  exact (shape_of_decode (outcome_decode_of_transmit h)).1

theorem isWord_of_transmit : IsWord (c.call legacy).name := by
  obtain ⟨k, hk, -, hfind⟩ := find?_label_of_transmit h
  rw [call, hfind]
  exact Comparator.isWord_nameFor legacy k hk

theorem nullCheckName_infix_call_iff : Guard.nullCheckName <:+: (c.call legacy).text ↔
    Guard.nullCheckName <:+: c.field ∨ Guard.nullCheckName <:+: c.query := by
  obtain ⟨k, hk, -, hfind⟩ := find?_label_of_transmit h
  have hname : ¬ Guard.nullCheckName <:+: (c.call legacy).name := by
    rw [call, hfind]
    exact Comparator.nullCheckName_absent_nameFor legacy k hk
  have hvalue : Guard.nullCheckName <:+: c.wireValue ↔ Guard.nullCheckName <:+: c.query := by
    rw [wireValue, hfind]
    refine ⟨Comparator.nullCheckName_infix_encode hk, fun hquery => ?_⟩
    obtain ⟨opening, closing, hencode, -, -⟩ := Comparator.exists_brackets hk
    have hin : c.query <:+: k.codec.encode c.query := ⟨opening, closing, (hencode _).symm⟩
    exact hquery.trans hin
  rw [Call.nullCheckName_infix_text_iff, or_iff_right hname, field_call, value_call, hvalue]

end Restored

end Condition

namespace FilterSet

variable {m : Mode}

/-! ## The segments of joined calls -/

theorem segments_intercalate_eq_flatMap {calls : List Call} (hne : calls ≠ []) :
    segments m (m.joiner.intercalate (calls.map Call.text)) =
      (calls.map Call.text).flatMap (segments m) := by
  have hend : ∀ t ∈ calls.map Call.text, ∃ x c, c ∉ m.joiner ∧ t = x ++ [c] := by
    intro t ht
    obtain ⟨call, -, rfl⟩ := List.mem_map.mp ht
    obtain ⟨x, hx⟩ := call.exists_text_eq_concat
    exact ⟨x, ')', m.notMem_joiner (by decide) (by decide), hx⟩
  rw [segments, Text.split_intercalate_eq_flatMap m.joiner_ne_nil (by simpa using hne) hend,
    List.filter_flatMap]
  rfl

theorem segments_of_absent {t : Text} (hne : t ≠ []) (h : ¬ m.joiner <:+: t) :
    segments m t = [t] := by
  have hsplit : Text.split m.joiner t = [t] := Text.splitFrom_of_absent [] h
  rw [segments, hsplit]
  simpa using hne

/-- The name before a joiner in a call and the parenthesis after it stand in two segments. -/
theorem two_le_length_segments {call : Call} (hname : IsWord call.name)
    (h : m.joiner <:+: call.text) : 2 ≤ (segments m call.text).length := by
  obtain ⟨p, ps, q, hsplit⟩ := Text.split_eq_concat_of_infix m.joiner_ne_nil h
  have hfirst : p ≠ [] := by
    have hopen : '(' ∉ m.joiner := m.notMem_joiner (by decide) (by decide)
    have hword : ¬ m.joiner <:+: call.name := fun hin =>
      hname.notMem (c := ' ') (by decide) (hin.subset List.mem_cons_self)
    obtain ⟨a, as, ha⟩ := List.exists_cons_of_ne_nil
      (Text.splitFrom_ne_nil m.joiner 0 [] (call.field ++ ',' :: ' ' :: call.value ++ [')']))
    have htext : call.text =
        call.name ++ '(' :: (call.field ++ ',' :: ' ' :: call.value ++ [')']) := by
      simp [Call.text]
    have hwhole : Text.split m.joiner call.name = [] ++ [call.name] :=
      Text.splitFrom_of_absent [] hword
    have hcut := Text.split_append_cons m.joiner_ne_nil hopen hwhole ha
    rw [← htext, hsplit] at hcut
    obtain ⟨rfl, -⟩ := List.cons_eq_cons.mp hcut
    simp
  have hlast : q ≠ [] := by
    have hclose : ')' ∉ m.joiner := m.notMem_joiner (by decide) (by decide)
    obtain ⟨x, hx⟩ := call.exists_text_eq_concat
    obtain ⟨qs, b, hb⟩ := Text.exists_split_eq_concat m.joiner x
    have hcut := Text.split_append_cons m.joiner_ne_nil hclose hb
      (rfl : Text.split m.joiner [] = [[]])
    rw [← hx, hsplit, ← List.cons_append] at hcut
    have hq := (List.append_inj' hcut rfl).2
    obtain ⟨rfl, -⟩ := List.cons_eq_cons.mp hq
    simp
  have hsegments : segments m call.text = p :: (ps.filter (fun s => !s.isEmpty) ++ [q]) := by
    rw [segments, hsplit]
    simp [hfirst, hlast]
  rw [hsegments, List.length_cons, List.length_append, List.length_singleton]
  omega

theorem one_le_length_segments {call : Call} (hname : IsWord call.name) :
    1 ≤ (segments m call.text).length := by
  by_cases h : m.joiner <:+: call.text
  · exact Nat.one_le_of_lt (two_le_length_segments hname h)
  · rw [segments_of_absent Call.text_ne_nil h]
    rfl

/-- A joiner in any of the calls makes more segments than there are calls. -/
theorem length_lt_length_segments {calls : List Call} (hname : ∀ call ∈ calls, IsWord call.name)
    {call : Call} (hcall : call ∈ calls) (h : m.joiner <:+: call.text) :
    calls.length < (segments m (m.joiner.intercalate (calls.map Call.text))).length := by
  have hsum : (calls.map fun _ => 1).sum < (calls.map fun c => (segments m c.text).length).sum :=
    List.sum_lt_sum _ _ (fun c hc => one_le_length_segments (hname c hc))
      ⟨call, hcall, two_le_length_segments (hname call hcall) h⟩
  rw [segments_intercalate_eq_flatMap (List.ne_nil_of_mem hcall), List.length_flatMap,
    List.map_map]
  simpa [Function.comp_def] using hsum

theorem segments_intercalate_of_absent {calls : List Call} (hne : calls ≠ [])
    (h : ∀ call ∈ calls, ¬ m.joiner <:+: call.text) :
    segments m (m.joiner.intercalate (calls.map Call.text)) = calls.map Call.text := by
  rw [segments_intercalate_eq_flatMap hne, List.flatMap_map]
  calc
    calls.flatMap (fun call => segments m call.text) = calls.flatMap fun call => [call.text] :=
      List.flatMap_congr fun call hcall => segments_of_absent Call.text_ne_nil (h call hcall)
    _ = calls.map Call.text := List.map_eq_flatMap.symm

/-- The first combiner of joined calls stands in the first value, or it is the joiner. -/
theorem mode_find?_intercalate (m : Mode) {call : Call} (calls : List Call)
    (hname : IsWord call.name) (hfield : IsReference call.field) :
    Mode.find? (m.joiner.intercalate ((call :: calls).map Call.text)) =
      (Mode.find? (' ' :: call.value)).or (if calls = [] then none else some m) := by
  cases calls with
  | nil =>
      have htext := Call.mode_find?_text_append hname hfield []
      rw [List.append_nil] at htext
      rw [List.map_singleton, List.intercalate_singleton, htext, if_pos rfl]
      rfl
  | cons call' calls =>
      rw [List.map_cons, List.map_cons, List.intercalate_cons_cons, List.append_assoc,
        Call.mode_find?_text_append hname hfield, Mode.find?_joiner, if_neg (List.cons_ne_nil _ _)]

/-! ## Filter sets that come back -/

/-- The joined calls of some conditions. -/
def joined (legacy : Bool) (m : Mode) (cs : List Condition) : Text :=
  m.joiner.intercalate ((cs.map (·.call legacy)).map Call.text)

/-- What keeps joined conditions apart. -/
structure Separable (m : Mode) (cs : List Condition) : Prop where
  noNullCheck : ∀ c ∈ cs,
    ¬ Guard.nullCheckName <:+: c.field ∧ ¬ Guard.nullCheckName <:+: c.query
  noJoiner : ∀ c ∈ cs, ¬ m.joiner <:+: ' ' :: c.wireValue
  firstCombiner : ∀ c ∈ cs.head?, ∀ m', Mode.find? (' ' :: c.wireValue) = some m' → m' = m

section Restored

variable {legacy : Bool} {cs : List Condition}
  (hcs : ∀ c ∈ cs, (Condition.transmit legacy c).outcome = .ok (some c))

include hcs

theorem outcome_transmit_of_restored (hne : cs ≠ []) :
    (transmit legacy ⟨some m, false, cs.map some⟩).outcome =
      (decode false (Guard.wrapSentinel (joined legacy m cs))).outcome := by
  have hcalls : (cs.mapM fun c => (Condition.encode legacy c).outcome) =
      .ok ((cs.map (·.call legacy)).map Call.text) := by
    rw [List.map_map]
    exact mapM_eq_ok_map fun c hc => Condition.outcome_encode_of_transmit (hcs c hc)
  have hnonempty : ∀ t ∈ (cs.map (·.call legacy)).map Call.text, t ≠ [] :=
    List.forall_mem_map.mpr fun _ _ => Call.text_ne_nil
  rw [transmit, Logged.outcome_bind, outcome_encode hcalls,
    assemble_of_calls (by simpa using hne) hnonempty]
  rfl

theorem nullCheckName_infix_joined_iff :
    Guard.nullCheckName <:+: Guard.wrapSentinel (joined legacy m cs) ↔
      ∃ c ∈ cs, Guard.nullCheckName <:+: c.field ∨ Guard.nullCheckName <:+: c.query := by
  constructor
  · intro h
    obtain ⟨t, ht, hin⟩ := Guard.nullCheckName_infix_intercalate
      (Guard.nullCheckName_infix_wrapSentinel h)
    obtain ⟨call, hcall, rfl⟩ := List.mem_map.mp ht
    obtain ⟨c, hc, rfl⟩ := List.mem_map.mp hcall
    exact ⟨c, hc, (Condition.nullCheckName_infix_call_iff (hcs c hc)).mp hin⟩
  · rintro ⟨c, hc, hin⟩
    have htext := (Condition.nullCheckName_infix_call_iff (hcs c hc)).mpr hin
    have hmem : (c.call legacy).text ∈ (cs.map (·.call legacy)).map Call.text :=
      List.mem_map_of_mem (List.mem_map_of_mem hc)
    exact (htext.trans (Text.infix_intercalate_of_mem hmem)).trans (Guard.infix_wrapSentinel _)

theorem mode_joined_iff (hne : cs ≠ []) (hone : cs.length = 1 → m = .and) :
    (Mode.find? (joined legacy m cs)).getD .and = m ↔
      ∀ c ∈ cs.head?, ∀ m', Mode.find? (' ' :: c.wireValue) = some m' → m' = m := by
  obtain ⟨c, rest, rfl⟩ := List.exists_cons_of_ne_nil hne
  have hc := hcs c List.mem_cons_self
  have hfind := mode_find?_intercalate m (rest.map (·.call legacy))
    (Condition.isWord_of_transmit hc) (Condition.isReference_of_transmit hc)
  rw [Condition.value_call] at hfind
  have hhead : (∀ d ∈ (c :: rest).head?,
      ∀ m', Mode.find? (' ' :: d.wireValue) = some m' → m' = m) ↔
        ∀ m', Mode.find? (' ' :: c.wireValue) = some m' → m' = m := by
    simp only [List.head?_cons, Option.mem_def, Option.some.injEq, forall_eq']
  rw [joined, List.map_cons, hfind, hhead]
  cases Mode.find? (' ' :: c.wireValue) with
  | some m₁ => simp
  | none =>
      by_cases hnil : rest = []
      · simp [hnil, hone (by simp [hnil])]
      · simp [hnil]

/-- Segment by segment the conditions are read again exactly if no value holds the joiner. -/
theorem read_segments_joined_iff (hne : cs ≠ []) :
    ((segments m (joined legacy m cs)).mapM fun s => (Condition.decode s).outcome) =
        .ok (cs.map some) ↔ ∀ c ∈ cs, ¬ m.joiner <:+: ' ' :: c.wireValue := by
  have hname : ∀ call ∈ cs.map (·.call legacy), IsWord call.name := by
    intro call hcall
    obtain ⟨c, hc, rfl⟩ := List.mem_map.mp hcall
    exact Condition.isWord_of_transmit (hcs c hc)
  have hjoiner : ∀ c ∈ cs,
      m.joiner <:+: (c.call legacy).text ↔ m.joiner <:+: ' ' :: c.wireValue := by
    intro c hc
    rw [Call.joiner_infix_text_iff (Condition.isWord_of_transmit (hcs c hc))
      (Condition.isReference_of_transmit (hcs c hc)), Condition.value_call]
  constructor
  · intro h c hc hin
    have hlength := length_of_mapM_eq_ok h
    have hlt := length_lt_length_segments hname (List.mem_map_of_mem hc) ((hjoiner c hc).mpr hin)
    rw [joined] at hlength
    rw [List.length_map] at hlength hlt
    omega
  · intro h
    have habsent : ∀ call ∈ cs.map (·.call legacy), ¬ m.joiner <:+: call.text := by
      intro call hcall
      obtain ⟨c, hc, rfl⟩ := List.mem_map.mp hcall
      exact (hjoiner c hc).not.mpr (h c hc)
    rw [joined, segments_intercalate_of_absent (by simpa using hne) habsent, List.mapM_map,
      List.mapM_map]
    exact mapM_eq_ok_map fun c hc => Condition.outcome_decode_of_transmit (hcs c hc)

theorem outcome_decodeBody_joined_iff (hne : cs ≠ []) (hone : cs.length = 1 → m = .and) :
    (decodeBody false false (joined legacy m cs)).outcome = .ok ⟨some m, false, cs.map some⟩ ↔
      (∀ c ∈ cs.head?, ∀ m', Mode.find? (' ' :: c.wireValue) = some m' → m' = m) ∧
        ∀ c ∈ cs, ¬ m.joiner <:+: ' ' :: c.wireValue := by
  rw [← mode_joined_iff hcs hne hone, ← read_segments_joined_iff hcs hne, outcome_decodeBody]
  simp only [outcome_decodeSegment_lenient]
  constructor
  · intro h
    obtain ⟨filters, hread, hset⟩ := map_eq_ok_iff.mp h
    obtain ⟨hmode, -, hfilters⟩ := FilterSet.mk.inj hset
    have hm := Option.some.inj hmode
    rw [hm] at hread
    exact ⟨hm, hfilters ▸ hread⟩
  · rintro ⟨hm, hread⟩
    rw [hm, hread]
    rfl

end Restored

/-- Conditions that come back on their own come back as a filter set exactly if nothing in them
joins, parts or guards the others: whatever else happens shows in the flag, in the mode or in the
number of segments. -/
theorem transmit_restored_iff {legacy : Bool} {cs : List Condition} (hne : cs ≠ [])
    (hone : cs.length = 1 → m = .and)
    (hcs : ∀ c ∈ cs, (Condition.transmit legacy c).outcome = .ok (some c)) :
    (transmit legacy ⟨some m, false, cs.map some⟩).outcome = .ok ⟨some m, false, cs.map some⟩ ↔
      Separable m cs := by
  have hnull := nullCheckName_infix_joined_iff (m := m) hcs
  rw [outcome_transmit_of_restored hcs hne]
  constructor
  · intro h
    have habsent : ¬ Guard.nullCheckName <:+: Guard.wrapSentinel (joined legacy m cs) := by
      intro hin
      rw [← Guard.trim_wrapSentinel] at hin
      exact Bool.false_ne_true (includesAbsent_of_decode hin h)
    rw [outcome_decode_of_absent habsent, Guard.stripSentinel_wrapSentinel,
      outcome_decodeBody_joined_iff hcs hne hone] at h
    refine ⟨fun c hc => ?_, h.2, h.1⟩
    rw [hnull] at habsent
    exact not_or.mp fun hin => habsent ⟨c, hc, hin⟩
  · rintro ⟨hnone, hjoiner, hfirst⟩
    have habsent : ¬ Guard.nullCheckName <:+: Guard.wrapSentinel (joined legacy m cs) := by
      rw [hnull]
      rintro ⟨c, hc, hin | hin⟩
      · exact (hnone c hc).1 hin
      · exact (hnone c hc).2 hin
    rw [outcome_decode_of_absent habsent, Guard.stripSentinel_wrapSentinel,
      outcome_decodeBody_joined_iff hcs hne hone]
    exact ⟨hfirst, hjoiner⟩

/-- The joiner's word between tabs, and the other word between single blanks. -/
theorem transmit_restored_with_loose_words :
    (transmit true ⟨some .or, false,
        [some ⟨"[a]".toList, "Matches".toList, "x\tOR\ty".toList⟩,
          some ⟨"[b]".toList, "Text contains".toList, "p AND q) OR".toList⟩]⟩).outcome =
      .ok ⟨some .or, false,
        [some ⟨"[a]".toList, "Matches".toList, "x\tOR\ty".toList⟩,
          some ⟨"[b]".toList, "Text contains".toList, "p AND q) OR".toList⟩]⟩ :=
  (@transmit_restored_iff .or true [⟨"[a]".toList, "Matches".toList, "x\tOR\ty".toList⟩,
      ⟨"[b]".toList, "Text contains".toList, "p AND q) OR".toList⟩] (by decide) (by decide) (by
        simp only [List.forall_mem_cons, List.not_mem_nil, false_imp_iff, implies_true, and_true]
        exact ⟨by rfl, by rfl⟩)).mpr
    ⟨by decide, by decide, by decide⟩

end FilterSet

end FilterWire
