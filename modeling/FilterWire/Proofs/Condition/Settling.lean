import FilterWire.Proofs.Condition.Transmission
import Mathlib.Logic.Function.Iterate

/-!
# Writing and reading again and again

A condition that was read can be written and read any number of times. Its
option changes twice at most: first from one that the name in a call hides
to one that the value tells, then to `contains`, which stays.
-/

namespace FilterWire

namespace Comparator

variable {legacy : Bool} {k : Comparator} {q : Text}

theorem codec_ne_plain : Comparator.contains.codec ≠ .plain ∧ startsWith.codec ≠ .plain ∧
    endsWith.codec ≠ .plain := by
  decide

theorem encode_eq_nil_iff (hk : k ∈ Registry.standard.comparators) :
    k.codec.encode q = [] ↔ k.codec = .plain ∧ q = [] := by
  obtain ⟨hcontains, hstarts, hends⟩ := codec_ne_plain
  rcases standard_cases k hk with rfl | rfl | rfl | ⟨hplain, -⟩
  · exact iff_of_false (by simp [encode_contains]) fun h => hcontains h.1
  · exact iff_of_false (by simp [encode_startsWith]) fun h => hstarts h.1
  · exact iff_of_false (by simp [encode_endsWith]) fun h => hends h.1
  · rw [hplain, Codec.encode, and_iff_right rfl]

theorem isLossy_ofSharedName (legacy : Bool) (value : Text) :
    (ofSharedName value).isLossy legacy = false := by
  rcases ofSharedName_cases value with h | h | h | h <;> rw [h] <;> cases legacy <;> decide

/-- A comparator that its name does not hide is found again, or `contains` is found for it. -/
theorem readAs_of_not_lossy (hk : k ∈ Registry.standard.comparators)
    (hlossy : k.isLossy legacy = false) (hq : '\n' ∉ q) :
    k.readAs legacy (k.codec.encode q) = k ∨
      k.readAs legacy (k.codec.encode q) = Comparator.contains := by
  rcases standard_cases k hk with rfl | rfl | rfl | ⟨hplain, hpattern⟩
  · exact Or.inl (ofSharedName_contains hq)
  · rw [readAs_pattern rfl]
    by_cases hin : ['[', '.', '*'] <:+: q
    · exact Or.inr (ofSharedName_startsWith_eq_contains hq hin)
    · exact Or.inl ((ofSharedName_startsWith_iff hq).mpr hin)
  · rw [readAs_pattern rfl]
    by_cases hin : ['.', '*', ']'] <:+: q
    · exact Or.inr (ofSharedName_endsWith_eq_contains hq hin)
    · exact Or.inl ((ofSharedName_endsWith_iff hq).mpr hin)
  · refine Or.inl ((readAs_plain_iff hk hplain hpattern legacy _).mpr fun hhidden => ?_)
    rw [(isLossy_iff legacy k hk).mpr ⟨hpattern, hhidden⟩] at hlossy
    cases hlossy

/-- What is found is never hidden by its own name. -/
theorem isLossy_readAs (hk : k ∈ Registry.standard.comparators) (value : Text) :
    (k.readAs legacy value).isLossy legacy = false := by
  rw [readAs]
  split
  case isTrue => exact isLossy_ofSharedName legacy value
  case isFalse hname =>
      rw [Bool.eq_false_iff, ne_eq, isLossy_iff legacy k hk]
      rintro ⟨-, hlegacy, htext⟩
      rw [nameFor, hlegacy, htext, Bool.and_self, Bool.or_true] at hname
      exact hname rfl

end Comparator

namespace Condition

variable {legacy : Bool} {c : Condition} {k : Comparator}

/-- A condition whose comparator writes it as a call with a value. -/
structure WrittenBy (c : Condition) (k : Comparator) : Prop where
  mem : k ∈ Registry.standard.comparators
  label : k.label = c.option
  field : IsReference c.field
  query_oneLine : '\n' ∉ c.query
  value_ne_nil : k.codec.encode c.query ≠ []

theorem comparatorOf_mem {call : Call} (h : comparatorOf call = .ok k) :
    k ∈ Registry.standard.comparators := by
  rw [comparatorOf] at h
  split at h
  · obtain rfl := Except.ok.inj h
    exact Comparator.ofSharedName_mem call.value
  · split at h
    case h_1 d hfind =>
        obtain rfl := Except.ok.inj h
        exact (Registry.find?_eq_some_iff.mp hfind).1
    case h_2 => cases h

/-- Whatever has been read can be written. -/
theorem exists_writtenBy_of_decode {t : Text} (h : (decode t).outcome = .ok (some c)) :
    ∃ k, WrittenBy c k := by
  obtain ⟨hfield, hquery⟩ := shape_of_decode h
  obtain ⟨call, k, hfind, hk, rfl⟩ := exists_call_of_decode h
  have hmem := comparatorOf_mem hk
  refine ⟨k, hmem, rfl, hfield, hquery, fun hnil => ?_⟩
  obtain ⟨hplain, hquery⟩ := (Comparator.encode_eq_nil_iff hmem).mp hnil
  have hvalue : call.value = [] := by simpa [hplain, Codec.decode] using hquery
  exact (Call.spelled_of_find? hfind).1.value_ne_nil hvalue

/-- The condition that is read where this one was written. -/
def reread (legacy : Bool) (c : Condition) : Condition :=
  match (transmit legacy c).outcome with
  | .ok (some d) => d
  | _ => c

namespace WrittenBy

theorem reread_eq (h : WrittenBy c k) : reread legacy c =
    ⟨c.field, (k.readAs legacy (k.codec.encode c.query)).label,
      (k.readAs legacy (k.codec.encode c.query)).codec.decode (k.codec.encode c.query)⟩ := by
  rw [reread, outcome_transmit h.mem h.label h.field h.query_oneLine, if_neg h.value_ne_nil]

theorem outcome_transmit_eq (h : WrittenBy c k) :
    (transmit legacy c).outcome = .ok (some (reread legacy c)) := by
  rw [h.reread_eq, outcome_transmit h.mem h.label h.field h.query_oneLine, if_neg h.value_ne_nil]

/-- What is read can be written again, under the comparator that was found. -/
theorem writtenBy_reread (h : WrittenBy c k) :
    WrittenBy (reread legacy c) (k.readAs legacy (k.codec.encode c.query)) := by
  have hread : (decode (toCall legacy k c).text).outcome = .ok (some (reread legacy c)) := by
    have htransmit : (transmit legacy c).outcome = .ok (some (reread legacy c)) :=
      h.outcome_transmit_eq
    rw [transmit, Logged.outcome_bind, outcome_encode h.mem h.label] at htransmit
    exact htransmit
  obtain ⟨k', hk'⟩ := exists_writtenBy_of_decode hread
  have hlabel : k'.label = (k.readAs legacy (k.codec.encode c.query)).label := by
    rw [hk'.label, h.reread_eq]
  rwa [← (Comparator.label_eq_iff hk'.mem (Comparator.readAs_mem h.mem legacy _)).mp hlabel]

theorem reread_eq_self (h : WrittenBy c k)
    (hread : k.readAs legacy (k.codec.encode c.query) = k) : reread legacy c = c := by
  rw [h.reread_eq, hread, Codec.decode_encode, h.label]

theorem reread_contains (h : WrittenBy c Comparator.contains) : reread legacy c = c :=
  h.reread_eq_self (Comparator.ofSharedName_contains h.query_oneLine)

theorem reread_matching (h : WrittenBy c Comparator.matching) : reread legacy c = c :=
  h.reread_eq_self ((Comparator.readAs_plain_iff h.mem rfl rfl legacy _).mpr fun hhidden =>
    absurd hhidden.2 (by decide))

/-- A comparator that its name does not hide is kept or given up for `contains`. -/
theorem reread_reread (h : WrittenBy c k) (hlossy : k.isLossy legacy = false) :
    reread legacy (reread legacy c) = reread legacy c := by
  rcases Comparator.readAs_of_not_lossy h.mem hlossy h.query_oneLine with hread | hread
  · rw [h.reread_eq_self hread, h.reread_eq_self hread]
  · exact WrittenBy.reread_contains (hread ▸ h.writtenBy_reread)

end WrittenBy

/-- Written and read again and again, a condition that was read stays a condition with its field.
It changes twice at most, in modern mode once, and never under `contains` or `matching`. -/
theorem transmit_settles (legacy : Bool) {t : Text} (h : (decode t).outcome = .ok (some c)) :
    ∃ cs : ℕ → Condition, cs 0 = c ∧
      (∀ n, (transmit legacy (cs n)).outcome = .ok (some (cs (n + 1)))) ∧
      (∀ n, (cs n).field = c.field) ∧
      (∀ n, (cs n).option = "Text contains".toList ∨ (cs n).option = "Matches".toList →
        cs (n + 1) = cs n) ∧
      cs 3 = cs 2 ∧ (legacy = false → cs 2 = cs 1) := by
  let cs : ℕ → Condition := fun n => (reread legacy)^[n] c
  have hstep : ∀ n, cs (n + 1) = reread legacy (cs n) :=
    fun n => Function.iterate_succ_apply' _ n c
  have hwritten : ∀ n, ∃ k, WrittenBy (cs n) k := by
    intro n
    induction n with
    | zero => exact exists_writtenBy_of_decode h
    | succ n ih =>
        obtain ⟨k, hk⟩ := ih
        exact ⟨_, hstep n ▸ hk.writtenBy_reread⟩
  refine ⟨cs, rfl, fun n => ?_, fun n => ?_, fun n hoption => ?_, ?_, fun hlegacy => ?_⟩
  · obtain ⟨k, hk⟩ := hwritten n
    rw [hstep]
    exact hk.outcome_transmit_eq
  · induction n with
    | zero => rfl
    | succ n ih =>
        obtain ⟨k, hk⟩ := hwritten n
        rw [hstep, hk.reread_eq]
        exact ih
  · obtain ⟨k, hk⟩ := hwritten n
    have hlabel := hk.label
    rw [hstep]
    rcases hoption with hoption | hoption
    · obtain rfl : k = Comparator.contains :=
        (Comparator.label_eq_iff hk.mem (by decide)).mp (hlabel.trans hoption)
      exact hk.reread_contains
    · obtain rfl : k = Comparator.matching :=
        (Comparator.label_eq_iff hk.mem (by decide)).mp (hlabel.trans hoption)
      exact hk.reread_matching
  · -- what was found by the first move is hidden no more, so the second move is the last
    obtain ⟨k, hk⟩ := hwritten 0
    exact hk.writtenBy_reread.reread_reread (Comparator.isLossy_readAs hk.mem _)
  · obtain ⟨k, hk⟩ := hwritten 0
    have hlossy : k.isLossy legacy = false := by
      rw [Bool.eq_false_iff, ne_eq, Comparator.isLossy_iff legacy k hk.mem, hlegacy]
      simp
    exact hk.reread_reread hlossy

/-- A value with two shared brackets: hidden at first, then told by the one, then by the other. -/
theorem transmit_settles_after_two_moves :
    ∃ cs : ℕ → Condition, cs 0 = ⟨"[a]".toList, "Text is exactly".toList, "[^.*][.*".toList⟩ ∧
      (∀ n, (transmit true (cs n)).outcome = .ok (some (cs (n + 1)))) ∧
      cs 1 = ⟨"[a]".toList, "Text starts with".toList, ".*][.*".toList⟩ ∧
      cs 2 = ⟨"[a]".toList, "Text contains".toList, "[^.*][.*".toList⟩ ∧ cs 3 = cs 2 := by
  have hdecode : (decode "STRING_EQUALS([a], [^.*][.*)".toList).outcome =
      .ok (some ⟨"[a]".toList, "Text is exactly".toList, "[^.*][.*".toList⟩) := by rfl
  obtain ⟨cs, hstart, hstep, -, -, hsettled, -⟩ := transmit_settles true hdecode
  have hfirst : cs 1 = ⟨"[a]".toList, "Text starts with".toList, ".*][.*".toList⟩ := by
    have hread := hstep 0
    rw [hstart] at hread
    exact (Option.some.inj (Except.ok.inj hread)).symm
  have hsecond : cs 2 = ⟨"[a]".toList, "Text contains".toList, "[^.*][.*".toList⟩ := by
    have hread := hstep 1
    rw [hfirst] at hread
    exact (Option.some.inj (Except.ok.inj hread)).symm
  exact ⟨cs, hstart, hstep, hfirst, hsecond, hsettled⟩

end Condition

end FilterWire
