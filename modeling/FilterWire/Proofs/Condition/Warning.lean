import FilterWire.Proofs.Condition.Transmission

/-!
# The warning about hidden comparators

A warning is given exactly if the shared name stands in a call in the place
of a comparator's own token. The value alone is left to tell the comparator
then, and no value tells this one.
-/

namespace FilterWire

namespace Comparator

variable {k : Comparator}

/-- The name in a call depends on the mode exactly where it hides the comparator. -/
theorem isLossy_iff_nameFor_ne : ∀ k ∈ Registry.standard.comparators,
    k.isLossy true = true ↔ k.nameFor true ≠ k.nameFor false := by
  decide

theorem isLossy_modern (hk : k ∈ Registry.standard.comparators) : k.isLossy false = false := by
  rw [Bool.eq_false_iff, ne_eq, isLossy_iff false k hk]
  rintro ⟨-, hlegacy, -⟩
  cases hlegacy

theorem nameFor_of_isLossy (hk : k ∈ Registry.standard.comparators)
    (hlossy : k.isLossy true = true) : k.nameFor true = sharedName := by
  obtain ⟨-, -, htext⟩ := (isLossy_iff true k hk).mp hlossy
  rw [nameFor, htext, Bool.and_self, Bool.or_true, if_pos rfl]

theorem codec_of_isLossy : ∀ k ∈ Registry.standard.comparators, k.isLossy true = true →
    k.codec = .plain := by
  decide

/-- A comparator that is hidden is never what its value tells. -/
theorem ofSharedName_ne_of_isLossy (hk : k ∈ Registry.standard.comparators)
    (hlossy : k.isLossy true = true) (value : Text) : ofSharedName value ≠ k := by
  obtain ⟨hpattern, hhidden⟩ := (isLossy_iff true k hk).mp hlossy
  have hread : k.readAs true value = ofSharedName value := by
    rw [readAs, if_pos (nameFor_of_isLossy hk hlossy)]
  rw [← hread, ne_eq, readAs_plain_iff hk (codec_of_isLossy k hk hlossy) hpattern]
  exact not_not.mpr hhidden

end Comparator

namespace Condition

variable {c : Condition} {k : Comparator}

theorem warnings_encode {legacy : Bool} (hk : k ∈ Registry.standard.comparators)
    (hlabel : k.label = c.option) : (encode legacy c).warnings =
      if k.isLossy legacy then [.sentAs k.token (k.nameFor legacy)] else [] := by
  rw [Logged.warnings, encode_eq hk hlabel]
  cases k.isLossy legacy <;> rfl

/-- The two calls of a condition differ in nothing but the name. -/
theorem text_toCall_eq_iff : (toCall true k c).text = (toCall false k c).text ↔
    k.nameFor true = k.nameFor false := by
  rw [toCall, toCall, Call.text, Call.text]
  simp only [List.append_assoc]
  exact List.append_left_inj _

section Lossy

variable (hk : k ∈ Registry.standard.comparators) (hlabel : k.label = c.option)
  (hlossy : k.isLossy true = true) (hfield : IsReference c.field) (hne : c.query ≠ [])
  (hquery : '\n' ∉ c.query)

include hk hlossy hfield hne hquery

/-- Behind the shared name the query itself is taken for a pattern. -/
theorem outcome_decode_hidden : (decode (toCall true k c).text).outcome =
    .ok (some ⟨c.field, (Comparator.ofSharedName c.query).label,
      (Comparator.ofSharedName c.query).codec.decode c.query⟩) := by
  have hvalue : k.codec.encode c.query = c.query := by
    rw [Comparator.codec_of_isLossy k hk hlossy, Codec.encode]
  rw [outcome_decode_toCall hk hfield hquery, hvalue, if_neg hne, Comparator.readAs,
    if_pos (Comparator.nameFor_of_isLossy hk hlossy)]

include hlabel

/-- By its own token the comparator is found again. -/
theorem outcome_decode_shown : (decode (toCall false k c).text).outcome = .ok (some c) := by
  have hplain : k.codec = .plain := Comparator.codec_of_isLossy k hk hlossy
  obtain ⟨hpattern, -⟩ := (Comparator.isLossy_iff true k hk).mp hlossy
  have hread : k.readAs false c.query = k :=
    (Comparator.readAs_plain_iff hk hplain hpattern false c.query).mpr (by simp)
  have hvalue : k.codec.encode c.query = c.query := by rw [hplain, Codec.encode]
  rw [outcome_decode_toCall hk hfield hquery, hvalue, if_neg hne, hread, hplain, Codec.decode,
    hlabel]

end Lossy

/-- Legacy names are warned of exactly if they change what is written, and own names never. A
proper call that is warned of is read under another option, the one that its query tells, and
without legacy names it would be read as the condition itself. -/
theorem warnings_exact (hoption : c.option ∈ Registry.standard.labels) :
    ∃ hidden shown, (encode true c).outcome = .ok hidden ∧ (encode false c).outcome = .ok shown ∧
      ((encode true c).warnings ≠ [] ↔ hidden ≠ shown) ∧ (encode false c).warnings = [] ∧
      ((encode true c).warnings ≠ [] → IsReference c.field → c.query ≠ [] → '\n' ∉ c.query →
        (decode hidden).outcome = .ok (some ⟨c.field, (Comparator.ofSharedName c.query).label,
            (Comparator.ofSharedName c.query).codec.decode c.query⟩) ∧
          (Comparator.ofSharedName c.query).label ≠ c.option ∧
          (decode shown).outcome = .ok (some c)) := by
  obtain ⟨k, hk, hlabel⟩ := Registry.mem_labels_iff.mp hoption
  have hwarned : (encode true c).warnings ≠ [] ↔ k.isLossy true = true := by
    rw [warnings_encode hk hlabel]
    cases k.isLossy true <;> simp
  refine ⟨_, _, outcome_encode hk hlabel, outcome_encode hk hlabel, ?_, ?_, ?_⟩
  · rw [hwarned, Comparator.isLossy_iff_nameFor_ne k hk]
    exact text_toCall_eq_iff.not.symm
  · rw [warnings_encode hk hlabel, Comparator.isLossy_modern hk]
    rfl
  · intro hwarnings hfield hne hquery
    have hlossy := hwarned.mp hwarnings
    refine ⟨outcome_decode_hidden hk hlossy hfield hne hquery, ?_,
      outcome_decode_shown hk hlabel hlossy hfield hne hquery⟩
    rw [← hlabel, ne_eq, Comparator.label_eq_iff (Comparator.ofSharedName_mem c.query) hk]
    exact Comparator.ofSharedName_ne_of_isLossy hk hlossy c.query

/-- An exact text that looks like a pattern comes back as that pattern. -/
theorem warnings_exact_of_bracket_query :
    (encode true ⟨"[a]".toList, "Text is exactly".toList, "[^x.*]".toList⟩).warnings ≠ [] ∧
      (decode "MATCHES([a], [^x.*])".toList).outcome =
        .ok (some ⟨"[a]".toList, "Text starts with".toList, "x".toList⟩) ∧
      (decode "STRING_EQUALS([a], [^x.*])".toList).outcome =
        .ok (some ⟨"[a]".toList, "Text is exactly".toList, "[^x.*]".toList⟩) := by
  obtain ⟨hidden, shown, hhidden, hshown, hwarned, -, hread⟩ :=
    @warnings_exact ⟨"[a]".toList, "Text is exactly".toList, "[^x.*]".toList⟩ (by decide)
  have hwritten : hidden = "MATCHES([a], [^x.*])".toList := (Except.ok.inj hhidden).symm
  have htoken : shown = "STRING_EQUALS([a], [^x.*])".toList := (Except.ok.inj hshown).symm
  have hdiffer : hidden ≠ shown := by
    rw [hwritten, htoken]
    decide
  have hwarnings := hwarned.mpr hdiffer
  obtain ⟨hother, -, hsame⟩ := hread hwarnings ⟨"a".toList, by decide, rfl⟩ (by decide) (by decide)
  rw [hwritten] at hother
  rw [htoken] at hsame
  exact ⟨hwarnings, hother, hsame⟩

end Condition

end FilterWire
