import FilterWire.Proofs.Comparator.Naming

/-!
# Which brackets decide

Behind the shared name the first kind of brackets that stands on some line of
the value decides. They may stand anywhere on the line, but they come off only
at the two ends of the value, so not every value so decided comes back.
-/

namespace FilterWire

namespace Codec

/-- Just the values in brackets come back. -/
theorem encode_decode_eq_self_iff {opening closing v : Text} :
    (bracketed opening closing).encode ((bracketed opening closing).decode v) = v ↔
      ∃ q, v = opening ++ q ++ closing := by
  constructor
  · exact fun h => ⟨_, h.symm⟩
  · rintro ⟨q, rfl⟩
    exact congrArg (encode _) (decode_encode (bracketed opening closing) q)

end Codec

namespace Comparator

/-- On some line of a text an opening is followed by a closing that is clear of it. -/
def HoldsBrackets (opening closing t : Text) : Prop :=
  ∃ line, Text.IsLine t line ∧ ∃ a m b, line = a ++ opening ++ m ++ closing ++ b

theorem hasBrackets_eq_true_iff {opening closing t : Text} :
    hasBrackets opening closing t = true ↔ HoldsBrackets opening closing t := by
  rw [hasBrackets, List.any_eq_true]
  refine exists_congr fun line => and_congr Text.mem_lines_iff ?_
  refine (Text.cutFrom_occursIn_iff []).trans ⟨?_, ?_⟩
  · rintro ⟨a, r, rfl, m, b, rfl⟩
    exact ⟨a, m, b, by simp⟩
  · rintro ⟨a, m, b, rfl⟩
    exact ⟨a, m ++ closing ++ b, by simp, m, b, rfl⟩

/-- Contains, starts with and ends with, in this order, and the plain match if there are no
brackets of any kind. -/
theorem ofSharedName_decided (v : Text) :
    HoldsBrackets "[.*".toList ".*]".toList v ∧ ofSharedName v = Comparator.contains ∨
    ¬ HoldsBrackets "[.*".toList ".*]".toList v ∧
      (HoldsBrackets "[^".toList ".*]".toList v ∧ ofSharedName v = startsWith ∨
      ¬ HoldsBrackets "[^".toList ".*]".toList v ∧
        (HoldsBrackets "[".toList "$]".toList v ∧ ofSharedName v = endsWith ∨
        ¬ HoldsBrackets "[".toList "$]".toList v ∧ ofSharedName v = matching)) := by
  simp only [← hasBrackets_eq_true_iff]
  rw [ofSharedName]
  by_cases hcontains : hasBrackets ['[', '.', '*'] ['.', '*', ']'] v = true
  · exact Or.inl ⟨hcontains, if_pos hcontains⟩
  · refine Or.inr ⟨hcontains, ?_⟩
    rw [if_neg hcontains]
    by_cases hstarts : hasBrackets ['[', '^'] ['.', '*', ']'] v = true
    · exact Or.inl ⟨hstarts, if_pos hstarts⟩
    · refine Or.inr ⟨hstarts, ?_⟩
      rw [if_neg hstarts]
      by_cases hends : hasBrackets ['['] ['$', ']'] v = true
      · exact Or.inl ⟨hends, if_pos hends⟩
      · exact Or.inr ⟨hends, if_neg hends⟩

/-- Brackets that overlap are none, and those around nothing are brackets. -/
example : ["[.*]", "[^.*]", "[$]"].map (fun v => ofSharedName v.toList) =
    [matching, startsWith, endsWith] := by
  decide

theorem token_ofSharedName_iff (v : Text) :
    ((ofSharedName v).token = "STRING_CONTAINS".toList ↔
      HoldsBrackets "[.*".toList ".*]".toList v) ∧
    ((ofSharedName v).token = "STRING_STARTSWITH".toList ↔
      ¬ HoldsBrackets "[.*".toList ".*]".toList v ∧
        HoldsBrackets "[^".toList ".*]".toList v) ∧
    ((ofSharedName v).token = "STRING_ENDSWITH".toList ↔
      ¬ HoldsBrackets "[.*".toList ".*]".toList v ∧
        ¬ HoldsBrackets "[^".toList ".*]".toList v ∧
        HoldsBrackets "[".toList "$]".toList v) ∧
    ((ofSharedName v).token = "MATCH".toList ↔
      ¬ HoldsBrackets "[.*".toList ".*]".toList v ∧
        ¬ HoldsBrackets "[^".toList ".*]".toList v ∧
        ¬ HoldsBrackets "[".toList "$]".toList v) := by
  rcases ofSharedName_decided v with ⟨hc, h⟩ | ⟨hc, ⟨hs, h⟩ | ⟨hs, ⟨he, h⟩ | ⟨he, h⟩⟩⟩
  · refine ⟨iff_of_true (by rw [h]; rfl) hc, ?_, ?_, ?_⟩
    · exact iff_of_false (by rw [h]; decide) fun hother => hother.1 hc
    · exact iff_of_false (by rw [h]; decide) fun hother => hother.1 hc
    · exact iff_of_false (by rw [h]; decide) fun hother => hother.1 hc
  · refine ⟨?_, iff_of_true (by rw [h]; rfl) ⟨hc, hs⟩, ?_, ?_⟩
    · exact iff_of_false (by rw [h]; decide) hc
    · exact iff_of_false (by rw [h]; decide) fun hother => hother.2.1 hs
    · exact iff_of_false (by rw [h]; decide) fun hother => hother.2.1 hs
  · refine ⟨?_, ?_, iff_of_true (by rw [h]; rfl) ⟨hc, hs, he⟩, ?_⟩
    · exact iff_of_false (by rw [h]; decide) hc
    · exact iff_of_false (by rw [h]; decide) fun hother => hs hother.2
    · exact iff_of_false (by rw [h]; decide) fun hother => hother.2.2 he
  · refine ⟨?_, ?_, ?_, iff_of_true (by rw [h]; rfl) ⟨hc, hs, he⟩⟩
    · exact iff_of_false (by rw [h]; decide) hc
    · exact iff_of_false (by rw [h]; decide) fun hother => hs hother.2
    · exact iff_of_false (by rw [h]; decide) fun hother => he hother.2.2

/-- The brackets on the lines of a value tell the token that it stands for behind the shared name.
Under this token the comparator is registered, and its brackets come back around just the values
that they enclose. -/
theorem ofSharedName_by_brackets (v : Text) :
    ((ofSharedName v).token = "STRING_CONTAINS".toList ↔
      HoldsBrackets "[.*".toList ".*]".toList v) ∧
    ((ofSharedName v).token = "STRING_STARTSWITH".toList ↔
      ¬ HoldsBrackets "[.*".toList ".*]".toList v ∧
        HoldsBrackets "[^".toList ".*]".toList v) ∧
    ((ofSharedName v).token = "STRING_ENDSWITH".toList ↔
      ¬ HoldsBrackets "[.*".toList ".*]".toList v ∧
        ¬ HoldsBrackets "[^".toList ".*]".toList v ∧
        HoldsBrackets "[".toList "$]".toList v) ∧
    ((ofSharedName v).token = "MATCH".toList ↔
      ¬ HoldsBrackets "[.*".toList ".*]".toList v ∧
        ¬ HoldsBrackets "[^".toList ".*]".toList v ∧
        ¬ HoldsBrackets "[".toList "$]".toList v) ∧
    Registry.standard.find? .token (ofSharedName v).token = some (ofSharedName v) ∧
    ∀ opening closing, (ofSharedName v).codec = .bracketed opening closing →
      ((ofSharedName v).codec.encode ((ofSharedName v).codec.decode v) = v ↔
        ∃ q, v = opening ++ q ++ closing) := by
  obtain ⟨hcontains, hstarts, hends, hmatching⟩ := token_ofSharedName_iff v
  refine ⟨hcontains, hstarts, hends, hmatching, ?_, ?_⟩
  · exact Registry.find?_eq_some_iff.mpr ⟨ofSharedName_mem v, rfl⟩
  · intro opening closing hcodec
    rw [hcodec]
    exact Codec.encode_decode_eq_self_iff

/-- The closing overlaps an opening of `contains`, and the value goes on behind it. -/
theorem ofSharedName_by_brackets_of_overlap :
    let v := "[^x [.*]\ny".toList
    HoldsBrackets "[^".toList ".*]".toList v ∧
      (ofSharedName v).codec = .bracketed "[^".toList ".*]".toList ∧
      (ofSharedName v).codec.encode ((ofSharedName v).codec.decode v) ≠ v := by
  intro v
  obtain ⟨-, hstarts, -, -, -, hback⟩ := ofSharedName_by_brackets v
  have hcodec : (ofSharedName v).codec = .bracketed "[^".toList ".*]".toList := by decide
  refine ⟨(hstarts.mp (by decide)).2, hcodec, fun h => ?_⟩
  obtain ⟨q, hq⟩ := (hback _ _ hcodec).mp h
  have hlast : v.getLast? = some ']' := by
    rw [hq, List.getLast?_append]
    rfl
  exact absurd hlast (by decide)

end Comparator

end FilterWire
