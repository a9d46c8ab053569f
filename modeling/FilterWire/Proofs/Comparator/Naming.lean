import FilterWire.Proofs.Call
import FilterWire.Proofs.Comparator.Brackets
import FilterWire.Proofs.Comparator.Registry

/-!
# Comparators behind the names of calls

A call by its own token names one comparator. Behind the shared name the
value decides, so a comparator is found again exactly if it does not hide
there or its brackets tell.
-/

namespace FilterWire.Comparator

/-- The comparator that a reader finds behind a call by the name in use. -/
def readAs (c : Comparator) (legacy : Bool) (value : Text) : Comparator :=
  if c.nameFor legacy = sharedName then ofSharedName value else c

theorem standard_cases : ∀ c ∈ Registry.standard.comparators,
    c = Comparator.contains ∨ c = startsWith ∨ c = endsWith ∨
      c.codec = .plain ∧ c.isTextPattern = false := by
  decide

/-- The characters that stand in brackets around values. -/
def bracketChars : Text := ['[', ']', '.', '*', '^', '$']

theorem exists_brackets {c : Comparator} (hc : c ∈ Registry.standard.comparators) :
    ∃ opening closing, (∀ q, c.codec.encode q = opening ++ q ++ closing) ∧
      opening ⊆ bracketChars ∧ closing ⊆ bracketChars := by
  rcases standard_cases c hc with rfl | rfl | rfl | ⟨hplain, -⟩
  · exact ⟨_, _, encode_contains, by decide, by decide⟩
  · exact ⟨_, _, encode_startsWith, by decide, by decide⟩
  · exact ⟨_, _, encode_endsWith, by decide, by decide⟩
  · refine ⟨[], [], fun q => ?_, List.nil_subset _, List.nil_subset _⟩
    rw [hplain, Codec.encode, List.nil_append, List.append_nil]

theorem isWord_nameFor : ∀ legacy, ∀ c ∈ Registry.standard.comparators,
    IsWord (c.nameFor legacy) := by
  decide

theorem token_ne_sharedName : ∀ c ∈ Registry.standard.comparators, c.token ≠ sharedName := by
  decide

theorem ofSharedName_cases (value : Text) :
    ofSharedName value = Comparator.contains ∨ ofSharedName value = startsWith ∨
      ofSharedName value = endsWith ∨ ofSharedName value = matching := by
  rw [ofSharedName]
  split
  · exact Or.inl rfl
  split
  · exact Or.inr (Or.inl rfl)
  split
  · exact Or.inr (Or.inr (Or.inl rfl))
  · exact Or.inr (Or.inr (Or.inr rfl))

theorem ofSharedName_mem (value : Text) : ofSharedName value ∈ Registry.standard.comparators := by
  rcases ofSharedName_cases value with h | h | h | h <;> rw [h] <;> decide

theorem readAs_mem {c : Comparator} (hc : c ∈ Registry.standard.comparators) (legacy : Bool)
    (value : Text) : c.readAs legacy value ∈ Registry.standard.comparators := by
  rw [readAs]
  split
  · exact ofSharedName_mem value
  · exact hc

theorem readAs_pattern {c : Comparator} (hc : c.isTextPattern = true) (legacy : Bool)
    (value : Text) : c.readAs legacy value = ofSharedName value := by
  rw [readAs, nameFor, hc]
  simp

/-- No value without brackets lets the text comparators behind the shared name be told apart. -/
theorem readAs_plain_iff {c : Comparator} (hc : c ∈ Registry.standard.comparators)
    (hplain : c.codec = .plain) (hpattern : c.isTextPattern = false) (legacy : Bool)
    (value : Text) :
    c.readAs legacy value = c ↔ ¬ (legacy = true ∧ c.isTextComparator = true) := by
  rw [readAs, nameFor, hpattern, Bool.false_or]
  by_cases hshared : (legacy && c.isTextComparator) = true
  · rw [if_pos hshared, if_pos rfl]
    have hboth : legacy = true ∧ c.isTextComparator = true := by simpa using hshared
    refine iff_of_false ?_ (not_not.mpr hboth)
    intro heq
    rcases ofSharedName_cases value with h | h | h | h
    · exact absurd (congrArg codec (h.symm.trans heq)) (by rw [hplain]; decide)
    · exact absurd (congrArg codec (h.symm.trans heq)) (by rw [hplain]; decide)
    · exact absurd (congrArg codec (h.symm.trans heq)) (by rw [hplain]; decide)
    · have hmatching : matching.isTextComparator = true := by
        rw [← h, heq]
        exact hboth.2
      exact absurd hmatching (by decide)
  · rw [if_neg hshared, if_neg (token_ne_sharedName c hc)]
    exact iff_of_true rfl (by simpa using hshared)

/-- A name hides the comparators that share it without brackets to tell them apart. -/
theorem isLossy_iff : ∀ legacy, ∀ k ∈ Registry.standard.comparators,
    k.isLossy legacy = true ↔
      k.isTextPattern = false ∧ legacy = true ∧ k.isTextComparator = true := by
  decide

/-- Labels tell the comparators apart. -/
theorem label_eq_iff {c d : Comparator} (hc : c ∈ Registry.standard.comparators)
    (hd : d ∈ Registry.standard.comparators) : c.label = d.label ↔ c = d :=
  ⟨Registry.eq_of_key_eq (k := .label) hc hd, congrArg label⟩

end FilterWire.Comparator
