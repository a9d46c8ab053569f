import FilterWire.FilterSet.Codec
import FilterWire.Proofs.Call

/-!
# Standalone combiners

The mode of a body is that of its first word `AND` or `OR` between two
blanks. A blank can only be the first or the last character of such an
occurrence, so a piece without one lets the joiner after it be found.
-/

namespace FilterWire

/-- A word `AND` or `OR` stands between two blanks. -/
def HasCombiner (t : Text) : Prop :=
  ∃ m b b', isBlank b = true ∧ isBlank b' = true ∧ b :: Mode.word m ++ [b'] <:+: t

namespace Mode

theorem isBlank_of_mem_word {m : Mode} {c : Char} (hc : c ∈ m.word) : isBlank c = false := by
  cases m with
  | and =>
      simp only [word, List.mem_cons, List.not_mem_nil, or_false] at hc
      rcases hc with rfl | rfl | rfl <;> decide
  | or =>
      simp only [word, List.mem_cons, List.not_mem_nil, or_false] at hc
      rcases hc with rfl | rfl <;> decide

theorem word_subset (m : Mode) : m.word ⊆ ['A', 'N', 'D', 'O', 'R'] := by
  cases m <;> simp [word]

theorem joiner_ne_nil (m : Mode) : m.joiner ≠ [] :=
  List.cons_ne_nil _ _

theorem notMem_joiner (m : Mode) {c : Char} (hblank : isBlank c = false)
    (hletter : c ∉ ['A', 'N', 'D', 'O', 'R']) : c ∉ m.joiner := by
  have hc : c ≠ ' ' := by
    rintro rfl
    exact absurd hblank (by decide)
  have hword : c ∉ m.word := fun hmem => hletter (m.word_subset hmem)
  simp [joiner, hc, hword]

theorem bind_after_word_eq_some_iff {m : Mode} {t r : Text} :
    (Text.after? m.word t).bind Call.afterBlank? = some r ↔
      ∃ b, isBlank b = true ∧ t = m.word ++ b :: r := by
  constructor
  · intro h
    obtain ⟨s, hs, hr⟩ := Option.bind_eq_some_iff.mp h
    obtain ⟨b, hb, rfl⟩ := Call.afterBlank?_eq_some_iff.mp hr
    exact ⟨b, hb, Text.after?_eq_some_iff.mp hs⟩
  · rintro ⟨b, hb, rfl⟩
    exact Option.bind_eq_some_iff.mpr ⟨b :: r, Text.after?_eq_some_iff.mpr rfl,
      Call.afterBlank?_eq_some_iff.mpr ⟨b, hb, rfl⟩⟩

theorem atHead?_eq_some_iff {m : Mode} {t : Text} :
    atHead? t = some m ↔ ∃ b r, isBlank b = true ∧ t = m.word ++ b :: r := by
  constructor
  · intro h
    rw [atHead?] at h
    split at h
    case h_1 _ r hand =>
        obtain ⟨b, hb, rfl⟩ := bind_after_word_eq_some_iff.mp hand
        obtain rfl := Option.some.inj h
        exact ⟨b, r, hb, rfl⟩
    case h_2 _ r _ hor =>
        obtain ⟨b, hb, rfl⟩ := bind_after_word_eq_some_iff.mp hor
        obtain rfl := Option.some.inj h
        exact ⟨b, r, hb, rfl⟩
    case h_3 => cases h
  · rintro ⟨b, r, hb, rfl⟩
    have hword : (Text.after? m.word (m.word ++ b :: r)).bind Call.afterBlank? = some r :=
      bind_after_word_eq_some_iff.mpr ⟨b, hb, rfl⟩
    cases m with
    | and => rw [atHead?, hword]
    | or =>
        rw [atHead?, hword]
        rfl

end Mode

theorem hasCombiner_cons_iff {c : Char} {r : Text} :
    HasCombiner (c :: r) ↔ isBlank c = true ∧ (∃ m, Mode.atHead? r = some m) ∨ HasCombiner r := by
  constructor
  · rintro ⟨m, b, b', hb, hb', h⟩
    rcases List.infix_cons_iff.mp h with ⟨s, hs⟩ | h
    · obtain ⟨rfl, rfl⟩ := List.cons_eq_cons.mp hs
      exact Or.inl ⟨hb, m, Mode.atHead?_eq_some_iff.mpr ⟨b', s, hb', by simp⟩⟩
    · exact Or.inr ⟨m, b, b', hb, hb', h⟩
  · rintro (⟨hc, m, hm⟩ | ⟨m, b, b', hb, hb', h⟩)
    · obtain ⟨b', s, hb', rfl⟩ := Mode.atHead?_eq_some_iff.mp hm
      exact ⟨m, c, b', hc, hb', [], s, by simp⟩
    · exact ⟨m, b, b', hb, hb', List.infix_cons h⟩

theorem Mode.find?_eq_none_iff {t : Text} : Mode.find? t = none ↔ ¬ HasCombiner t := by
  induction t with
  | nil => simp [Mode.find?, HasCombiner]
  | cons c r ih =>
      rw [hasCombiner_cons_iff, Mode.find?]
      by_cases hc : isBlank c
      · cases Mode.atHead? r <;> simp [hc, ih]
      · simp [hc, ih]

instance (t : Text) : Decidable (HasCombiner t) :=
  decidable_of_iff (Mode.find? t ≠ none) (by rw [ne_eq, Mode.find?_eq_none_iff, not_not])

/-! ## Where a combiner can lie -/

theorem not_hasCombiner_of_blankless {t : Text} (ht : ∀ c ∈ t, isBlank c = false) :
    ¬ HasCombiner t := by
  rintro ⟨m, b, b', hb, -, h⟩
  have hmem : b ∈ t := h.subset (by simp)
  simp [ht b hmem] at hb

theorem not_hasCombiner_cons_of_blankless {b : Char} {t : Text}
    (ht : ∀ c ∈ t, isBlank c = false) : ¬ HasCombiner (b :: t) := by
  rw [hasCombiner_cons_iff, not_or]
  refine ⟨?_, not_hasCombiner_of_blankless ht⟩
  rintro ⟨-, m, hm⟩
  obtain ⟨b', r, hb', rfl⟩ := Mode.atHead?_eq_some_iff.mp hm
  simp [ht b' (by simp)] at hb'

namespace Mode

theorem atHead?_eq_none_of_append {c b : Char} {x y : Text} (hc : isBlank c = true)
    (hb : isBlank b = true) (h : ¬ HasCombiner (c :: x ++ [b])) : atHead? (x ++ b :: y) = none := by
  rw [Option.eq_none_iff_forall_ne_some]
  intro m hm
  obtain ⟨b', r, hb', hr⟩ := atHead?_eq_some_iff.mp hm
  have hprefix : m.word ++ [b'] <+: (x ++ [b]) ++ y := ⟨r, by simp [hr]⟩
  rcases Text.prefix_append_cases hprefix with hin | ⟨q, hq, -⟩
  · exact h ⟨m, c, b', hc, hb', (List.cons_prefix_cons.mpr ⟨rfl, hin⟩).isInfix⟩
  · rcases q.eq_nil_or_concat' with rfl | ⟨q, d, rfl⟩
    · refine h ⟨m, c, b', hc, hb', ?_⟩
      rw [List.append_nil] at hq
      rw [List.cons_append, hq, ← List.cons_append]
    · -- then the blank would be a letter of the word
      have hword : m.word = x ++ [b] ++ q := by
        rw [← List.append_assoc] at hq
        exact (List.append_inj' hq rfl).1
      have hmem : b ∈ m.word := by simp [hword]
      simp [isBlank_of_mem_word hmem] at hb

/-- Up to a blank that ends no combiner there is nothing to find. -/
theorem find?_append {b : Char} {x y : Text} (hb : isBlank b = true)
    (h : ¬ HasCombiner (x ++ [b])) : find? (x ++ b :: y) = find? (b :: y) := by
  induction x with
  | nil => rfl
  | cons c x ih =>
      have htail : ¬ HasCombiner (x ++ [b]) := fun hx => h (hasCombiner_cons_iff.mpr (Or.inr hx))
      rw [List.cons_append, find?]
      by_cases hc : isBlank c
      · rw [if_pos hc, atHead?_eq_none_of_append hc hb h]
        exact ih htail
      · rw [if_neg hc]
        exact ih htail

theorem find?_between {m : Mode} {b b' : Char} (hb : isBlank b = true) (hb' : isBlank b' = true)
    (r : Text) : find? (b :: (m.word ++ b' :: r)) = some m := by
  have hhead : atHead? (m.word ++ b' :: r) = some m := atHead?_eq_some_iff.mpr ⟨b', r, hb', rfl⟩
  rw [find?, if_pos hb, hhead]

theorem find?_joiner (m : Mode) (r : Text) : find? (m.joiner ++ r) = some m := by
  have htext : m.joiner ++ r = ' ' :: (m.word ++ ' ' :: r) := by simp [joiner]
  rw [htext, find?_between (by decide) (by decide)]

section Boundary

variable {c : Char} {x y : Text}

theorem atHead?_append_cons (hblank : isBlank c = false)
    (hletter : c ∉ ['A', 'N', 'D', 'O', 'R']) : atHead? (x ++ c :: y) = atHead? x := by
  apply Option.ext
  intro m
  rw [atHead?_eq_some_iff, atHead?_eq_some_iff]
  constructor
  · rintro ⟨b, r, hb, h⟩
    have hc : c ∉ m.word ++ [b] := by
      rw [List.mem_append, List.mem_singleton, not_or]
      refine ⟨fun hmem => hletter (m.word_subset hmem), ?_⟩
      rintro rfl
      simp [hb] at hblank
    have hprefix : m.word ++ [b] <+: x ++ c :: y := ⟨r, by rw [h]; simp⟩
    obtain ⟨s, rfl⟩ := (Text.prefix_append_cons_iff hc).mp hprefix
    exact ⟨b, s, hb, by simp⟩
  · rintro ⟨b, r, hb, rfl⟩
    exact ⟨b, r ++ c :: y, hb, by simp⟩

/-- A character that no combiner holds parts the search in two. -/
theorem find?_append_cons (hblank : isBlank c = false)
    (hletter : c ∉ ['A', 'N', 'D', 'O', 'R']) :
    find? (x ++ c :: y) = (find? x).or (find? y) := by
  induction x with
  | nil => simp [find?, hblank]
  | cons d x ih =>
      rw [List.cons_append, find?, find?, atHead?_append_cons hblank hletter, ih]
      split
      · cases atHead? x <;> rfl
      · rfl

end Boundary

/-- Between pieces the joiner does not stand before its place. -/
theorem joiner_absent {m : Mode} {s : Text} (h : ¬ HasCombiner (s ++ [' '])) :
    ¬ m.joiner <:+: s ++ m.joiner.dropLast := by
  have hword : ' ' ∉ m.word :=
    fun hmem => absurd (isBlank_of_mem_word hmem) (by decide)
  have hdrop : s ++ m.joiner.dropLast = (s ++ [' ']) ++ m.word := by
    rw [joiner, List.dropLast_concat]
    simp
  intro hi
  rw [hdrop, joiner, Text.concat_infix_append_iff hword] at hi
  exact h ⟨m, ' ', ' ', by decide, by decide, hi⟩

end Mode

end FilterWire
