import FilterWire.Proofs.FilterSet.Combiner
import FilterWire.Proofs.FilterSet.Reading

/-!
# Reading segment by segment

Joined pieces without a standalone combiner of their own are found again
as the segments of the body. An expression is then read by reading each
of them on its own, in order, up to the first error.
-/

namespace FilterWire

namespace Mode

theorem find?_intercalate {m : Mode} {ss : List Text} (hne : ss ≠ [])
    (h : ∀ s ∈ ss, ¬ HasCombiner (s ++ [' '])) :
    find? (m.joiner.intercalate ss) = if 2 ≤ ss.length then some m else none := by
  cases ss with
  | nil => exact absurd rfl hne
  | cons s ss =>
      have hs := h s List.mem_cons_self
      cases ss with
      | nil =>
          rw [List.intercalate_singleton, if_neg (by simp), find?_eq_none_iff]
          rintro ⟨m', b, b', hb, hb', hi⟩
          exact hs ⟨m', b, b', hb, hb', List.infix_append_of_infix_left hi⟩
      | cons s' ss =>
          have htext : m.joiner.intercalate (s :: s' :: ss) =
              s ++ ' ' :: (m.word ++ [' '] ++ m.joiner.intercalate (s' :: ss)) := by
            simp [joiner]
          rw [htext, find?_append (by decide) hs, if_pos (by simp), ← List.cons_append,
            ← List.cons_append]
          exact find?_joiner m _

end Mode

namespace Guard

theorem nullCheckName_infix_intercalate {m : Mode} {ss : List Text}
    (h : nullCheckName <:+: m.joiner.intercalate ss) : ∃ s ∈ ss, nullCheckName <:+: s := by
  induction ss with
  | nil =>
      rw [List.intercalate_nil] at h
      exact absurd h (by decide)
  | cons s ss ih =>
      cases ss with
      | nil => exact ⟨s, List.mem_cons_self, by simpa using h⟩
      | cons s' ss =>
          have htext : m.joiner.intercalate (s :: s' :: ss) =
              s ++ ' ' :: (m.word ++ ' ' :: m.joiner.intercalate (s' :: ss)) := by
            simp [Mode.joiner]
          rw [htext, Text.infix_append_cons_iff (by decide),
            Text.infix_append_cons_iff (by decide)] at h
          rcases h with hs | hword | hrest
          · exact ⟨s, List.mem_cons_self, hs⟩
          · cases m <;> exact absurd hword (by decide)
          · obtain ⟨t, ht, hin⟩ := ih hrest
            exact ⟨t, List.mem_cons_of_mem s ht, hin⟩

end Guard

namespace FilterSet

theorem segments_intercalate {m : Mode} {ss : List Text} (hne : ss ≠ []) (hss : ∀ s ∈ ss, s ≠ [])
    (h : ∀ s ∈ ss, ¬ HasCombiner (s ++ [' '])) :
    segments (if 2 ≤ ss.length then m else .and) (m.joiner.intercalate ss) = ss := by
  have hsplit : ∀ m : Mode, Text.split m.joiner (m.joiner.intercalate ss) = ss :=
    fun m => Text.split_intercalate hne fun s hs => Mode.joiner_absent (h s hs)
  have hfilter : ss.filter (fun s => !s.isEmpty) = ss := by
    rw [List.filter_eq_self]
    intro s hs
    simpa using hss s hs
  by_cases hlen : 2 ≤ ss.length
  · rw [if_pos hlen, segments, hsplit, hfilter]
  · -- a single piece is its own body, whatever the joiner
    obtain ⟨s, rfl⟩ : ∃ s, ss = [s] := by
      apply List.length_eq_one_iff.mp
      have hpos := List.length_pos_of_ne_nil hne
      omega
    have hone := hsplit .and
    rw [List.intercalate_singleton] at hone
    rw [if_neg hlen, segments, List.intercalate_singleton, hone, hfilter]

/-- The body that joins some pieces is read piece by piece. -/
theorem outcome_decodeBody_intercalate {absent : Bool} {m : Mode} {ss : List Text} (hne : ss ≠ [])
    (hss : ∀ s ∈ ss, s ≠ []) (h : ∀ s ∈ ss, ¬ HasCombiner (s ++ [' '])) :
    (decodeBody false absent (m.joiner.intercalate ss)).outcome =
      (ss.mapM fun s => (Condition.decode s).outcome).map
        fun ds => ⟨some (if 2 ≤ ss.length then m else .and), absent, ds⟩ := by
  have hmode : (Mode.find? (m.joiner.intercalate ss)).getD .and =
      if 2 ≤ ss.length then m else .and := by
    rw [Mode.find?_intercalate hne h]
    split <;> rfl
  rw [outcome_decodeBody, hmode, segments_intercalate hne hss h]
  simp only [outcome_decodeSegment_lenient]

/-- Pieces inside the sentinel are read piece by piece. -/
theorem outcome_decode_wrapSentinel {m : Mode} {ss : List Text} (hne : ss ≠ [])
    (hss : ∀ s ∈ ss, s ≠ []) (h : ∀ s ∈ ss, ¬ HasCombiner (s ++ [' ']))
    (hnull : ∀ s ∈ ss, ¬ Guard.nullCheckName <:+: s) :
    (decode false (Guard.wrapSentinel (m.joiner.intercalate ss))).outcome =
      (ss.mapM fun s => (Condition.decode s).outcome).map
        fun ds => ⟨some (if 2 ≤ ss.length then m else .and), false, ds⟩ := by
  have habsent : ¬ Guard.nullCheckName <:+: Guard.wrapSentinel (m.joiner.intercalate ss) := by
    intro hi
    obtain ⟨s, hs, hin⟩ :=
      Guard.nullCheckName_infix_intercalate (Guard.nullCheckName_infix_wrapSentinel hi)
    exact hnull s hs hin
  rw [outcome_decode_of_absent habsent, Guard.stripSentinel_wrapSentinel,
    outcome_decodeBody_intercalate hne hss h]

/-- Segments, whether calls or not, are read each on its own: nothing is lost, merged or moved,
and the first error of a segment is the error of the whole. -/
theorem decode_segmentwise {m : Mode} {ss : List Text} {p q : Text} (hlen : 2 ≤ ss.length)
    (hss : ∀ s ∈ ss, s ≠ []) (h : ∀ s ∈ ss, ¬ HasCombiner (' ' :: s ++ [' ']))
    (hnull : ∀ s ∈ ss, ¬ Guard.nullCheckName <:+: s) (hp : ∀ c ∈ p, isBlank c = true)
    (hq : ∀ c ∈ q, isBlank c = true) :
    (decode false (p ++ Guard.wrapSentinel (m.joiner.intercalate ss) ++ q)).outcome =
      (ss.mapM fun s => (Condition.decode s).outcome).map fun ds => ⟨some m, false, ds⟩ := by
  have hne : ss ≠ [] := by
    rintro rfl
    simp at hlen
  have htail : ∀ s ∈ ss, ¬ HasCombiner (s ++ [' ']) :=
    fun s hs hc => h s hs (hasCombiner_cons_iff.mpr (Or.inr hc))
  rw [decode_pad hp hq, outcome_decode_wrapSentinel hne hss htail hnull, if_pos hlen]

/-- A segment that ends like the sentinel, one that is no call, and one that starts with a blank. -/
theorem decode_segmentwise_with_hole :
    (decode false "\t(GT([a], 1)) ?: false OR AND-OR OR  LT([b], x)) ?: false\n".toList).outcome =
      .ok ⟨some .or, false, [some ⟨"[a]".toList, "Greater than".toList, "1)".toList⟩, none,
        some ⟨"[b]".toList, "Less than".toList, "x".toList⟩]⟩ :=
  @decode_segmentwise .or ["GT([a], 1)) ?: false".toList, "AND-OR".toList, " LT([b], x)".toList]
    ['\t'] ['\n'] (by decide) (by decide) (by decide) (by decide)
    (List.forall_mem_singleton.mpr (by decide)) (List.forall_mem_singleton.mpr (by decide))

end FilterSet

end FilterWire
