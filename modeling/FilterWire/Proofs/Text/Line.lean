import FilterWire.Proofs.Text.Occurrence

/-!
# The lines of a text

Splitting at line feeds gives the lines of a text: the pieces without a line
feed that begin and end at one or at an end of the text.
-/

namespace FilterWire.Text

theorem lines_eq_singleton {t : Text} (ht : '\n' ∉ t) : t.lines = [t] :=
  splitFrom_of_absent [] (absent_of_notMem List.mem_cons_self ht)

theorem lines_feed (t : Text) : lines ('\n' :: t) = [] :: t.lines :=
  split_sep_append (List.cons_ne_nil _ _) t

theorem lines_cons {c : Char} (hc : c ≠ '\n') {t p : Text} {ps : List Text}
    (h : t.lines = p :: ps) : lines (c :: t) = (c :: p) :: ps := by
  have hnot : ¬ ['\n'].isPrefixOf (c :: t) = true := by simpa using Ne.symm hc
  rw [lines, split, splitFrom, if_neg hnot]
  exact splitFrom_piece_append [] [c] h

/-- A line feed splits a text, wherever it stands. -/
theorem lines_append (x y : Text) : lines (x ++ '\n' :: y) = x.lines ++ y.lines := by
  induction x with
  | nil => exact lines_feed y
  | cons c x ih =>
      by_cases hc : c = '\n'
      · subst hc
        rw [List.cons_append, lines_feed, lines_feed, ih, List.cons_append]
      · obtain ⟨p, ps, hx⟩ : ∃ p ps, lines x = p :: ps :=
          List.exists_cons_of_ne_nil (splitFrom_ne_nil ['\n'] 0 [] x)
        rw [hx, List.cons_append] at ih
        rw [List.cons_append, lines_cons hc ih, lines_cons hc hx, List.cons_append]

/-- A piece without line feeds that has a line feed, or nothing, on either side. -/
structure IsLine (t line : Text) : Prop where
  oneLine : '\n' ∉ line
  bounded : ∃ before after, t = before ++ line ++ after ∧
    (before = [] ∨ ∃ b, before = b ++ ['\n']) ∧ (after = [] ∨ ∃ a, after = '\n' :: a)

theorem IsLine.mem_lines {t line : Text} (h : IsLine t line) : line ∈ t.lines := by
  obtain ⟨hline, before, after, rfl, hbefore, hafter⟩ := h
  have hrest : line ∈ lines (line ++ after) := by
    rcases hafter with rfl | ⟨a, rfl⟩
    · rw [List.append_nil, lines_eq_singleton hline]
      exact List.mem_cons_self
    · rw [lines_append, lines_eq_singleton hline]
      exact List.mem_cons_self
  rcases hbefore with rfl | ⟨b, rfl⟩
  · exact hrest
  · rw [List.append_assoc, List.append_assoc, List.singleton_append, lines_append]
    exact List.mem_append_right _ hrest

theorem isLine_of_mem_lines {t line : Text} (h : line ∈ t.lines) : IsLine t line := by
  by_cases ht : '\n' ∈ t
  · obtain ⟨x, y, htext, hx⟩ := List.eq_append_cons_of_mem ht
    rw [htext, lines_append, lines_eq_singleton hx, List.singleton_append] at h
    rcases List.mem_cons.mp h with rfl | hy
    · exact ⟨hx, [], '\n' :: y, htext, Or.inl rfl, Or.inr ⟨y, rfl⟩⟩
    · have hshorter : y.length < t.length := by
        rw [htext, List.length_append, List.length_cons]
        omega
      obtain ⟨hline, before, after, hy', hbefore, hafter⟩ := isLine_of_mem_lines hy
      refine ⟨hline, x ++ '\n' :: before, after, by simp [htext, hy'], Or.inr ?_, hafter⟩
      rcases hbefore with rfl | ⟨b, rfl⟩
      · exact ⟨x, rfl⟩
      · exact ⟨x ++ '\n' :: b, by simp⟩
  · rw [lines_eq_singleton ht] at h
    obtain rfl := List.mem_singleton.mp h
    exact ⟨ht, [], [], by simp, Or.inl rfl, Or.inl rfl⟩
termination_by t.length

theorem mem_lines_iff {t line : Text} : line ∈ t.lines ↔ IsLine t line :=
  ⟨isLine_of_mem_lines, IsLine.mem_lines⟩

end FilterWire.Text
