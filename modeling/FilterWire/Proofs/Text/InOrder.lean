import FilterWire.Proofs.Text.Occurrence

/-!
# Slices in order

Some texts stand in another one as slices that do not overlap, one after
the other. Slices can be dropped or narrowed and the whole can be widened.
The pieces of a split text stand in it like that, since joining them
gives it back.
-/

namespace FilterWire.Text

/-- The texts stand in the last one without overlap, in the same order. -/
def InOrder : List Text → Text → Prop
  | [], _ => True
  | s :: ss, t => ∃ gap r, t = gap ++ (s ++ r) ∧ InOrder ss r

namespace InOrder

variable {ss : List Text} {t u : Text}

theorem append_left (h : InOrder ss t) (a : Text) : InOrder ss (a ++ t) := by
  cases ss with
  | nil => trivial
  | cons s ss =>
      obtain ⟨gap, r, rfl, hr⟩ := h
      exact ⟨a ++ gap, r, by rw [List.append_assoc], hr⟩

theorem append_right (h : InOrder ss t) (b : Text) : InOrder ss (t ++ b) := by
  induction ss generalizing t with
  | nil => trivial
  | cons s ss ih =>
      obtain ⟨gap, r, rfl, hr⟩ := h
      exact ⟨gap, r ++ b, by simp only [List.append_assoc], ih hr⟩

theorem widen (h : InOrder ss t) (ht : t <:+: u) : InOrder ss u := by
  obtain ⟨a, b, rfl⟩ := ht
  exact (h.append_left a).append_right b

theorem tail {s : Text} (h : InOrder (s :: ss) t) : InOrder ss t := by
  obtain ⟨gap, r, rfl, hr⟩ := h
  exact (hr.append_left s).append_left gap

theorem infix_of_mem {s : Text} (h : InOrder ss t) (hs : s ∈ ss) : s <:+: t := by
  induction ss generalizing t with
  | nil => cases hs
  | cons s' ss ih =>
      obtain ⟨gap, r, rfl, hr⟩ := h
      rcases List.mem_cons.mp hs with rfl | hs
      · exact ⟨gap, r, by rw [List.append_assoc]⟩
      · obtain ⟨a, b, rfl⟩ := ih hr hs
        exact ⟨gap ++ (s' ++ a), b, by simp only [List.append_assoc]⟩

/-- A slice may be any part of a piece before the others. -/
theorem cons_of_infix {s p r : Text} (hs : s <:+: p) (h : InOrder ss r) (gap : Text) :
    InOrder (s :: ss) (gap ++ (p ++ r)) := by
  obtain ⟨a, b, rfl⟩ := hs
  exact ⟨gap ++ a, b ++ r, by simp only [List.append_assoc], h.append_left b⟩

theorem filter (h : InOrder ss t) (p : Text → Bool) : InOrder (ss.filter p) t := by
  induction ss generalizing t with
  | nil => trivial
  | cons s ss ih =>
      by_cases hs : p s = true
      · obtain ⟨gap, r, rfl, hr⟩ := h
        rw [List.filter_cons_of_pos hs]
        exact cons_of_infix List.infix_rfl (ih hr) gap
      · rw [List.filter_cons_of_neg hs]
        exact ih h.tail

theorem intercalate (sep : Text) (ss : List Text) : InOrder ss (sep.intercalate ss) := by
  induction ss with
  | nil => trivial
  | cons s ss ih =>
      cases ss with
      | nil => exact ⟨[], [], by simp, trivial⟩
      | cons s' ss =>
          rw [List.intercalate_cons_cons, List.append_assoc]
          exact ⟨[], _, rfl, ih.append_left sep⟩

end InOrder

section Separator

variable {sep : Text}

/-- The characters of a separator are passed without a trace, all others end up in a piece. -/
theorem intercalate_splitFrom (hne : sep ≠ []) (skip : Nat) (piece t : Text) :
    sep.intercalate (splitFrom sep skip piece t) = piece.reverse ++ t.drop skip := by
  induction t generalizing skip piece with
  | nil => simp [splitFrom]
  | cons c r ih =>
      cases skip with
      | succ skip => exact ih skip piece
      | zero =>
          rw [splitFrom]
          split
          · obtain ⟨rest, hrest⟩ := List.isPrefixOf_iff_prefix.mp ‹_›
            have hjoin := ih (sep.length - 1) []
            have htext : sep ++ r.drop (sep.length - 1) = c :: r := by
              have hlen : sep.length = sep.length - 1 + 1 := by
                have hpos := List.length_pos_of_ne_nil hne
                omega
              calc
                sep ++ r.drop (sep.length - 1) = sep ++ (c :: r).drop (sep.length - 1 + 1) := rfl
                _ = sep ++ (sep ++ rest).drop sep.length := by rw [← hlen, hrest]
                _ = c :: r := by rw [List.drop_left, hrest]
            rw [List.intercalate_cons_of_ne_nil (splitFrom_ne_nil _ _ _ _), hjoin]
            simp [htext]
          · rw [ih 0 (c :: piece)]
            simp

/-- Joining undoes splitting. -/
theorem intercalate_split (hne : sep ≠ []) (t : Text) : sep.intercalate (split sep t) = t :=
  intercalate_splitFrom hne 0 [] t

theorem inOrder_split (hne : sep ≠ []) (t : Text) : InOrder (split sep t) t := by
  have h := InOrder.intercalate sep (split sep t)
  rwa [intercalate_split hne] at h

end Separator

end FilterWire.Text
