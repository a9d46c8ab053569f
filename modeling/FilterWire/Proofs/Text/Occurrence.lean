import FilterWire.Text.Basic
import Mathlib.Data.List.Infix

/-!
# Occurrences of a fixed text

Searching, cutting and splitting are tied to the infix relation. A part
that avoids a character cannot lie across it, and splitting undoes joining
as long as the separator first stands where it was put.
-/

namespace FilterWire.Text

theorem occursIn_iff {part t : Text} : occursIn part t = true ↔ part <:+: t := by
  induction t with
  | nil => simp [occursIn]
  | cons c r ih => simp [occursIn, ih, List.infix_cons_iff]

theorem after?_eq_some_iff {opening t r : Text} :
    after? opening t = some r ↔ t = opening ++ r := by
  constructor
  · intro h
    by_cases hp : opening <+: t
    · obtain ⟨s, rfl⟩ := hp
      have hs : s = r := by simpa [after?] using h
      rw [hs]
    · simp [after?, hp] at h
  · rintro rfl
    simp [after?]

theorem before?_eq_some_iff {ending t r : Text} :
    before? ending t = some r ↔ t = r ++ ending := by
  constructor
  · intro h
    by_cases hs : ending <:+ t
    · obtain ⟨s, rfl⟩ := hs
      have hr : s = r := by simpa [before?] using h
      rw [hr]
    · simp [before?, hs] at h
  · rintro rfl
    simp [before?]

/-! ## Where an occurrence can lie -/

theorem prefix_append_cases {p x y : Text} (h : p <+: x ++ y) :
    p <+: x ∨ ∃ q, p = x ++ q ∧ q <+: y := by
  rcases List.prefix_or_prefix_of_prefix h (List.prefix_append x y) with hp | ⟨q, rfl⟩
  · exact Or.inl hp
  · exact Or.inr ⟨q, rfl, (List.prefix_append_right_inj x).mp h⟩

/-- A part without a given character ends before it. -/
theorem prefix_append_cons_iff {part x y : Text} {c : Char} (hc : c ∉ part) :
    part <+: x ++ c :: y ↔ part <+: x := by
  refine ⟨fun h => ?_, fun h => h.trans (List.prefix_append x _)⟩
  rcases prefix_append_cases h with hx | ⟨q, rfl, hq⟩
  · exact hx
  · rcases List.prefix_cons_iff.mp hq with rfl | ⟨t, rfl, -⟩
    · rw [List.append_nil]
    · simp at hc

/-- A part without a given character lies on one side of it. -/
theorem infix_append_cons_iff {part x y : Text} {c : Char} (hc : c ∉ part) :
    part <:+: x ++ c :: y ↔ part <:+: x ∨ part <:+: y := by
  constructor
  · intro h
    rcases List.infix_append_iff.mp h with h | h | ⟨a, b, rfl, ha, hb⟩
    · exact Or.inl h
    · rcases List.infix_cons_iff.mp h with h | h
      · rcases List.prefix_cons_iff.mp h with rfl | ⟨t, rfl, -⟩
        · exact Or.inl List.nil_infix
        · simp at hc
      · exact Or.inr h
    · rcases List.prefix_cons_iff.mp hb with rfl | ⟨t, rfl, -⟩
      · exact Or.inl (by simpa using ha.isInfix)
      · simp at hc
  · rintro (h | h)
    · exact List.infix_append_of_infix_left h
    · exact List.infix_append_of_infix_right (List.infix_cons h)

theorem infix_cons_of_notMem_iff {part y : Text} {c : Char} (hc : c ∉ part) :
    part <:+: c :: y ↔ part <:+: y := by
  constructor
  · intro h
    rcases (infix_append_cons_iff (x := []) hc).mp h with h | h
    · exact List.infix_nil.mp h ▸ List.nil_infix
    · exact h
  · exact List.infix_cons

/-- A part that starts with a character the left text lacks lies in the right text. -/
theorem cons_infix_append_iff {part x y : Text} {c : Char} (hc : c ∉ x) :
    c :: part <:+: x ++ y ↔ c :: part <:+: y := by
  refine ⟨fun h => ?_, List.infix_append_of_infix_right⟩
  rcases List.infix_append_iff_ne_nil.mp h with h | h | ⟨a, b, ha, -, hab, hax, -⟩
  · exact absurd (h.subset List.mem_cons_self) hc
  · exact h
  · obtain ⟨d, a, rfl⟩ := List.exists_cons_of_ne_nil ha
    obtain ⟨rfl, -⟩ := List.cons_eq_cons.mp hab
    exact absurd (hax.subset List.mem_cons_self) hc

/-- A part that ends with a character the right text lacks lies in the left text. -/
theorem concat_infix_append_iff {part x y : Text} {c : Char} (hc : c ∉ y) :
    part ++ [c] <:+: x ++ y ↔ part ++ [c] <:+: x := by
  have hrev : c ∉ y.reverse := by simpa using hc
  calc
    part ++ [c] <:+: x ++ y ↔ c :: part.reverse <:+: y.reverse ++ x.reverse := by
      rw [← List.reverse_infix]
      simp
    _ ↔ c :: part.reverse <:+: x.reverse := cons_infix_append_iff hrev
    _ ↔ part ++ [c] <:+: x := by
      rw [← List.reverse_infix]
      simp

theorem ne_nil_of_absent {part t : Text} (h : ¬ part <:+: t) : part ≠ [] := by
  rintro rfl
  exact h List.nil_infix

theorem absent_of_notMem {part t : Text} {c : Char} (hc : c ∈ part) (ht : c ∉ t) :
    ¬ part <:+: t :=
  fun h => ht (h.subset hc)

theorem notMem_intercalate {c : Char} {sep : Text} {ts : List Text} (hsep : c ∉ sep)
    (h : ∀ t ∈ ts, c ∉ t) : c ∉ sep.intercalate ts := by
  induction ts with
  | nil => exact List.not_mem_nil
  | cons t ts ih =>
      have htail := ih fun t' ht' => h t' (List.mem_cons_of_mem t ht')
      cases ts with
      | nil =>
          rw [List.intercalate_singleton]
          exact h t List.mem_cons_self
      | cons t' ts =>
          rw [List.intercalate_cons_cons, List.mem_append, List.mem_append, not_or, not_or]
          exact ⟨⟨h t List.mem_cons_self, hsep⟩, htail⟩

theorem infix_intercalate_of_mem {sep t : Text} {ts : List Text} (h : t ∈ ts) :
    t <:+: sep.intercalate ts := by
  induction ts with
  | nil => cases h
  | cons s ts ih =>
      cases ts with
      | nil => simp [List.mem_singleton.mp h]
      | cons s' ts =>
          rw [List.intercalate_cons_cons, List.append_assoc]
          rcases List.mem_cons.mp h with rfl | h
          · exact List.infix_append_left
          · exact (ih h).trans (List.infix_append_of_infix_right List.infix_append_right)

theorem intercalate_eq_nil_iff {sep : Text} {ts : List Text} (h : ∀ t ∈ ts, t ≠ []) :
    sep.intercalate ts = [] ↔ ts = [] := by
  constructor
  · intro hnil
    cases ts with
    | nil => rfl
    | cons t ts =>
        have hinfix : t <:+: sep.intercalate (t :: ts) :=
          infix_intercalate_of_mem List.mem_cons_self
        rw [hnil] at hinfix
        exact absurd (List.infix_nil.mp hinfix) (h t List.mem_cons_self)
  · rintro rfl
    rfl

/-! ## Cutting and splitting -/

section Separator

variable {sep : Text}

/-- If the separator does not stand earlier, it is not at the head. -/
theorem not_prefix_of_later {c : Char} {a b : Text}
    (h : ¬ sep <:+: (c :: a) ++ sep.dropLast) : ¬ sep <+: c :: (a ++ (sep ++ b)) := by
  intro hp
  cases sep.eq_nil_or_concat' with
  | inl hnil => exact h (hnil ▸ List.nil_infix)
  | inr hconcat =>
      obtain ⟨s, d, rfl⟩ := hconcat
      apply h
      have hlen : (s ++ [d]).length ≤ ((c :: a) ++ s).length := by
        simp only [List.length_append, List.length_cons, List.length_nil]
        omega
      have hlong : s ++ [d] <+: (c :: a) ++ s ++ d :: b := by simpa using hp
      simpa using ((List.isPrefix_append_of_length hlen).mp hlong).isInfix

theorem later_of_cons {c : Char} {a : Text} (h : ¬ sep <:+: (c :: a) ++ sep.dropLast) :
    ¬ sep <:+: a ++ sep.dropLast :=
  fun hi => h (List.infix_cons hi)

theorem cutFrom_append {a b : Text} (before : Text)
    (h : ¬ sep <:+: a ++ sep.dropLast) :
    cutFrom sep before (a ++ (sep ++ b)) = some (before.reverse ++ a, b) := by
  induction a generalizing before with
  | nil =>
      obtain ⟨d, s, rfl⟩ := List.exists_cons_of_ne_nil (ne_nil_of_absent h)
      simp [cutFrom]
  | cons c a ih =>
      have hnot : ¬ sep.isPrefixOf (c :: (a ++ (sep ++ b))) = true :=
        List.isPrefixOf_iff_prefix.not.mpr (not_prefix_of_later h)
      rw [List.cons_append, cutFrom, if_neg hnot, ih _ (later_of_cons h)]
      simp

/-- A text is cut where the separator first stands. -/
theorem cut?_append {a b : Text} (h : ¬ sep <:+: a ++ sep.dropLast) :
    cut? sep (a ++ (sep ++ b)) = some (a, b) :=
  cutFrom_append [] h

theorem eq_of_cutFrom {before t a b : Text} (h : cutFrom sep before t = some (a, b)) :
    before.reverse ++ t = a ++ (sep ++ b) := by
  induction t generalizing before with
  | nil =>
      rw [cutFrom] at h
      split at h
      · obtain ⟨rfl, rfl⟩ := Prod.mk.inj (Option.some.inj h)
        simp [List.isEmpty_iff.mp ‹_›]
      · cases h
  | cons c r ih =>
      rw [cutFrom] at h
      split at h
      · obtain ⟨rfl, rfl⟩ := Prod.mk.inj (Option.some.inj h)
        obtain ⟨rest, hrest⟩ := List.isPrefixOf_iff_prefix.mp ‹_›
        rw [← hrest, List.drop_left]
      · rw [← ih h]
        simp

/-- What is cut lies on the two sides of a separator. -/
theorem eq_of_cut? {t a b : Text} (h : cut? sep t = some (a, b)) : t = a ++ (sep ++ b) :=
  eq_of_cutFrom h

theorem splitFrom_skip (a b : Text) (piece : Text) :
    splitFrom sep a.length piece (a ++ b) = splitFrom sep 0 piece b := by
  induction a with
  | nil => rfl
  | cons c a ih => simpa [splitFrom] using ih

theorem splitFrom_append {a b : Text} (piece : Text)
    (h : ¬ sep <:+: a ++ sep.dropLast) :
    splitFrom sep 0 piece (a ++ (sep ++ b)) = (piece.reverse ++ a) :: split sep b := by
  induction a generalizing piece with
  | nil =>
      obtain ⟨d, s, rfl⟩ := List.exists_cons_of_ne_nil (ne_nil_of_absent h)
      simpa [splitFrom, split] using splitFrom_skip s b []
  | cons c a ih =>
      have hnot : ¬ sep.isPrefixOf (c :: (a ++ (sep ++ b))) = true :=
        List.isPrefixOf_iff_prefix.not.mpr (not_prefix_of_later h)
      rw [List.cons_append, splitFrom, if_neg hnot, ih _ (later_of_cons h)]
      simp

theorem splitFrom_of_absent {t : Text} (piece : Text) (h : ¬ sep <:+: t) :
    splitFrom sep 0 piece t = [piece.reverse ++ t] := by
  induction t generalizing piece with
  | nil => simp [splitFrom]
  | cons c r ih =>
      obtain ⟨hhead, htail⟩ := not_or.mp (List.infix_cons_iff.not.mp h)
      rw [splitFrom, if_neg (by simpa using hhead), ih _ htail]
      simp

/-- Splitting undoes joining, if no piece lets the separator stand before its place. -/
theorem split_intercalate {pieces : List Text} (hne : pieces ≠ [])
    (h : ∀ p ∈ pieces, ¬ sep <:+: p ++ sep.dropLast) :
    split sep (sep.intercalate pieces) = pieces := by
  induction pieces with
  | nil => exact absurd rfl hne
  | cons p ps ih =>
      have hp := h p List.mem_cons_self
      cases ps with
      | nil =>
          rw [List.intercalate_singleton]
          exact splitFrom_of_absent [] fun hi => hp (List.infix_append_of_infix_left hi)
      | cons q qs =>
          rw [List.intercalate_cons_cons, List.append_assoc, split, splitFrom_append _ hp,
            ih (by simp) fun r hr => h r (List.mem_cons_of_mem p hr)]
          rfl

/-! ## Splitting piece by piece -/

theorem splitFrom_ne_nil (sep : Text) (skip : Nat) (piece t : Text) :
    splitFrom sep skip piece t ≠ [] := by
  induction t generalizing skip piece with
  | nil => simp [splitFrom]
  | cons c r ih =>
      cases skip with
      | zero =>
          rw [splitFrom]
          split
          · exact List.cons_ne_nil _ _
          · exact ih 0 (c :: piece)
      | succ skip => exact ih skip piece

theorem splitFrom_piece_append {t p : Text} {ps : List Text} (a b : Text)
    (h : splitFrom sep 0 a t = p :: ps) :
    splitFrom sep 0 (a ++ b) t = (b.reverse ++ p) :: ps := by
  induction t generalizing a with
  | nil =>
      obtain ⟨rfl, rfl⟩ := List.cons_eq_cons.mp h
      simp [splitFrom]
  | cons c r ih =>
      rw [splitFrom] at h ⊢
      split at h
      · obtain ⟨rfl, rfl⟩ := List.cons_eq_cons.mp h
        rw [if_pos ‹_›, List.reverse_append]
      · rw [if_neg ‹_›]
        exact ih (c :: a) h

/-- A character that the separator lacks joins the last piece before it to the first one
after it. -/
theorem splitFrom_append_cons {c : Char} {x y q p : Text} {qs ps : List Text} {skip : Nat}
    {piece : Text} (hne : sep ≠ []) (hc : c ∉ sep) (hskip : skip ≤ x.length)
    (hx : splitFrom sep skip piece x = qs ++ [q]) (hy : split sep y = p :: ps) :
    splitFrom sep skip piece (x ++ c :: y) = qs ++ (q ++ c :: p) :: ps := by
  induction x generalizing skip piece qs with
  | nil =>
      obtain rfl := Nat.le_zero.mp hskip
      obtain ⟨rfl, rfl⟩ : qs = [] ∧ piece.reverse = q := by
        cases qs with
        | nil => exact ⟨rfl, (List.cons_eq_cons.mp hx).1⟩
        | cons a qs => simp [splitFrom] at hx
      have hnot : ¬ sep.isPrefixOf (c :: y) = true := by
        rw [List.isPrefixOf_iff_prefix]
        exact fun hp => hne (List.prefix_nil.mp ((prefix_append_cons_iff (x := []) hc).mp hp))
      rw [List.nil_append, splitFrom, if_neg hnot]
      exact (splitFrom_piece_append [] (c :: piece) hy).trans (by simp)
  | cons d x ih =>
      cases skip with
      | succ skip => exact ih (Nat.le_of_succ_le_succ hskip) hx
      | zero =>
          have hprefix : sep.isPrefixOf (d :: (x ++ c :: y)) = sep.isPrefixOf (d :: x) := by
            rw [Bool.eq_iff_iff, List.isPrefixOf_iff_prefix, List.isPrefixOf_iff_prefix]
            exact prefix_append_cons_iff (x := d :: x) hc
          rw [List.cons_append, splitFrom, hprefix]
          rw [splitFrom] at hx
          split at hx
          · have hlen := (List.isPrefixOf_iff_prefix.mp ‹_›).length_le
            have hshort : sep.length - 1 ≤ x.length := by
              rw [List.length_cons] at hlen
              omega
            cases qs with
            | nil => exact absurd (List.cons_eq_cons.mp hx).2 (splitFrom_ne_nil _ _ _ _)
            | cons a qs =>
                obtain ⟨rfl, hrest⟩ := List.cons_eq_cons.mp hx
                rw [if_pos ‹_›, ih hshort hrest, List.cons_append]
          · rw [if_neg ‹_›]
            exact ih (Nat.zero_le _) hx

theorem split_append_cons {c : Char} {x y q p : Text} {qs ps : List Text} (hne : sep ≠ [])
    (hc : c ∉ sep) (hx : split sep x = qs ++ [q]) (hy : split sep y = p :: ps) :
    split sep (x ++ c :: y) = qs ++ (q ++ c :: p) :: ps :=
  splitFrom_append_cons hne hc (Nat.zero_le _) hx hy

theorem exists_split_eq_concat (sep t : Text) : ∃ qs q, split sep t = qs ++ [q] :=
  (List.eq_nil_or_concat' _).resolve_left (splitFrom_ne_nil sep 0 [] t)

theorem split_sep_append (hne : sep ≠ []) (b : Text) :
    split sep (sep ++ b) = [] :: split sep b := by
  apply splitFrom_append (a := []) []
  intro h
  have hlen := h.length_le
  have hpos := List.length_pos_of_ne_nil hne
  rw [List.nil_append, List.length_dropLast] at hlen
  omega

/-- A text that ends outside the separator is split apart from what comes after it. -/
theorem split_concat_append {c : Char} (hne : sep ≠ []) (hc : c ∉ sep) (x b : Text) :
    split sep (x ++ [c] ++ (sep ++ b)) = split sep (x ++ [c]) ++ split sep b := by
  obtain ⟨qs, q, hx⟩ := exists_split_eq_concat sep x
  rw [split_append_cons hne hc hx (rfl : split sep [] = [[]]), List.append_assoc x,
    List.singleton_append, split_append_cons hne hc hx (split_sep_append hne b)]
  simp

/-- Where no separator reaches into what goes before, it only makes the first piece longer. -/
theorem split_append_of_absent {c : Char} {x w z p : Text} {ps : List Text} (hc : c ∉ sep)
    (h : ¬ sep <:+: x ++ w) (hp : split sep (w ++ c :: z) = p :: ps) :
    split sep (x ++ (w ++ c :: z)) = (x ++ p) :: ps := by
  have hne : sep ≠ [] := ne_nil_of_absent h
  have hw : split sep w = [] ++ [w] :=
    splitFrom_of_absent [] fun hi => h (List.infix_append_of_infix_right hi)
  have hxw : split sep (x ++ w) = [] ++ [x ++ w] := splitFrom_of_absent [] h
  obtain ⟨p', ps', hz⟩ := List.exists_cons_of_ne_nil (splitFrom_ne_nil sep 0 [] z)
  rw [split_append_cons hne hc hw hz, List.nil_append] at hp
  obtain ⟨rfl, rfl⟩ := List.cons_eq_cons.mp hp
  rw [← List.append_assoc, split_append_cons hne hc hxw hz, List.nil_append, List.append_assoc]

theorem split_intercalate_eq_flatMap {ts : List Text} (hne : sep ≠ []) (hts : ts ≠ [])
    (h : ∀ t ∈ ts, ∃ x c, c ∉ sep ∧ t = x ++ [c]) :
    split sep (sep.intercalate ts) = ts.flatMap (split sep) := by
  induction ts with
  | nil => exact absurd rfl hts
  | cons t ts ih =>
      cases ts with
      | nil => simp
      | cons t' ts =>
          obtain ⟨x, c, hc, rfl⟩ := h t List.mem_cons_self
          rw [List.intercalate_cons_cons, List.append_assoc, split_concat_append hne hc,
            ih (List.cons_ne_nil _ _) fun s hs => h s (List.mem_cons_of_mem _ hs)]
          exact List.flatMap_cons.symm

theorem two_le_length_splitFrom {t : Text} (piece : Text) (hne : sep ≠ []) (h : sep <:+: t) :
    2 ≤ (splitFrom sep 0 piece t).length := by
  induction t generalizing piece with
  | nil => exact absurd (List.infix_nil.mp h) hne
  | cons c r ih =>
      rw [splitFrom]
      split
      · have hrest := List.length_pos_of_ne_nil (splitFrom_ne_nil sep (sep.length - 1) [] r)
        rw [List.length_cons]
        omega
      · rcases List.infix_cons_iff.mp h with hhead | htail
        · exact absurd (List.isPrefixOf_iff_prefix.mpr hhead) ‹_›
        · exact ih _ htail

/-- A separator in a text leaves a piece before its last one. -/
theorem split_eq_concat_of_infix {t : Text} (hne : sep ≠ []) (h : sep <:+: t) :
    ∃ p ps q, split sep t = p :: (ps ++ [q]) := by
  have hlen : 2 ≤ (split sep t).length := two_le_length_splitFrom [] hne h
  obtain ⟨qs, q, hsplit⟩ := exists_split_eq_concat sep t
  cases qs with
  | nil => simp [hsplit] at hlen
  | cons p ps => exact ⟨p, ps, q, hsplit⟩

end Separator

end FilterWire.Text
