import FilterWire.Text.Blank
import FilterWire.Value.Basic
import Mathlib.Data.List.Forall2
import Mathlib.Data.Option.Basic

/-!
# Two readings of a row of code points

A row of code points with unpaired surrogates is no text, but it can be read as
one in two ways. The readings have different characters only where a surrogate
stands, and no rule looks for any of these. So whatever is cut out of one of
them is cut out of the other one at the same places.
-/

namespace FilterWire

/-! ## Code points of texts -/

theorem Text.ofCodes?_map_toNat (t : Text) : Text.ofCodes? (t.map Char.toNat) = some t := by
  have hnone : (t.map Char.toNat).any isSurrogate = false := by
    rw [List.any_map, List.any_eq_false]
    intro c _
    rw [Function.comp_apply, isSurrogate_toNat]
    exact Bool.false_ne_true
  have hchars : (t.map Char.toNat).map Char.ofNat = t := by
    rw [List.map_map]
    exact List.map_id'' Char.ofNat_toNat t
  rw [Text.ofCodes?, hnone, hchars]
  rfl

theorem Value.ofCodes_map_toNat (t : Text) : Value.ofCodes (t.map Char.toNat) = .str t := by
  rw [ofCodes, Text.ofCodes?_map_toNat]

theorem EntryKey.ofCodes_map_toNat (t : Text) : EntryKey.ofCodes (t.map Char.toNat) = .text t := by
  rw [ofCodes, Text.ofCodes?_map_toNat]

/-! ## Characters -/

/-- What stands for the same code point in the two readings. -/
inductive Twin : Char → Char → Prop
  | same (c : Char) : Twin c c
  | surrogate {n : Nat} (h : isSurrogate n = true) : Twin (Text.lossyChar n) (Text.markedChar n)

abbrev Twins : Text → Text → Prop := List.Forall₂ Twin

/-- Rules look for low characters only, and none of these stands for a surrogate. -/
def IsLow (c : Char) : Prop := c.toNat < 0xE000

instance (c : Char) : Decidable (IsLow c) :=
  inferInstanceAs (Decidable (_ < _))

def LowText (t : Text) : Prop := ∀ c ∈ t, IsLow c

instance (t : Text) : Decidable (LowText t) :=
  List.decidableBAll IsLow t

namespace Twin

variable {c d x : Char} {n : Nat}

theorem toNat_lossyChar (h : isSurrogate n = true) : (Text.lossyChar n).toNat = 0xFFFD := by
  rw [Text.lossyChar, if_pos h]
  rfl

theorem toNat_markedChar (h : isSurrogate n = true) :
    (Text.markedChar n).toNat = n - 0xD800 + 0x100000 := by
  rw [Text.markedChar, if_pos h]
  rw [isSurrogate, decide_eq_true_iff] at h
  have hvalid : (n - 0xD800 + 0x100000).isValidChar := Or.inr ⟨by omega, by omega⟩
  rw [Char.ofNat, dif_pos hvalid]
  rfl

theorem ofCode (n : Nat) : Twin (Text.lossyChar n) (Text.markedChar n) := by
  cases h : isSurrogate n with
  | true => exact .surrogate h
  | false =>
      rw [Text.lossyChar, Text.markedChar, if_neg (by simp [h]), if_neg (by simp [h])]
      exact .same _

theorem eq_or_not_low (h : Twin c d) : c = d ∨ ¬ IsLow c ∧ ¬ IsLow d := by
  cases h with
  | same => exact Or.inl rfl
  | surrogate h =>
      refine Or.inr ⟨?_, ?_⟩
      · rw [IsLow, toNat_lossyChar h]
        decide
      · rw [IsLow, toNat_markedChar h]
        omega

/-- A test that only low characters pass has the same answer for both. -/
theorem test_eq {p : Char → Bool} (hp : ∀ c, p c = true → IsLow c) (h : Twin c d) :
    p c = p d := by
  rcases h.eq_or_not_low with rfl | ⟨hc, hd⟩
  · rfl
  · rw [Bool.eq_false_iff.mpr fun hpass => hc (hp c hpass),
      Bool.eq_false_iff.mpr fun hpass => hd (hp d hpass)]

theorem eq_iff (hx : IsLow x) (h : Twin c d) : c = x ↔ d = x := by
  rcases h.eq_or_not_low with rfl | ⟨hc, hd⟩
  · rfl
  · exact iff_of_false (fun heq => hc (heq ▸ hx)) fun heq => hd (heq ▸ hx)

theorem ne_test_eq (hx : IsLow x) (h : Twin c d) : decide (c ≠ x) = decide (d ≠ x) :=
  decide_eq_decide.mpr (not_congr (h.eq_iff hx))

theorem isBlank_eq (h : Twin c d) : isBlank c = isBlank d := by
  refine h.test_eq fun e he => ?_
  by_contra hlow
  rw [IsLow, Nat.not_lt] at hlow
  simp [isBlank, blankRanges, inRanges] at he
  omega

end Twin

/-! ## Texts -/

namespace Twins

variable {t t' r r' part : Text}

theorem ofCodes (codes : List Nat) :
    Twins (Text.ofCodesLossy codes) (Text.ofCodesMarked codes) := by
  rw [Twins, Text.ofCodesLossy, Text.ofCodesMarked, List.forall₂_map_left_iff,
    List.forall₂_map_right_iff, List.forall₂_same]
  exact fun n _ => .ofCode n

protected theorem refl (t : Text) : Twins t t :=
  List.forall₂_same.mpr fun c _ => .same c

theorem reverse (h : Twins t t') : Twins t.reverse t'.reverse :=
  List.rel_reverse h

theorem drop (n : Nat) (h : Twins t t') : Twins (t.drop n) (t'.drop n) :=
  List.forall₂_drop n h

theorem take (n : Nat) (h : Twins t t') : Twins (t.take n) (t'.take n) :=
  List.forall₂_take n h

theorem isEmpty_eq (h : Twins t t') : t.isEmpty = t'.isEmpty := by
  cases h <;> rfl

/-- Without a surrogate there is only one reading. -/
theorem eq_of_isLow (h : Twins t t') (ht : LowText t) : t = t' := by
  induction h with
  | nil => rfl
  | cons hc h ih =>
      obtain ⟨hlow, ht⟩ := List.forall_mem_cons.mp ht
      rw [ih ht, hc.eq_or_not_low.resolve_right fun hnone => hnone.1 hlow]

section Test

variable {p : Char → Bool} (hp : ∀ {c d}, Twin c d → p c = p d)

include hp

theorem dropWhile (h : Twins t t') : Twins (t.dropWhile p) (t'.dropWhile p) := by
  induction h with
  | nil => exact .nil
  | cons hc h ih =>
      rw [List.dropWhile_cons, List.dropWhile_cons, hp hc]
      split
      · exact ih
      · exact .cons hc h

theorem takeWhile (h : Twins t t') : Twins (t.takeWhile p) (t'.takeWhile p) := by
  induction h with
  | nil => exact .nil
  | cons hc h ih =>
      rw [List.takeWhile_cons, List.takeWhile_cons, hp hc]
      split
      · exact .cons hc ih
      · exact .nil

end Test

theorem trim (h : Twins t t') : Twins t.trim t'.trim :=
  ((h.dropWhile Twin.isBlank_eq).reverse.dropWhile Twin.isBlank_eq).reverse

/-! ## Fixed texts -/

section Fixed

variable (hpart : LowText part)

include hpart

theorem isPrefixOf_eq (h : Twins t t') : part.isPrefixOf t = part.isPrefixOf t' := by
  induction part generalizing t t' with
  | nil => rfl
  | cons x part ih =>
      obtain ⟨hx, hpart⟩ := List.forall_mem_cons.mp hpart
      cases h with
      | nil => rfl
      | cons hc h =>
          have htest : (x == _) = (x == _) := hc.test_eq fun c hxc => eq_of_beq hxc ▸ hx
          rw [List.isPrefixOf_cons_cons, List.isPrefixOf_cons_cons, ih hpart h, htest]

theorem isSuffixOf_eq (h : Twins t t') : part.isSuffixOf t = part.isSuffixOf t' :=
  isPrefixOf_eq (fun c hc => hpart c (List.mem_reverse.mp hc)) h.reverse

theorem occursIn_eq (h : Twins t t') : Text.occursIn part t = Text.occursIn part t' := by
  induction h with
  | nil => rfl
  | cons hc h ih => rw [Text.occursIn, Text.occursIn, isPrefixOf_eq hpart (.cons hc h), ih]

theorem after? (h : Twins t t') : Option.Rel Twins (Text.after? part t) (Text.after? part t') := by
  rw [Text.after?, Text.after?, isPrefixOf_eq hpart h]
  split
  · exact .some (h.drop _)
  · exact .none

theorem before? (h : Twins t t') :
    Option.Rel Twins (Text.before? part t) (Text.before? part t') := by
  rw [Text.before?, Text.before?, isSuffixOf_eq hpart h, h.length_eq]
  split
  · exact .some (h.take _)
  · exact .none

theorem cutFrom (hr : Twins r r') (h : Twins t t') :
    Option.Rel (fun p q => Twins p.1 q.1 ∧ Twins p.2 q.2)
      (Text.cutFrom part r t) (Text.cutFrom part r' t') := by
  induction h generalizing r r' with
  | nil =>
      rw [Text.cutFrom, Text.cutFrom]
      split
      · exact .some ⟨hr.reverse, .nil⟩
      · exact .none
  | cons hc h ih =>
      rw [Text.cutFrom, Text.cutFrom, isPrefixOf_eq hpart (.cons hc h)]
      split
      · exact .some ⟨hr.reverse, drop _ (.cons hc h)⟩
      · exact ih (.cons hc hr)

theorem cut? (h : Twins t t') : Option.Rel (fun p q => Twins p.1 q.1 ∧ Twins p.2 q.2)
    (Text.cut? part t) (Text.cut? part t') :=
  cutFrom hpart .nil h

theorem splitFrom (skip : Nat) (hr : Twins r r') (h : Twins t t') :
    List.Forall₂ Twins (Text.splitFrom part skip r t) (Text.splitFrom part skip r' t') := by
  induction h generalizing skip r r' with
  | nil =>
      rw [Text.splitFrom, Text.splitFrom]
      exact .cons hr.reverse .nil
  | cons hc h ih =>
      cases skip with
      | succ skip => exact ih skip hr
      | zero =>
          rw [Text.splitFrom, Text.splitFrom, isPrefixOf_eq hpart (.cons hc h)]
          split
          · exact .cons hr.reverse (ih _ .nil)
          · exact ih 0 (.cons hc hr)

theorem split (h : Twins t t') :
    List.Forall₂ Twins (Text.split part t) (Text.split part t') :=
  splitFrom hpart 0 .nil h

end Fixed

end Twins

end FilterWire
