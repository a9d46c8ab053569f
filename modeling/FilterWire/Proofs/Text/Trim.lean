import FilterWire.Text.Blank
import Mathlib.Data.List.DropRight

/-!
# Trimming

A text is its trimmed form between two blank stretches, and blanks added
at the ends make no difference.
-/

namespace FilterWire.Text

theorem trimEnd_eq_rdropWhile (t : Text) : t.trimEnd = t.rdropWhile isBlank := rfl

theorem trimEnd_append {t q : Text} (hq : ∀ c ∈ q, isBlank c = true) :
    (t ++ q).trimEnd = t.trimEnd := by
  have hrev : ∀ c ∈ q.reverse, isBlank c = true := by simpa using hq
  rw [trimEnd, List.reverse_append, List.dropWhile_append_of_pos hrev, trimEnd]

/-- Blanks at the two ends make no difference. -/
theorem trim_append {p t q : Text} (hp : ∀ c ∈ p, isBlank c = true)
    (hq : ∀ c ∈ q, isBlank c = true) : (p ++ t ++ q).trim = t.trim := by
  rw [trim, trimStart, List.append_assoc, List.dropWhile_append_of_pos hp, List.dropWhile_append]
  by_cases h : (t.dropWhile isBlank).isEmpty
  · have ht : t.dropWhile isBlank = [] := List.isEmpty_iff.mp h
    have hblank : q.dropWhile isBlank = [] := List.dropWhile_eq_nil_iff.mpr hq
    rw [if_pos h, hblank, trim, trimStart, ht]
  · rw [if_neg h, trimEnd_append hq]
    rfl

/-- A text that starts and ends with other characters than blanks is trimmed already. -/
theorem trim_eq_self {t : Text} {c d : Char} (hc : isBlank c = false) (hd : isBlank d = false) :
    trim (c :: t ++ [d]) = c :: t ++ [d] := by
  simp [trim, trimStart, trimEnd, hc, hd]

theorem exists_eq_append_trim (t : Text) :
    ∃ p q, (∀ c ∈ p, isBlank c = true) ∧ (∀ c ∈ q, isBlank c = true) ∧ t = p ++ t.trim ++ q := by
  refine ⟨t.takeWhile isBlank, t.trimStart.rtakeWhile isBlank, ?_, ?_, ?_⟩
  · exact fun c hc => List.mem_takeWhile_imp hc
  · exact fun c hc => List.mem_rtakeWhile_imp hc
  · rw [List.append_assoc, trim, trimEnd_eq_rdropWhile, List.rdropWhile_append_rtakeWhile,
      trimStart, List.takeWhile_append_dropWhile]

theorem trim_trim (t : Text) : t.trim.trim = t.trim := by
  obtain ⟨p, q, hp, hq, ht⟩ := t.exists_eq_append_trim
  rw [← trim_append hp hq, ← ht]

theorem trim_infix_self (t : Text) : t.trim <:+: t := by
  obtain ⟨p, q, -, -, ht⟩ := t.exists_eq_append_trim
  exact ⟨p, q, ht.symm⟩

end FilterWire.Text
