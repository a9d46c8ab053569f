import FilterWire.Comparator.Standard
import FilterWire.Proofs.Text.Line

/-!
# Brackets around values

A bracketed value is recognised by an opening and a later closing that do
not overlap. Around a value on one line, only what the value itself holds
can make its brackets look like those of another comparator.
-/

namespace FilterWire

namespace Text

/-- The leftmost opening leaves the most room for a closing. -/
theorem cutFrom_occursIn_iff {opening closing t : Text} (before : Text) :
    (match cutFrom opening before t with
      | some (_, r) => closing.occursIn r
      | none => false) = true ↔
      ∃ a r, t = a ++ (opening ++ r) ∧ closing <:+: r := by
  induction t generalizing before with
  | nil => cases opening <;> simp [cutFrom, occursIn_iff]
  | cons d s ih =>
      by_cases hp : opening <+: d :: s
      · obtain ⟨r₀, hr₀⟩ := hp
        have hcut : cutFrom opening before (d :: s) = some (before.reverse, r₀) := by
          rw [cutFrom, if_pos (List.isPrefixOf_iff_prefix.mpr ⟨r₀, hr₀⟩), ← hr₀, List.drop_left]
        rw [hcut]
        constructor
        · exact fun h => ⟨[], r₀, hr₀.symm, occursIn_iff.mp h⟩
        · rintro ⟨a, r, hr, hc⟩
          have hlen : r.length ≤ r₀.length := by
            have hsum := congrArg List.length (hr₀.trans hr)
            simp only [List.length_append] at hsum
            omega
          have hsuffix : r <:+ r₀ :=
            List.suffix_of_suffix_length_le ⟨a ++ opening, by rw [hr, List.append_assoc]⟩
              ⟨opening, hr₀⟩ hlen
          exact occursIn_iff.mpr (hc.trans hsuffix.isInfix)
      · rw [cutFrom, if_neg (List.isPrefixOf_iff_prefix.not.mpr hp), ih]
        constructor
        · rintro ⟨a, r, rfl, hc⟩
          exact ⟨d :: a, r, rfl, hc⟩
        · rintro ⟨a, r, hr, hc⟩
          cases a with
          | nil => exact absurd ⟨r, hr.symm⟩ hp
          | cons e a => exact ⟨a, r, (List.cons.inj hr).2, hc⟩

theorem getD_after_infix_self (opening t : Text) : (after? opening t).getD t <:+: t := by
  cases h : after? opening t with
  | none => exact List.infix_rfl
  | some r =>
      rw [Option.getD_some, after?_eq_some_iff.mp h]
      exact List.infix_append_right

theorem getD_before_infix_self (ending t : Text) : (before? ending t).getD t <:+: t := by
  cases h : before? ending t with
  | none => exact List.infix_rfl
  | some r =>
      rw [Option.getD_some, before?_eq_some_iff.mp h]
      exact List.infix_append_left

end Text

namespace Codec

theorem decode_encode (codec : Codec) (t : Text) : codec.decode (codec.encode t) = t := by
  cases codec with
  | plain => rfl
  | bracketed opening closing =>
      have hopen : Text.after? opening (opening ++ t ++ closing) = some (t ++ closing) :=
        Text.after?_eq_some_iff.mpr (List.append_assoc _ _ _)
      have hclose : Text.before? closing (t ++ closing) = some t :=
        Text.before?_eq_some_iff.mpr rfl
      simp only [encode, decode, hopen, Option.getD_some, hclose]

theorem decode_infix_self (codec : Codec) (t : Text) : codec.decode t <:+: t := by
  cases codec with
  | plain => exact List.infix_rfl
  | bracketed opening closing =>
      exact (Text.getD_before_infix_self closing _).trans (Text.getD_after_infix_self opening t)

end Codec

namespace Comparator

theorem hasBrackets_iff {opening closing t : Text} (ht : '\n' ∉ t) :
    hasBrackets opening closing t = true ↔ ∃ a r, t = a ++ (opening ++ r) ∧ closing <:+: r := by
  rw [hasBrackets, Text.lines_eq_singleton ht, List.any_cons, List.any_nil, Bool.or_false]
  exact Text.cutFrom_occursIn_iff []

/-- Each bracket stands clear of as much of the text as the other one takes. -/
theorem infix_of_hasBrackets {opening closing t : Text} (ht : '\n' ∉ t)
    (h : hasBrackets opening closing t = true) :
    opening <:+: t.take (t.length - closing.length) ∧ closing <:+: t.drop opening.length := by
  obtain ⟨a, r, rfl, hc⟩ := (hasBrackets_iff ht).mp h
  have hlen := hc.length_le
  constructor
  · have hwhole : a ++ opening <+: a ++ (opening ++ r) := ⟨r, List.append_assoc _ _ _⟩
    have hshort := List.take_prefix ((a ++ (opening ++ r)).length - closing.length)
      (a ++ (opening ++ r))
    have hprefix := List.prefix_of_prefix_length_le hwhole hshort (by
      simp only [List.length_append, List.length_take]
      omega)
    exact List.infix_append_right.trans hprefix.isInfix
  · have hwhole : r <:+ a ++ (opening ++ r) := ⟨a ++ opening, List.append_assoc _ _ _⟩
    have hshort := List.drop_suffix opening.length (a ++ (opening ++ r))
    have hsuffix := List.suffix_of_suffix_length_le hwhole hshort (by
      simp only [List.length_append, List.length_drop]
      omega)
    exact hc.trans hsuffix.isInfix

/-! ## Values in brackets -/

theorem encode_contains (q : Text) :
    Comparator.contains.codec.encode q = ['[', '.', '*'] ++ q ++ ['.', '*', ']'] := rfl

theorem encode_startsWith (q : Text) :
    startsWith.codec.encode q = ['[', '^'] ++ q ++ ['.', '*', ']'] := rfl

theorem encode_endsWith (q : Text) :
    endsWith.codec.encode q = ['[', '.', '*'] ++ q ++ ['$', ']'] := rfl

theorem contains_ne_startsWith : Comparator.contains ≠ startsWith :=
  fun h => absurd (congrArg codec h) (by decide)

theorem contains_ne_endsWith : Comparator.contains ≠ endsWith :=
  fun h => absurd (congrArg codec h) (by decide)

section OneLine

variable {q : Text}

theorem ofSharedName_contains (hq : '\n' ∉ q) :
    ofSharedName (Comparator.contains.codec.encode q) = Comparator.contains := by
  rw [encode_contains]
  have hline : '\n' ∉ ['[', '.', '*'] ++ q ++ ['.', '*', ']'] := by simp [hq]
  have hown : hasBrackets ['[', '.', '*'] ['.', '*', ']']
      (['[', '.', '*'] ++ q ++ ['.', '*', ']']) = true :=
    (hasBrackets_iff hline).mpr ⟨[], q ++ ['.', '*', ']'], rfl, List.infix_append_right⟩
  rw [ofSharedName, if_pos hown]

/-- An opening of `contains` in the value takes over. -/
theorem ofSharedName_startsWith_eq_contains (hq : '\n' ∉ q) (h : ['[', '.', '*'] <:+: q) :
    ofSharedName (startsWith.codec.encode q) = Comparator.contains := by
  obtain ⟨x, y, rfl⟩ := h
  rw [encode_startsWith]
  have hline : '\n' ∉ ['[', '^'] ++ (x ++ ['[', '.', '*'] ++ y) ++ ['.', '*', ']'] := by simp_all
  have hother : hasBrackets ['[', '.', '*'] ['.', '*', ']']
      (['[', '^'] ++ (x ++ ['[', '.', '*'] ++ y) ++ ['.', '*', ']']) = true :=
    (hasBrackets_iff hline).mpr ⟨'[' :: '^' :: x, y ++ ['.', '*', ']'], by simp,
      List.infix_append_right⟩
  rw [ofSharedName, if_pos hother]

theorem ofSharedName_startsWith_iff (hq : '\n' ∉ q) :
    ofSharedName (startsWith.codec.encode q) = startsWith ↔ ¬ ['[', '.', '*'] <:+: q := by
  constructor
  · intro h hin
    exact contains_ne_startsWith ((ofSharedName_startsWith_eq_contains hq hin).symm.trans h)
  · intro h
    rw [encode_startsWith]
    have hline : '\n' ∉ ['[', '^'] ++ q ++ ['.', '*', ']'] := by simp [hq]
    have hown : hasBrackets ['[', '^'] ['.', '*', ']']
        (['[', '^'] ++ q ++ ['.', '*', ']']) = true :=
      (hasBrackets_iff hline).mpr ⟨[], q ++ ['.', '*', ']'], rfl, List.infix_append_right⟩
    have hother : ¬ hasBrackets ['[', '.', '*'] ['.', '*', ']']
        (['[', '^'] ++ q ++ ['.', '*', ']']) = true := by
      intro hb
      have hin := (infix_of_hasBrackets hline hb).1
      exact h (by simpa [List.infix_cons_iff, List.cons_prefix_cons] using hin)
    rw [ofSharedName, if_neg hother, if_pos hown]

/-- A closing of `contains` in the value takes over. -/
theorem ofSharedName_endsWith_eq_contains (hq : '\n' ∉ q) (h : ['.', '*', ']'] <:+: q) :
    ofSharedName (endsWith.codec.encode q) = Comparator.contains := by
  obtain ⟨x, y, rfl⟩ := h
  rw [encode_endsWith]
  have hline : '\n' ∉ ['[', '.', '*'] ++ (x ++ ['.', '*', ']'] ++ y) ++ ['$', ']'] := by simp_all
  have hother : hasBrackets ['[', '.', '*'] ['.', '*', ']']
      (['[', '.', '*'] ++ (x ++ ['.', '*', ']'] ++ y) ++ ['$', ']']) = true :=
    (hasBrackets_iff hline).mpr ⟨[], x ++ ['.', '*', ']'] ++ y ++ ['$', ']'], by simp,
      ⟨x, y ++ ['$', ']'], by simp⟩⟩
  rw [ofSharedName, if_pos hother]

/-- Without one the brackets tell: the closing that the value might form with the opening overlaps
it. -/
theorem ofSharedName_endsWith_iff (hq : '\n' ∉ q) :
    ofSharedName (endsWith.codec.encode q) = endsWith ↔ ¬ ['.', '*', ']'] <:+: q := by
  have hclosing : ['.', '*', ']'] <:+: q ++ ['$', ']'] → ['.', '*', ']'] <:+: q := by
    intro hin
    rw [Text.infix_append_cons_iff (by decide)] at hin
    exact hin.resolve_right (by decide)
  constructor
  · intro h hin
    exact contains_ne_endsWith ((ofSharedName_endsWith_eq_contains hq hin).symm.trans h)
  · intro h
    rw [encode_endsWith]
    have hline : '\n' ∉ ['[', '.', '*'] ++ q ++ ['$', ']'] := by simp [hq]
    have hown : hasBrackets ['['] ['$', ']'] (['[', '.', '*'] ++ q ++ ['$', ']']) = true :=
      (hasBrackets_iff hline).mpr ⟨[], ['.', '*'] ++ q ++ ['$', ']'], by simp,
        List.infix_append_right⟩
    have hcontains : ¬ hasBrackets ['[', '.', '*'] ['.', '*', ']']
        (['[', '.', '*'] ++ q ++ ['$', ']']) = true := by
      intro hb
      exact h (hclosing (infix_of_hasBrackets hline hb).2)
    have hstarts : ¬ hasBrackets ['[', '^'] ['.', '*', ']']
        (['[', '.', '*'] ++ q ++ ['$', ']']) = true := by
      intro hb
      have hin : ['.', '*', ']'] <:+: '*' :: (q ++ ['$', ']']) := (infix_of_hasBrackets hline hb).2
      rcases List.infix_cons_iff.mp hin with hhead | hin
      · simp at hhead
      · exact h (hclosing hin)
    rw [ofSharedName, if_neg hcontains, if_neg hstarts, if_pos hown]

end OneLine

end Comparator

end FilterWire
