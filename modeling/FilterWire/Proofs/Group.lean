import FilterWire.Group
import FilterWire.Proofs.Text.Occurrence

/-!
# Balanced texts

Inside parentheses a balanced text is read back whole, whatever follows.
The depth counter reaches zero at the last parenthesis and not before.
-/

namespace FilterWire.Group

/-- No parenthesis closes before it opens, and all that open close. -/
structure Balanced (t : Text) : Prop where
  closed_le : ∀ p, p <+: t → p.count ')' ≤ p.count '('
  closed_eq : t.count ')' = t.count '('

theorem balanced_iff {t : Text} :
    Balanced t ↔ (∀ p ∈ t.inits, p.count ')' ≤ p.count '(') ∧ t.count ')' = t.count '(' := by
  constructor
  · rintro ⟨hle, heq⟩
    exact ⟨fun p hp => hle p ((List.mem_inits p t).mp hp), heq⟩
  · rintro ⟨hle, heq⟩
    exact ⟨fun p hp => hle p ((List.mem_inits p t).mpr hp), heq⟩

instance (t : Text) : Decidable (Balanced t) :=
  decidable_of_iff' _ balanced_iff

namespace Balanced

theorem of_notMem {t : Text} (hopen : '(' ∉ t) (hclose : ')' ∉ t) : Balanced t := by
  have hzero : ∀ p : Text, p <+: t → p.count ')' = 0 :=
    fun p hp => List.count_eq_zero.mpr fun h => hclose (hp.subset h)
  refine ⟨fun p hp => ?_, ?_⟩
  · simp [hzero p hp]
  · rw [hzero t List.prefix_rfl, List.count_eq_zero.mpr hopen]

theorem append {s t : Text} (hs : Balanced s) (ht : Balanced t) : Balanced (s ++ t) := by
  refine ⟨fun p hp => ?_, ?_⟩
  · rcases Text.prefix_append_cases hp with hp | ⟨q, rfl, hq⟩
    · exact hs.closed_le p hp
    · have hle := ht.closed_le q hq
      have heq := hs.closed_eq
      simp only [List.count_append]
      omega
  · simp only [List.count_append, hs.closed_eq, ht.closed_eq]

/-- Parentheses around a balanced text. -/
theorem parenthesized {t : Text} (ht : Balanced t) : Balanced ('(' :: t ++ [')']) := by
  refine ⟨fun p hp => ?_, ?_⟩
  · rcases Text.prefix_append_cases hp with hp | ⟨q, rfl, hq⟩
    · rcases List.prefix_cons_iff.mp hp with rfl | ⟨q, rfl, hq⟩
      · simp
      · have hle := ht.closed_le q hq
        simp only [List.count_cons]
        simp
        omega
    · have hle : q.count ')' ≤ 1 := by simpa using hq.sublist.count_le ')'
      have heq := ht.closed_eq
      simp only [List.cons_append, List.count_cons, List.count_append]
      simp
      omega
  · have heq := ht.closed_eq
    simp [heq]

theorem intercalate {sep : Text} {ts : List Text} (hsep : Balanced sep)
    (hts : ∀ t ∈ ts, Balanced t) : Balanced (sep.intercalate ts) := by
  induction ts with
  | nil => exact of_notMem (by simp) (by simp)
  | cons t ts ih =>
      have ht := hts t List.mem_cons_self
      have hrest := ih fun s hs => hts s (List.mem_cons_of_mem t hs)
      cases ts with
      | nil => simpa using ht
      | cons s ts =>
          rw [List.intercalate_cons_cons]
          exact (ht.append hsep).append hrest

end Balanced

section Depth

variable (depth : Nat) (inner r : Text)

theorem closeFrom_open : closeFrom depth inner ('(' :: r) =
    closeFrom (depth + 1) ('(' :: inner) r := by
  simp [closeFrom]

theorem closeFrom_close : closeFrom (depth + 1) inner (')' :: r) =
    closeFrom depth (')' :: inner) r := by
  simp [closeFrom]

theorem closeFrom_end : closeFrom 0 inner (')' :: r) = some inner.reverse := by
  simp [closeFrom]

theorem closeFrom_other {c : Char} (hopen : c ≠ '(') (hclose : c ≠ ')') :
    closeFrom depth inner (c :: r) = closeFrom depth (c :: inner) r := by
  cases depth <;> simp [closeFrom, hopen, hclose]

end Depth

/-- A text that never closes more groups than are open is passed, and the depth afterwards
counts those it leaves open. -/
theorem closeFrom_append {depth : Nat} {inner t r : Text}
    (h : ∀ p, p <+: t → p.count ')' ≤ p.count '(' + depth) :
    closeFrom depth inner (t ++ r) =
      closeFrom (depth + t.count '(' - t.count ')') (t.reverse ++ inner) r := by
  induction t generalizing depth inner with
  | nil => simp
  | cons c t ih =>
      have hcons : ∀ p, p <+: t → (c :: p).count ')' ≤ (c :: p).count '(' + depth :=
        fun p hp => h (c :: p) (List.cons_prefix_cons.mpr ⟨rfl, hp⟩)
      rw [List.cons_append]
      by_cases hopen : c = '('
      · subst hopen
        have htail : ∀ p, p <+: t → p.count ')' ≤ p.count '(' + (depth + 1) := by
          intro p hp
          have hcount := hcons p hp
          simp only [List.count_cons_self,
            List.count_cons_of_ne (show '(' ≠ ')' by decide)] at hcount
          omega
        rw [closeFrom_open, ih htail]
        simp [Nat.add_assoc, Nat.add_comm 1]
      · by_cases hclose : c = ')'
        · subst hclose
          have hpos := hcons [] List.nil_prefix
          obtain ⟨d, rfl⟩ : ∃ d, depth = d + 1 := ⟨depth - 1, by simp at hpos; omega⟩
          have htail : ∀ p, p <+: t → p.count ')' ≤ p.count '(' + d := by
            intro p hp
            have hcount := hcons p hp
            simp only [List.count_cons_self,
              List.count_cons_of_ne (show ')' ≠ '(' by decide)] at hcount
            omega
          have hdepth : d + 1 + (')' :: t).count '(' - (')' :: t).count ')' =
              d + t.count '(' - t.count ')' := by
            simp only [List.count_cons_self, List.count_cons_of_ne (show ')' ≠ '(' by decide)]
            omega
          rw [closeFrom_close, ih htail, hdepth]
          simp
        · have htail : ∀ p, p <+: t → p.count ')' ≤ p.count '(' + depth := by
            intro p hp
            simpa [hopen, hclose] using hcons p hp
          rw [closeFrom_other depth inner _ hopen hclose, ih htail]
          simp [hopen, hclose]

theorem closeFrom_balanced {t r : Text} (ht : Balanced t) :
    closeFrom 0 [] (t ++ ')' :: r) = some t := by
  rw [closeFrom_append (by simpa using ht.closed_le), ht.closed_eq, Nat.zero_add, Nat.sub_self,
    closeFrom_end]
  simp

/-! ## Where the inside of a group lies -/

theorem prefix_of_closeFrom {depth : Nat} {inner t r : Text}
    (h : closeFrom depth inner t = some r) : r <+: inner.reverse ++ t := by
  induction t generalizing depth inner with
  | nil => cases h
  | cons c t ih =>
      have hpassed : ∀ {depth : Nat}, closeFrom depth (c :: inner) t = some r →
          r <+: inner.reverse ++ c :: t := by
        intro depth h
        simpa using ih h
      by_cases hopen : c = '('
      · subst hopen
        rw [closeFrom_open] at h
        exact hpassed h
      · by_cases hclose : c = ')'
        · subst hclose
          cases depth with
          | zero =>
              rw [closeFrom_end] at h
              obtain rfl := Option.some.inj h
              exact List.prefix_append _ _
          | succ depth =>
              rw [closeFrom_close] at h
              exact hpassed h
        · rw [closeFrom_other depth inner t hopen hclose] at h
          exact hpassed h

theorem suffix_of_open? {start pos : Nat} {t r : Text} (h : open? start t = some (pos, r)) :
    r <:+ t := by
  rw [open?, List.span_eq_takeWhile_dropWhile] at h
  cases hdrop : (t.drop start).dropWhile (· ≠ '(') with
  | nil =>
      rw [hdrop] at h
      cases h
  | cons c r' =>
      rw [hdrop] at h
      obtain rfl : r' = r := (Prod.mk.inj (Option.some.inj h)).2
      have htail : r' <:+ (t.drop start).dropWhile (· ≠ '(') := hdrop ▸ List.suffix_cons c r'
      exact (htail.trans (List.dropWhile_suffix _)).trans (List.drop_suffix start t)

theorem infix_of_inside {start : Int} {t r : Text} (h : inside start t = .ok r) : r <:+: t := by
  rw [inside, insideFrom] at h
  split at h
  case h_1 => cases h
  case h_2 pos rest hopen =>
      split at h
      case h_1 inner hclose =>
          obtain rfl := Except.ok.inj h
          have hprefix : inner <+: rest := prefix_of_closeFrom hclose
          exact hprefix.isInfix.trans (suffix_of_open? hopen).isInfix
      case h_2 => cases h

/-- The group that starts a text is found whole. -/
theorem inside_parenthesized {t r : Text} (ht : Balanced t) :
    inside 0 ('(' :: t ++ ')' :: r) = .ok t := by
  have hopen : open? 0 ('(' :: t ++ ')' :: r) = some (0, t ++ ')' :: r) := by
    simp [open?]
  have hzero : position 0 ('(' :: t ++ ')' :: r) = 0 := rfl
  rw [inside, insideFrom, hzero, hopen]
  simp only [closeFrom_balanced ht]

end FilterWire.Group
