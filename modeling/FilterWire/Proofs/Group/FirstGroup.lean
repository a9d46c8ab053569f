import FilterWire.Proofs.Group
import Mathlib.Data.List.TakeWhile

/-!
# The first group of a text

The inside of the first group from a position on is the one balanced text
between parentheses there. There is an error exactly if no such group can be
found, and a negative position counts from the end.
-/

namespace FilterWire

/-- The errors about groups that do not open or do not close. -/
def CodecError.isUnbalanced : CodecError → Bool
  | noOpening .. | unclosed .. => true
  | malformed _ | unknown .. => false

namespace Group

/-! ## Up to the closing parenthesis -/

/-- A text that ends where `depth` open groups are closed, apart from those that it opens itself. -/
structure Closes (depth : Nat) (t : Text) : Prop where
  closed_le : ∀ p, p <+: t → p.count ')' ≤ p.count '(' + depth
  closed_eq : t.count ')' = t.count '(' + depth

theorem balanced_iff_closes {t : Text} : Balanced t ↔ Closes 0 t :=
  ⟨fun h => ⟨h.closed_le, h.closed_eq⟩, fun h => ⟨h.closed_le, h.closed_eq⟩⟩

namespace Closes

variable {depth : Nat} {t : Text}

theorem nil : Closes 0 [] :=
  ⟨fun p hp => by simp [List.prefix_nil.mp hp], rfl⟩

theorem cons_open (h : Closes (depth + 1) t) : Closes depth ('(' :: t) := by
  refine ⟨fun p hp => ?_, ?_⟩
  · rcases List.prefix_cons_iff.mp hp with rfl | ⟨q, rfl, hq⟩
    · simp
    · have hle := h.closed_le q hq
      simp only [List.count_cons_self, List.count_cons_of_ne (show '(' ≠ ')' by decide)]
      omega
  · have heq := h.closed_eq
    simp only [List.count_cons_self, List.count_cons_of_ne (show '(' ≠ ')' by decide)]
    omega

theorem cons_close (h : Closes depth t) : Closes (depth + 1) (')' :: t) := by
  refine ⟨fun p hp => ?_, ?_⟩
  · rcases List.prefix_cons_iff.mp hp with rfl | ⟨q, rfl, hq⟩
    · simp
    · have hle := h.closed_le q hq
      simp only [List.count_cons_self, List.count_cons_of_ne (show ')' ≠ '(' by decide)]
      omega
  · have heq := h.closed_eq
    simp only [List.count_cons_self, List.count_cons_of_ne (show ')' ≠ '(' by decide)]
    omega

theorem cons_other {c : Char} (hopen : c ≠ '(') (hclose : c ≠ ')') (h : Closes depth t) :
    Closes depth (c :: t) := by
  refine ⟨fun p hp => ?_, ?_⟩
  · rcases List.prefix_cons_iff.mp hp with rfl | ⟨q, rfl, hq⟩
    · simp
    · simpa [hopen, hclose] using h.closed_le q hq
  · simpa [hopen, hclose] using h.closed_eq

end Closes

/-- What is passed up to the closing parenthesis closes the groups that are open. -/
theorem exists_closes_of_closeFrom {depth : Nat} {inner t r : Text}
    (h : closeFrom depth inner t = some r) :
    ∃ s post, t = s ++ ')' :: post ∧ r = inner.reverse ++ s ∧ Closes depth s := by
  induction t generalizing depth inner with
  | nil => cases h
  | cons c t ih =>
      by_cases hopen : c = '('
      · subst hopen
        rw [closeFrom_open] at h
        obtain ⟨s, post, rfl, rfl, hs⟩ := ih h
        exact ⟨'(' :: s, post, rfl, by simp, hs.cons_open⟩
      · by_cases hclose : c = ')'
        · subst hclose
          cases depth with
          | zero =>
              rw [closeFrom_end] at h
              exact ⟨[], t, rfl, by simpa using h.symm, Closes.nil⟩
          | succ depth =>
              rw [closeFrom_close] at h
              obtain ⟨s, post, rfl, rfl, hs⟩ := ih h
              exact ⟨')' :: s, post, rfl, by simp, hs.cons_close⟩
        · rw [closeFrom_other depth inner t hopen hclose] at h
          obtain ⟨s, post, rfl, rfl, hs⟩ := ih h
          exact ⟨c :: s, post, rfl, by simp, hs.cons_other hopen hclose⟩

theorem closeFrom_eq_some_iff {t r : Text} :
    closeFrom 0 [] t = some r ↔ ∃ post, t = r ++ ')' :: post ∧ Balanced r := by
  constructor
  · intro h
    obtain ⟨s, post, rfl, rfl, hs⟩ := exists_closes_of_closeFrom h
    exact ⟨post, rfl, balanced_iff_closes.mpr hs⟩
  · rintro ⟨post, rfl, hr⟩
    exact closeFrom_balanced hr

/-! ## From the opening parenthesis -/

theorem open?_eq_some_iff {start pos : Nat} {t r : Text} :
    open? start t = some (pos, r) ↔
      ∃ pre, t = pre ++ '(' :: r ∧ start ≤ pre.length ∧ '(' ∉ pre.drop start ∧
        pos = pre.length := by
  rw [open?, List.span_eq_takeWhile_dropWhile]
  constructor
  · intro h
    have hsplit := List.takeWhile_append_dropWhile (p := (· ≠ '(')) (l := t.drop start)
    have hhead := List.head?_dropWhile_not (· ≠ '(') (t.drop start)
    cases hdrop : (t.drop start).dropWhile (· ≠ '(') with
    | nil =>
        rw [hdrop] at h
        cases h
    | cons c r' =>
        rw [hdrop] at h hsplit hhead
        obtain ⟨rfl, rfl⟩ := Prod.mk.inj (Option.some.inj h)
        obtain rfl : c = '(' := by simpa using hhead
        have hlen : start ≤ t.length := by
          by_contra hlong
          rw [List.drop_eq_nil_of_le (Nat.le_of_not_le hlong)] at hdrop
          cases hdrop
        have htake : (t.take start).length = start := List.length_take_of_le hlen
        refine ⟨t.take start ++ (t.drop start).takeWhile (· ≠ '('), ?_, ?_, ?_, ?_⟩
        · rw [List.append_assoc, hsplit, List.take_append_drop]
        · rw [List.length_append, htake]
          exact Nat.le_add_right _ _
        · rw [List.drop_left' htake]
          intro hmem
          simpa using List.mem_takeWhile_imp hmem
        · rw [List.length_append, htake]
  · rintro ⟨pre, rfl, hlen, hpre, rfl⟩
    have hall : ∀ c ∈ pre.drop start, decide (c ≠ '(') = true :=
      fun c hc => decide_eq_true fun heq => hpre (heq ▸ hc)
    rw [List.drop_append_of_le_length hlen, List.takeWhile_append_of_pos hall,
      List.dropWhile_append_of_pos hall]
    simp
    omega

/-- `pre`, a balanced text in parentheses and `post` make up a text, and no group opens between the
position `start` and this one. -/
structure FirstGroup (start : Nat) (t pre r post : Text) : Prop where
  text : t = pre ++ '(' :: r ++ ')' :: post
  start_le : start ≤ pre.length
  notOpen : '(' ∉ pre.drop start
  balanced : Balanced r

theorem FirstGroup.unique {start : Nat} {t pre r post pre' r' post' : Text}
    (h : FirstGroup start t pre r post) (h' : FirstGroup start t pre' r' post') :
    pre = pre' ∧ r = r' ∧ post = post' := by
  have hopen : open? start t = some (pre.length, r ++ ')' :: post) :=
    open?_eq_some_iff.mpr ⟨pre, by simp [h.text], h.start_le, h.notOpen, rfl⟩
  have hopen' : open? start t = some (pre'.length, r' ++ ')' :: post') :=
    open?_eq_some_iff.mpr ⟨pre', by simp [h'.text], h'.start_le, h'.notOpen, rfl⟩
  obtain ⟨hpre, hrest⟩ := Prod.mk.inj (Option.some.inj (hopen.symm.trans hopen'))
  have hclose := closeFrom_balanced (r := post) h.balanced
  rw [hrest, closeFrom_balanced h'.balanced] at hclose
  obtain rfl := Option.some.inj hclose
  have htext := h.text.symm.trans h'.text
  rw [List.append_assoc, List.append_assoc] at htext
  exact ⟨(List.append_inj htext hpre).1, rfl, (List.cons.inj (List.append_cancel_left hrest)).2⟩

theorem position_natCast (start : Nat) (t : Text) : position start t = start := by
  rw [position, if_neg (by omega), Int.toNat_natCast]

theorem inside_eq_ok_iff {start : Nat} {t r : Text} :
    inside start t = .ok r ↔ ∃ pre post, FirstGroup start t pre r post := by
  rw [inside, insideFrom, position_natCast]
  constructor
  · intro h
    split at h
    case h_1 => cases h
    case h_2 pos rest hopen =>
        split at h
        case h_1 inner hclose =>
            obtain rfl := Except.ok.inj h
            obtain ⟨pre, htext, hlen, hpre, -⟩ := open?_eq_some_iff.mp hopen
            obtain ⟨post, rfl, hinner⟩ := closeFrom_eq_some_iff.mp hclose
            exact ⟨pre, post, by simpa using htext, hlen, hpre, hinner⟩
        case h_2 => cases h
  · rintro ⟨pre, post, htext, hlen, hpre, hr⟩
    have hopen : open? start t = some (pre.length, r ++ ')' :: post) :=
      open?_eq_some_iff.mpr ⟨pre, by simpa using htext, hlen, hpre, rfl⟩
    rw [hopen]
    simp only [closeFrom_balanced hr]

/-! ## Outcomes -/

theorem isUnbalanced_of_inside {start : Int} {t : Text} {e : CodecError}
    (h : inside start t = .error e) : e.isUnbalanced = true := by
  rw [inside, insideFrom] at h
  split at h
  case h_1 =>
      obtain rfl := Except.error.inj h
      rfl
  case h_2 pos rest hopen =>
      split at h
      case h_1 => cases h
      case h_2 =>
          obtain rfl := Except.error.inj h
          rfl

/-- Apart from the position that an error shows, only the place counts that a position names. -/
theorem mapError_inside_congr {start start' : Int} {t : Text}
    (h : position start t = position start' t) :
    (inside start t).mapError CodecError.isUnbalanced =
      (inside start' t).mapError CodecError.isUnbalanced := by
  rw [inside, inside, insideFrom, insideFrom, h]
  cases open? (position start' t) t <;> rfl

/-- From a position on, the inside of the first group is found, which can be reached in one way
only, and there is an error about unbalanced parentheses if there is no such group. A negative
position has the outcome of the one that it counts to. -/
theorem inside_first_group (t : Text) :
    (∀ start : Nat,
      (∀ r, inside start t = .ok r ↔ ∃ pre post, FirstGroup start t pre r post) ∧
      (∀ pre r post pre' r' post', FirstGroup start t pre r post →
        FirstGroup start t pre' r' post' → pre = pre' ∧ r = r' ∧ post = post') ∧
      ((∃ e, inside start t = .error e ∧ e.isUnbalanced = true) ↔
        ¬ ∃ pre r post, FirstGroup start t pre r post)) ∧
    ∀ start : Int, start < 0 →
      (inside start t).mapError CodecError.isUnbalanced =
        (inside (max 0 (t.length + start)) t).mapError CodecError.isUnbalanced := by
  constructor
  · intro start
    refine ⟨fun r => inside_eq_ok_iff, fun _ _ _ _ _ _ h h' => h.unique h', ?_⟩
    constructor
    · rintro ⟨e, he, -⟩ ⟨pre, r, post, h⟩
      rw [inside_eq_ok_iff.mpr ⟨pre, post, h⟩] at he
      cases he
    · intro hnone
      cases h : inside start t with
      | error e => exact ⟨e, rfl, isUnbalanced_of_inside h⟩
      | ok r =>
          obtain ⟨pre, post, hfirst⟩ := inside_eq_ok_iff.mp h
          exact absurd ⟨pre, r, post, hfirst⟩ hnone
  · intro start hstart
    apply mapError_inside_congr
    rw [position, if_pos hstart, position, if_neg (by omega)]
    omega

/-- Counted from the end, behind a group and at one with a group inside it. -/
theorem inside_first_group_of_nested :
    inside (-9) "(a)(b (c)) )".toList = .ok "b (c)".toList := by
  obtain ⟨hforward, hbackward⟩ := inside_first_group "(a)(b (c)) )".toList
  have hfirst : FirstGroup 3 "(a)(b (c)) )".toList "(a)".toList "b (c)".toList " )".toList :=
    ⟨rfl, by decide, by decide, by decide⟩
  have hinside : inside (3 : Nat) "(a)(b (c)) )".toList = .ok "b (c)".toList :=
    ((hforward 3).1 _).mpr ⟨_, _, hfirst⟩
  have hsame := hbackward (-9) (by decide)
  have hplace : max 0 (("(a)(b (c)) )".toList.length : Int) + -9) = (3 : Nat) := by decide
  rw [hplace, hinside] at hsame
  cases h : inside (-9) "(a)(b (c)) )".toList with
  | error e =>
      rw [h] at hsame
      cases hsame
  | ok r =>
      rw [h] at hsame
      rw [Except.ok.inj hsame]

end Group

end FilterWire
