import FilterWire.Call
import FilterWire.Proofs.Text.Occurrence
import Mathlib.Data.List.TakeDrop
import Mathlib.Data.List.TakeWhile

/-!
# Reading calls

A call that is found is well formed and stands in the text, and the
written form of a well-formed call is read back. With an empty value the
written form holds no call at all.
-/

namespace FilterWire

theorem isBlank_of_isWordChar {c : Char} (h : isWordChar c = true) : isBlank c = false := by
  simp only [isWordChar, decide_eq_true_eq, Char.le_def, Char.ext_iff, UInt32.le_iff_toNat_le,
    ← UInt32.toNat_inj] at h
  simp only [isBlank, inRanges, blankRanges, Char.toNat]
  simp at h ⊢
  omega

/-- Letters, digits and underscores, at least one. -/
def IsWord (w : Text) : Prop :=
  w ≠ [] ∧ ∀ c ∈ w, isWordChar c = true

instance (w : Text) : Decidable (IsWord w) :=
  decidable_of_iff (w ≠ [] ∧ w.all isWordChar = true) (by rw [IsWord, List.all_eq_true])

/-- A word in square brackets. -/
def IsReference (f : Text) : Prop :=
  ∃ w, IsWord w ∧ f = '[' :: w ++ [']']

theorem IsWord.notMem {w : Text} {c : Char} (hw : IsWord w) (hc : isWordChar c = false) :
    c ∉ w := by
  intro hmem
  simp [hw.2 c hmem] at hc

theorem IsReference.notMem {f : Text} {c : Char} (hf : IsReference f) (hc : isWordChar c = false)
    (hopen : c ≠ '[') (hclose : c ≠ ']') : c ∉ f := by
  obtain ⟨w, hw, rfl⟩ := hf
  simp [hopen, hclose, hw.notMem hc]

theorem IsWord.blankless {w : Text} (hw : IsWord w) : ∀ c ∈ w, isBlank c = false :=
  fun c hc => isBlank_of_isWordChar (hw.2 c hc)

theorem IsReference.blankless {f : Text} (hf : IsReference f) : ∀ c ∈ f, isBlank c = false := by
  obtain ⟨w, hw, rfl⟩ := hf
  intro c hc
  rcases List.mem_append.mp hc with hc | hc
  · rcases List.mem_cons.mp hc with rfl | hc
    · decide
    · exact hw.blankless c hc
  · rw [List.mem_singleton.mp hc]
    decide

namespace Call

structure WellFormed (call : Call) : Prop where
  name : IsWord call.name
  field : IsReference call.field
  value_ne_nil : call.value ≠ []
  value_oneLine : '\n' ∉ call.value

/-! ## The pieces of a call -/

theorem word?_eq_some_iff {t w r : Text} :
    word? t = some (w, r) ↔ IsWord w ∧ t = w ++ r ∧ ∀ c ∈ r.head?, isWordChar c = false := by
  rw [word?, List.span_eq_takeWhile_dropWhile]
  constructor
  · intro h
    have hw : t.takeWhile isWordChar = w ∧ t.dropWhile isWordChar = r ∧ w ≠ [] := by
      cases hs : t.takeWhile isWordChar with
      | nil => simp [hs] at h
      | cons c w' =>
          rw [hs] at h
          obtain ⟨rfl, rfl⟩ := Prod.mk.inj (Option.some.inj h)
          exact ⟨rfl, rfl, List.cons_ne_nil c w'⟩
    obtain ⟨rfl, rfl, hne⟩ := hw
    refine ⟨⟨hne, fun c hc => List.mem_takeWhile_imp hc⟩,
      List.takeWhile_append_dropWhile.symm, fun c hc => ?_⟩
    have hhead := List.head?_dropWhile_not isWordChar t
    rw [Option.mem_def.mp hc] at hhead
    simpa using hhead
  · rintro ⟨⟨hne, hw⟩, rfl, hr⟩
    have hrest : r.takeWhile isWordChar = [] ∧ r.dropWhile isWordChar = r := by
      cases r with
      | nil => simp
      | cons c r => simp [hr c rfl]
    rw [List.takeWhile_append_of_pos hw, List.dropWhile_append_of_pos hw, hrest.1, hrest.2,
      List.append_nil]
    cases w with
    | nil => exact absurd rfl hne
    | cons c w => rfl

theorem word?_append {w r : Text} {c : Char} (hw : IsWord w) (hc : isWordChar c = false) :
    word? (w ++ c :: r) = some (w, c :: r) :=
  word?_eq_some_iff.mpr ⟨hw, rfl, by simpa using hc⟩

theorem afterBlank?_eq_some_iff {t r : Text} :
    afterBlank? t = some r ↔ ∃ b, isBlank b = true ∧ t = b :: r := by
  cases t with
  | nil => simp [afterBlank?]
  | cons c t =>
      by_cases hc : isBlank c
      · simp [afterBlank?, hc]
      · simp [afterBlank?, hc]

theorem takeWhile_line {v : Text} (post : Text) (hv : '\n' ∉ v) :
    (v ++ ')' :: post).takeWhile (· ≠ '\n') = v ++ ')' :: post.takeWhile (· ≠ '\n') := by
  have hall : ∀ c ∈ v, decide (c ≠ '\n') = true := by
    intro c hc
    simpa using ne_of_mem_of_not_mem hc hv
  rw [List.takeWhile_append_of_pos hall, List.takeWhile_cons_of_pos (by decide)]

/-- The value reaches to the last closing parenthesis of its line. -/
theorem value?_eq_some_iff {t v : Text} :
    value? t = some v ↔ v ≠ [] ∧ '\n' ∉ v ∧
      ∃ post, t = v ++ ')' :: post ∧ ')' ∉ post.takeWhile (· ≠ '\n') := by
  constructor
  · intro h
    have hreverse := List.takeWhile_append_dropWhile (p := (· ≠ ')'))
      (l := (t.takeWhile (· ≠ '\n')).reverse)
    have hhead := List.head?_dropWhile_not (· ≠ ')') (t.takeWhile (· ≠ '\n')).reverse
    rw [value?] at h
    split at h
    case h_1 d c r hdrop =>
        obtain rfl := Option.some.inj h
        rw [hdrop] at hreverse hhead
        obtain rfl : d = ')' := by simpa using hhead
        generalize htail : (t.takeWhile (· ≠ '\n')).reverse.takeWhile (· ≠ ')') = tail at hreverse
        have hline : t.takeWhile (· ≠ '\n') = (c :: r).reverse ++ ')' :: tail.reverse := by
          simpa using (congrArg List.reverse hreverse).symm
        have htext : t = (c :: r).reverse ++ ')' :: (tail.reverse ++ t.dropWhile (· ≠ '\n')) := by
          calc
            t = t.takeWhile (· ≠ '\n') ++ t.dropWhile (· ≠ '\n') :=
              List.takeWhile_append_dropWhile.symm
            _ = _ := by rw [hline, List.append_assoc, List.cons_append]
        have hv : '\n' ∉ (c :: r).reverse := by
          intro hmem
          have hin : '\n' ∈ t.takeWhile (· ≠ '\n') := hline ▸ List.mem_append_left _ hmem
          simpa using List.mem_takeWhile_imp hin
        have hpost : (tail.reverse ++ t.dropWhile (· ≠ '\n')).takeWhile (· ≠ '\n') =
            tail.reverse := by
          have hagain := takeWhile_line (tail.reverse ++ t.dropWhile (· ≠ '\n')) hv
          rw [← htext, hline] at hagain
          exact (List.cons.inj (List.append_cancel_left hagain)).2.symm
        refine ⟨by simp, hv, _, htext, ?_⟩
        rw [hpost, List.mem_reverse, ← htail]
        intro hmem
        simpa using List.mem_takeWhile_imp hmem
    case h_2 => cases h
  · rintro ⟨hne, hv, post, rfl, hpost⟩
    have hall : ∀ c ∈ (post.takeWhile (· ≠ '\n')).reverse, decide (c ≠ ')') = true := by
      intro c hc
      simpa using ne_of_mem_of_not_mem (List.mem_reverse.mp hc) hpost
    have hdrop : ((v ++ ')' :: post).takeWhile (· ≠ '\n')).reverse.dropWhile (· ≠ ')') =
        ')' :: v.reverse := by
      rw [takeWhile_line post hv, List.reverse_append, List.reverse_cons, List.append_assoc,
        List.dropWhile_append_of_pos hall]
      simp
    obtain ⟨c, r, hvr⟩ := List.exists_cons_of_ne_nil (List.reverse_ne_nil_iff.mpr hne)
    rw [value?, hdrop, hvr]
    simp [← hvr]

/-! ## Calls in a text -/

theorem value?_close {v : Text} (hv : '\n' ∉ v) :
    value? (v ++ [')']) = if v = [] then none else some v := by
  by_cases h : v = []
  · subst h
    rfl
  · rw [if_neg h]
    exact value?_eq_some_iff.mpr ⟨h, hv, [], rfl, by simp⟩

theorem atHead?_append {name w r : Text} {b : Char} (hname : IsWord name) (hw : IsWord w)
    (hb : isBlank b = true) :
    atHead? (name ++ '(' :: ('[' :: w ++ [']']) ++ ',' :: b :: r) =
      (value? r).map fun v => ⟨name, '[' :: w ++ [']'], v⟩ := by
  have htext : name ++ '(' :: ('[' :: w ++ [']']) ++ ',' :: b :: r =
      name ++ '(' :: '[' :: (w ++ ']' :: ',' :: b :: r) := by simp
  have hword : word? (w ++ ']' :: ',' :: b :: r) = some (w, ']' :: ',' :: b :: r) :=
    word?_append hw (by decide)
  have hopen : Text.after? ['(', '['] ('(' :: '[' :: (w ++ ']' :: ',' :: b :: r)) =
      some (w ++ ']' :: ',' :: b :: r) := Text.after?_eq_some_iff.mpr rfl
  have hclose : Text.after? [']', ','] (']' :: ',' :: b :: r) = some (b :: r) :=
    Text.after?_eq_some_iff.mpr rfl
  have hblank : afterBlank? (b :: r) = some r := afterBlank?_eq_some_iff.mpr ⟨b, hb, rfl⟩
  rw [htext, atHead?, word?_append hname (by decide)]
  simp only [Option.bind_eq_bind, Option.bind_some, hopen, hword, hclose, hblank]
  cases value? r <;> rfl

theorem atHead?_eq_some_iff {t : Text} {call : Call} :
    atHead? t = some call ↔ call.WellFormed ∧ ∃ b post, isBlank b = true ∧
      t = call.name ++ '(' :: call.field ++ ',' :: b :: (call.value ++ ')' :: post) ∧
      ')' ∉ post.takeWhile (· ≠ '\n') := by
  constructor
  · intro h
    simp only [atHead?, Option.bind_eq_bind, Option.bind_eq_some_iff] at h
    obtain ⟨⟨name, t₁⟩, h₁, t₂, h₂, ⟨w, t₃⟩, h₃, t₄, h₄, t₅, h₅, v, h₆, h₇⟩ := h
    obtain ⟨hname, rfl, -⟩ := word?_eq_some_iff.mp h₁
    obtain rfl := Text.after?_eq_some_iff.mp h₂
    obtain ⟨hw, rfl, -⟩ := word?_eq_some_iff.mp h₃
    obtain rfl := Text.after?_eq_some_iff.mp h₄
    obtain ⟨b, hb, rfl⟩ := afterBlank?_eq_some_iff.mp h₅
    obtain ⟨hne, hv, post, rfl, hpost⟩ := value?_eq_some_iff.mp h₆
    obtain rfl := Option.some.inj h₇
    exact ⟨⟨hname, ⟨w, hw, rfl⟩, hne, hv⟩, b, post, hb, by simp, hpost⟩
  · rintro ⟨⟨hname, ⟨w, hw, hfield⟩, hne, hv⟩, b, post, hb, rfl, hpost⟩
    rw [hfield, atHead?_append hname hw hb,
      value?_eq_some_iff.mpr ⟨hne, hv, post, rfl, hpost⟩, Option.map_some, ← hfield]

theorem atHead?_of_other {c : Char} {r : Text} (hc : isWordChar c = false) :
    atHead? (c :: r) = none := by
  cases h : atHead? (c :: r) with
  | none => rfl
  | some call =>
      obtain ⟨hcall, b, post, -, htext, -⟩ := atHead?_eq_some_iff.mp h
      obtain ⟨d, name, hname⟩ := List.exists_cons_of_ne_nil hcall.name.1
      have hd := hcall.name.2 d (hname ▸ List.mem_cons_self)
      rw [hname] at htext
      obtain rfl : c = d := (List.cons.inj htext).1
      simp [hc] at hd

/-- Whether a word goes on after a text, if `inWord` tells so for its beginning. -/
def wordGoesOn (inWord : Bool) : Text → Bool
  | [] => inWord
  | c :: r => wordGoesOn (isWordChar c) r

/-- A call is tried where no word goes on; a character outside words starts none. -/
theorem findFrom_cons (inWord : Bool) (c : Char) (r : Text) :
    findFrom inWord (c :: r) =
      (if inWord then none else atHead? (c :: r)).or (findFrom (isWordChar c) r) := by
  rw [findFrom]
  by_cases hc : isWordChar c = true
  · rw [if_pos hc, hc]
    cases inWord with
    | true => rfl
    | false => cases atHead? (c :: r) <;> rfl
  · have hother : isWordChar c = false := by simpa using hc
    rw [if_neg hc, hother, atHead?_of_other hother]
    cases inWord <;> rfl

/-- The call that is found starts where no word goes on, and no call starts before it. -/
theorem first_of_findFrom {t : Text} {inWord : Bool} {call : Call}
    (h : findFrom inWord t = some call) :
    ∃ pre r, t = pre ++ r ∧ wordGoesOn inWord pre = false ∧ atHead? r = some call ∧
      ∀ pre' r', t = pre' ++ r' → wordGoesOn inWord pre' = false → (atHead? r').isSome →
        pre.length ≤ pre'.length := by
  induction t generalizing inWord with
  | nil => cases h
  | cons c r ih =>
      rw [findFrom_cons] at h
      rcases Option.or_eq_some_iff.mp h with hhead | ⟨hhead, hrest⟩
      · split at hhead
        · cases hhead
        · exact ⟨[], c :: r, rfl, by simpa [wordGoesOn] using ‹¬ inWord = true›, hhead,
            fun _ _ _ _ _ => Nat.zero_le _⟩
      · obtain ⟨pre, s, rfl, hpre, hs, hfirst⟩ := ih hrest
        refine ⟨c :: pre, s, rfl, hpre, hs, ?_⟩
        rintro (_ | ⟨d, pre'⟩) r' htext hpre' hr'
        · obtain rfl : r' = c :: (pre ++ s) := htext.symm
          have hword : inWord = false := hpre'
          rw [hword, if_neg Bool.false_ne_true] at hhead
          simp [hhead] at hr'
        · obtain ⟨rfl, htail⟩ := List.cons.inj htext
          exact Nat.succ_le_succ (hfirst pre' r' htail hpre' hr')

/-- Where no call is found, none starts at any place where no word goes on. -/
theorem atHead?_of_findFrom_eq_none {t pre r : Text} {inWord : Bool}
    (h : findFrom inWord t = none) (htext : t = pre ++ r) (hpre : wordGoesOn inWord pre = false) :
    atHead? r = none := by
  induction t generalizing inWord pre with
  | nil =>
      obtain rfl := (List.append_eq_nil_iff.mp htext.symm).2
      rfl
  | cons c t ih =>
      rw [findFrom_cons] at h
      obtain ⟨hhead, hrest⟩ := Option.or_eq_none_iff.mp h
      cases pre with
      | nil =>
          have hword : inWord = false := hpre
          rw [hword, if_neg Bool.false_ne_true] at hhead
          obtain rfl : r = c :: t := htext.symm
          exact hhead
      | cons d pre =>
          obtain ⟨rfl, htail⟩ := List.cons.inj htext
          exact ih hrest htail hpre

/-- A call with the given blank after its comma, as it may stand in a text. -/
def spelled (call : Call) (b : Char) : Text :=
  call.name ++ '(' :: call.field ++ ',' :: b :: call.value ++ [')']

/-- A call that is found is well formed and a slice of the text. -/
theorem spelled_of_find? {t : Text} {call : Call} (h : find? t = some call) :
    call.WellFormed ∧ ∃ b, isBlank b = true ∧ call.spelled b <:+: t := by
  obtain ⟨pre, r, rfl, -, hr, -⟩ := first_of_findFrom h
  obtain ⟨hcall, b, post, hb, rfl, -⟩ := atHead?_eq_some_iff.mp hr
  exact ⟨hcall, b, hb, pre, post, by simp [spelled]⟩

theorem findFrom_word {w r : Text} (hw : ∀ c ∈ w, isWordChar c = true) :
    findFrom true (w ++ r) = findFrom true r := by
  induction w with
  | nil => rfl
  | cons c w ih =>
      rw [List.cons_append, findFrom, if_pos (hw c List.mem_cons_self), if_pos rfl]
      exact ih fun d hd => hw d (List.mem_cons_of_mem c hd)

theorem findFrom_other {c : Char} {r : Text} (inWord : Bool) (hc : isWordChar c = false) :
    findFrom inWord (c :: r) = findFrom false r := by
  rw [findFrom, if_neg (by simp [hc])]

/-- At the start of a word a call is tried once. -/
theorem find?_word {w r : Text} (hw : IsWord w) :
    find? (w ++ r) = (atHead? (w ++ r)).or (findFrom true r) := by
  obtain ⟨hne, hall⟩ := hw
  cases w with
  | nil => exact absurd rfl hne
  | cons c w =>
      rw [find?, List.cons_append, findFrom, if_pos (hall c List.mem_cons_self)]
      have htail := findFrom_word (r := r) fun d hd => hall d (List.mem_cons_of_mem c hd)
      cases atHead? (c :: (w ++ r)) <;> simp [htail]

theorem text_ne_nil {call : Call} : call.text ≠ [] := by
  simp [text]

/-- The written form of a call with a value is read back; without a value it holds no call. -/
theorem find?_text {name field v : Text} (hname : IsWord name) (hfield : IsReference field)
    (hv : '\n' ∉ v) :
    find? (text ⟨name, field, v⟩) = if v = [] then none else some ⟨name, field, v⟩ := by
  obtain ⟨w, hw, rfl⟩ := hfield
  have htext : text ⟨name, '[' :: w ++ [']'], v⟩ =
      name ++ ('(' :: '[' :: (w ++ ']' :: ',' :: ' ' :: (v ++ [')']))) := by simp [text]
  have hhead : atHead? (name ++ ('(' :: '[' :: (w ++ ']' :: ',' :: ' ' :: (v ++ [')'])))) =
      if v = [] then none else some ⟨name, '[' :: w ++ [']'], v⟩ := by
    have happend := atHead?_append (r := v ++ [')']) hname hw (show isBlank ' ' = true by decide)
    rw [value?_close hv] at happend
    split at happend <;> simpa [*] using happend
  rw [htext, find?_word hname, hhead]
  by_cases h : v = []
  · subst h
    have hinner : atHead? (w ++ ']' :: ',' :: ' ' :: [')']) = none := by
      rw [atHead?, word?_append hw (by decide)]
      rfl
    rw [if_pos rfl, Option.none_or, findFrom_other _ (by decide), findFrom_other _ (by decide)]
    exact (find?_word hw).trans (by rw [List.nil_append, hinner]; rfl)
  · rw [if_neg h, Option.some_or]

end Call

end FilterWire
