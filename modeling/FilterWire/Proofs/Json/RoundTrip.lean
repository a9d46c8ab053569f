import FilterWire.Proofs.Json.Printing
import FilterWire.Proofs.Text.Surrogate
import Mathlib.Data.List.Forall2
import Mathlib.Data.List.Nodup
import Mathlib.Tactic.IntervalCases
import Mathlib.Tactic.SplitIfs

/-!
# Printing a document and reading it again

A document without numbers is read again from its printed form, whatever
characters its texts are made of. The fuel of the reader never runs out,
because every step passes a character.
-/

namespace FilterWire

namespace Json

variable {s : Style}

theorem joinSurrogates_map_toNat (t : Text) :
    joinSurrogates (t.map Char.toNat) = t.map Char.toNat := by
  induction t with
  | nil => rfl
  | cons c t ih =>
      cases t with
      | nil => rfl
      | cons d t =>
          have hscalar : ¬ (0xD800 ≤ c.toNat ∧ c.toNat < 0xDC00 ∧ 0xDC00 ≤ d.toNat ∧
              d.toNat < 0xE000) := by
            have hc := isSurrogate_toNat c
            rw [isSurrogate, decide_eq_false_iff_not] at hc
            omega
          rw [List.map_cons, List.map_cons, joinSurrogates, if_neg hscalar]
          exact congrArg _ ih

/-! ## Texts between quotes -/

theorem hexCode?_ofHex {n : Nat} (h : n < 0x20) :
    ∃ a b c d, Text.ofHex 4 n = [a, b, c, d] ∧ hexCode? a b c d = some n := by
  interval_cases n <;> exact ⟨_, _, _, _, rfl, rfl⟩

/-- Each character is read from its escape. The closing quote is still to come, so there is some
character after it. -/
theorem readCodes_escapeChar (opening : Text) (codes : List Nat) (c d : Char) (r : Text) :
    readCodes opening codes (escapeChar false c ++ d :: r) =
      readCodes opening (c.toNat :: codes) (d :: r) := by
  rw [escapeChar]
  split_ifs with hquote hbackslash hline hreturn htab hfeed hback hcontrol
  · rw [hquote]
    rfl
  · rw [hbackslash]
    rfl
  · rw [hline]
    rfl
  · rw [hreturn]
    rfl
  · rw [htab]
    rfl
  · rw [hfeed]
    rfl
  · rw [hback]
    rfl
  · obtain ⟨a, b, e, f, hhex, hcode⟩ := hexCode?_ofHex hcontrol
    rw [unitEscape, hhex]
    simp only [List.cons_append, List.nil_append]
    rw [readCodes, hcode]
  · contradiction
  · rw [List.singleton_append, readCodes, if_neg hcontrol]
    · exact hquote
    all_goals
      intros
      contradiction

theorem readCodes_flatMap (opening : Text) (codes : List Nat) (t r : Text) :
    readCodes opening codes (t.flatMap (escapeChar false) ++ '"' :: r) =
      .ok (joinSurrogates (codes.reverse ++ t.map Char.toNat), r) := by
  induction t generalizing codes with
  | nil =>
      rw [List.map_nil, List.append_nil]
      rfl
  | cons c t ih =>
      obtain ⟨d, r', hrest⟩ : ∃ d r', t.flatMap (escapeChar false) ++ '"' :: r = d :: r' :=
        List.exists_cons_of_ne_nil (by simp)
      rw [List.flatMap_cons, List.append_assoc, hrest, readCodes_escapeChar, ← hrest, ih]
      simp

theorem readText_text (hs : s.asciiOnly = false) (t r : Text) :
    readText (s.text t ++ r) = .ok (t.map Char.toNat, r) := by
  have hdrop : (s.text t ++ r).drop 1 = t.flatMap (escapeChar false) ++ '"' :: r := by
    rw [Style.text, hs]
    simp
  rw [readText, hdrop, readCodes_flatMap, List.reverse_nil, List.nil_append,
    joinSurrogates_map_toNat]

/-! ## White space -/

theorem skipSpace_append {gap : Text} (h : IsGap gap) (t : Text) :
    skipSpace (gap ++ t) = skipSpace t :=
  List.dropWhile_append_of_pos h

theorem skipSpace_cons {c : Char} (h : isSpace c = false) (t : Text) :
    skipSpace (c :: t) = c :: t := by
  rw [skipSpace, List.dropWhile_cons_of_neg (by rw [h]; exact Bool.false_ne_true)]

/-! ## Reading values -/

/-- A text from which a value is read, whatever stands after it. -/
structure ReadsAs (t : Text) (v : Value) : Prop where
  head : ∃ c r, t = c :: r ∧ isSpace c = false ∧ c ≠ ']' ∧ c ≠ '\uFEFF'
  reads : ∀ fuel rest, t.length ≤ fuel → readValue fuel (t ++ rest) = .ok (v, rest)

/-- A text that can begin a document or an item is not empty, so there is fuel to begin with. -/
theorem ReadsAs.of_cons {c : Char} {r : Text} {v : Value} (hspace : isSpace c = false)
    (hclosing : c ≠ ']') (hmark : c ≠ '\uFEFF')
    (h : ∀ fuel rest, r.length ≤ fuel → readValue (fuel + 1) (c :: (r ++ rest)) = .ok (v, rest)) :
    ReadsAs (c :: r) v where
  head := ⟨c, r, rfl, hspace, hclosing, hmark⟩
  reads := by
    intro fuel rest hfuel
    obtain ⟨fuel, rfl⟩ := Nat.exists_eq_add_one_of_ne_zero (Nat.ne_zero_of_lt hfuel)
    exact h fuel rest (Nat.le_of_succ_le_succ hfuel)

theorem ReadsAs.skipSpace_eq {t : Text} {v : Value} (h : ReadsAs t v) (rest : Text) :
    skipSpace (t ++ rest) = t ++ rest := by
  obtain ⟨c, r, rfl, hspace, -, -⟩ := h.head
  exact skipSpace_cons hspace (r ++ rest)

/-! ## Reading lists -/

theorem exists_intercalate_cons (sep t : Text) (ts : List Text) :
    ∃ more, sep.intercalate (t :: ts) = t ++ more := by
  cases ts with
  | nil => exact ⟨[], by rw [List.intercalate_singleton, List.append_nil]⟩
  | cons t' ts => exact ⟨_, by rw [List.intercalate_cons_cons, List.append_assoc]⟩

/-- The fuel goes down by one for each item, and each item has a comma or a bracket after it. -/
theorem readItems_intercalate {between last : Text} (hbetween : IsGap between)
    (hlast : IsGap last) {t : Text} {v : Value} {ts : List Text} {vs : List Value}
    (h : ReadsAs t v) (htail : List.Forall₂ ReadsAs ts vs) (rest : Text) (before : List Value)
    (fuel : Nat) (hfuel : ((',' :: between).intercalate (t :: ts)).length < fuel) :
    readItems fuel before ((',' :: between).intercalate (t :: ts) ++ (last ++ ']' :: rest)) =
      .ok (.list (before.reverse ++ v :: vs), rest) := by
  induction htail generalizing t v before fuel with
  | nil =>
      obtain ⟨fuel, rfl⟩ := Nat.exists_eq_add_one_of_ne_zero (Nat.ne_zero_of_lt hfuel)
      rw [List.intercalate_singleton] at hfuel ⊢
      rw [readItems, h.reads fuel _ (by omega)]
      simp only [skipSpace_append hlast, skipSpace_cons (show isSpace ']' = false from rfl),
        List.reverse_cons]
  | @cons t' v' ts vs hhead _ ih =>
      obtain ⟨fuel, rfl⟩ := Nat.exists_eq_add_one_of_ne_zero (Nat.ne_zero_of_lt hfuel)
      obtain ⟨more, hmore⟩ := exists_intercalate_cons (',' :: between) t' ts
      rw [List.intercalate_cons_cons] at hfuel ⊢
      simp only [List.length_append, List.length_cons] at hfuel
      have hnext := ih hhead (v :: before) fuel (by omega)
      simp only [List.append_assoc, List.cons_append]
      rw [readItems, h.reads fuel _ (by omega)]
      simp only [skipSpace_cons (show isSpace ',' = false from rfl), skipSpace_append hbetween]
      rw [hmore, List.append_assoc] at hnext ⊢
      rw [hhead.skipSpace_eq, hnext, List.reverse_cons, List.append_assoc, List.singleton_append]

/-! ## Reading dictionaries -/

/-- A text from which an entry of a dictionary is read. -/
def EntryReadsAs (s : Style) (t : Text) (e : EntryKey × Value) : Prop :=
  ∃ k u, e.1 = .text k ∧ t = s.text k ++ ':' :: ' ' :: u ∧ ReadsAs u e.2

theorem EntryReadsAs.skipSpace_eq {t : Text} {e : EntryKey × Value}
    (h : EntryReadsAs s t e) (rest : Text) : skipSpace (t ++ rest) = t ++ rest := by
  obtain ⟨k, u, -, rfl, -⟩ := h
  exact skipSpace_cons rfl _

theorem EntryReadsAs.exists_quote {t : Text} {e : EntryKey × Value}
    (h : EntryReadsAs s t e) : ∃ r, t = '"' :: r := by
  obtain ⟨k, u, -, rfl, -⟩ := h
  exact ⟨_, rfl⟩

/-- After an entry comes the closing brace, or a comma and another entry. -/
theorem readEntries_entry (hs : s.asciiOnly = false) {t : Text} {e : EntryKey × Value}
    (h : EntryReadsAs s t e) (before : Entries) (rest : Text) {fuel : Nat}
    (hfuel : t.length ≤ fuel) :
    (∀ r, skipSpace rest = '}' :: r →
      readEntries (fuel + 1) before (t ++ rest) = .ok (ofEntries (e :: before), r)) ∧
    (∀ r, skipSpace rest = ',' :: r →
      readEntries (fuel + 1) before (t ++ rest) =
        readEntries fuel (e :: before) (skipSpace r)) := by
  obtain ⟨k, u, hkey, rfl, hu⟩ := h
  obtain ⟨key, v⟩ := e
  obtain rfl : key = .text k := hkey
  have hvalue : u.length ≤ fuel := by
    simp only [List.length_append, List.length_cons] at hfuel
    omega
  have hcolon : skipSpace (':' :: ' ' :: (u ++ rest)) = ':' :: ' ' :: (u ++ rest) :=
    skipSpace_cons rfl _
  have hblank : skipSpace (' ' :: (u ++ rest)) = u ++ rest := hu.skipSpace_eq rest
  obtain ⟨body, hbody⟩ : ∃ body, s.text k ++ ':' :: ' ' :: (u ++ rest) = '"' :: body := ⟨_, rfl⟩
  simp only [List.append_assoc, List.cons_append]
  rw [hbody, readEntries, ← hbody, readText_text hs]
  simp only [hcolon, hblank, hu.reads fuel rest hvalue, EntryKey.ofCodes_map_toNat]
  constructor
  · intro r hr
    simp only [hr]
  · intro r hr
    simp only [hr]

theorem readEntries_intercalate (hs : s.asciiOnly = false) {between last : Text}
    (hbetween : IsGap between) (hlast : IsGap last) {t : Text} {e : EntryKey × Value}
    {ts : List Text} {es : Entries} (h : EntryReadsAs s t e)
    (htail : List.Forall₂ (EntryReadsAs s) ts es) (rest : Text) (before : Entries) (fuel : Nat)
    (hfuel : ((',' :: between).intercalate (t :: ts)).length < fuel) :
    readEntries fuel before ((',' :: between).intercalate (t :: ts) ++ (last ++ '}' :: rest)) =
      .ok (ofEntries (es.reverse ++ e :: before), rest) := by
  induction htail generalizing t e before fuel with
  | nil =>
      obtain ⟨fuel, rfl⟩ := Nat.exists_eq_add_one_of_ne_zero (Nat.ne_zero_of_lt hfuel)
      rw [List.intercalate_singleton] at hfuel ⊢
      apply (readEntries_entry hs h before _ (by omega)).1
      rw [skipSpace_append hlast]
      exact skipSpace_cons rfl rest
  | @cons t' e' ts es hhead _ ih =>
      obtain ⟨fuel, rfl⟩ := Nat.exists_eq_add_one_of_ne_zero (Nat.ne_zero_of_lt hfuel)
      obtain ⟨more, hmore⟩ := exists_intercalate_cons (',' :: between) t' ts
      rw [List.intercalate_cons_cons] at hfuel ⊢
      simp only [List.length_append, List.length_cons] at hfuel
      have hnext := ih hhead (e :: before) fuel (by omega)
      simp only [List.append_assoc, List.cons_append]
      rw [(readEntries_entry hs h before _ (by omega)).2 _ (skipSpace_cons rfl _),
        skipSpace_append hbetween]
      rw [hmore, List.append_assoc] at hnext ⊢
      rw [hhead.skipSpace_eq, hnext, List.reverse_cons, List.append_assoc, List.singleton_append]

/-- Without equal keys nothing is replaced, and only the order is turned. -/
theorem ofEntries_of_nodup {es : Entries} (h : (es.map Prod.fst).Nodup) :
    ofEntries es = .dict es.reverse := by
  have hfold : es.foldr (fun e done => Value.setKey e.1 e.2 done) [] = es.reverse := by
    induction es with
    | nil => rfl
    | cons e es ih =>
        rw [List.map_cons, List.nodup_cons] at h
        have hfresh : e.1 ∉ es.reverse.map Prod.fst := by
          rw [List.map_reverse, List.mem_reverse]
          exact h.1
        rw [List.foldr_cons, ih h.2, Value.setKey, Dictionary.set_of_absent hfresh,
          List.reverse_cons]
  rw [ofEntries, hfold]

/-! ## Documents -/

theorem readValue_items {fuel : Nat} {r r' : Text} {c : Char} (h : skipSpace r = c :: r')
    (hc : c ≠ ']') : readValue (fuel + 1) ('[' :: r) = readItems fuel [] (c :: r') := by
  rw [readValue, if_neg (by decide), if_pos rfl, h]
  split
  · rename_i hclosing
    exact absurd (List.cons.inj hclosing).1 hc
  · rfl

theorem readValue_entries {fuel : Nat} {r r' : Text} {c : Char} (h : skipSpace r = c :: r')
    (hc : c ≠ '}') : readValue (fuel + 1) ('{' :: r) = readEntries fuel [] (c :: r') := by
  rw [readValue, if_neg (by decide), if_neg (by decide), if_pos rfl, h]
  split
  · rename_i hclosing
    exact absurd (List.cons.inj hclosing).1 hc
  · rfl

theorem ReadsAs.list {items : List Value} {ts : List Text} (h : List.Forall₂ ReadsAs ts items)
    (level : Nat) : ReadsAs (s.block level '[' ']' ts) (.list items) := by
  cases h with
  | nil => exact .of_cons rfl (by decide) (by decide) fun _ _ _ => rfl
  | @cons t v ts vs hhead htail =>
      obtain ⟨first, between, last, hfirst, hbetween, hlast, hblock⟩ :=
        s.exists_block level '[' ']' t ts
      rw [hblock]
      refine .of_cons rfl (by decide) (by decide) fun fuel rest hfuel => ?_
      simp only [List.length_append, List.length_cons] at hfuel
      have hitems := readItems_intercalate hbetween hlast hhead htail rest [] fuel (by omega)
      obtain ⟨more, hmore⟩ := exists_intercalate_cons (',' :: between) t ts
      -- the first item does not begin like the end of an empty list
      obtain ⟨c, r, hc, -, hclosing, -⟩ := hhead.head
      simp only [List.cons_append, List.append_assoc, List.nil_append]
      rw [hmore, List.append_assoc] at hitems ⊢
      have hskip : skipSpace (first ++ (t ++ (more ++ (last ++ ']' :: rest)))) =
          c :: (r ++ (more ++ (last ++ ']' :: rest))) := by
        rw [skipSpace_append hfirst, hhead.skipSpace_eq, hc, List.cons_append]
      rw [readValue_items hskip hclosing, ← List.cons_append, ← hc, hitems]
      rfl

theorem ReadsAs.dict (hs : s.asciiOnly = false) {es : Entries} {ts : List Text}
    (h : List.Forall₂ (EntryReadsAs s) ts es) (hkeys : (es.map Prod.fst).Nodup) (level : Nat) :
    ReadsAs (s.block level '{' '}' ts) (.dict es) := by
  cases h with
  | nil => exact .of_cons rfl (by decide) (by decide) fun _ _ _ => rfl
  | @cons t e ts es hhead htail =>
      obtain ⟨first, between, last, hfirst, hbetween, hlast, hblock⟩ :=
        s.exists_block level '{' '}' t ts
      rw [hblock]
      refine .of_cons rfl (by decide) (by decide) fun fuel rest hfuel => ?_
      simp only [List.length_append, List.length_cons] at hfuel
      have hentries := readEntries_intercalate hs hbetween hlast hhead htail rest [] fuel
        (by omega)
      have hturned : ofEntries (es.reverse ++ [e]) = .dict (e :: es) := by
        have hbackwards : ((e :: es).reverse.map Prod.fst).Nodup := by
          rw [List.map_reverse]
          exact List.nodup_reverse.mpr hkeys
        rw [← List.reverse_cons, ofEntries_of_nodup hbackwards, List.reverse_reverse]
      obtain ⟨more, hmore⟩ := exists_intercalate_cons (',' :: between) t ts
      obtain ⟨r, hquote⟩ := hhead.exists_quote
      simp only [List.cons_append, List.append_assoc, List.nil_append]
      rw [hmore, List.append_assoc] at hentries ⊢
      have hskip : skipSpace (first ++ (t ++ (more ++ (last ++ '}' :: rest)))) =
          '"' :: (r ++ (more ++ (last ++ '}' :: rest))) := by
        rw [skipSpace_append hfirst, hhead.skipSpace_eq, hquote, List.cons_append]
      rw [readValue_entries hskip (by decide), ← List.cons_append, ← hquote, hentries, hturned]

theorem ReadsAs.text (hs : s.asciiOnly = false) (t : Text) : ReadsAs (s.text t) (.str t) := by
  have hread := fun rest => readText_text hs t rest
  rw [Style.text, List.cons_append] at hread ⊢
  refine .of_cons rfl (by decide) (by decide) fun fuel rest _ => ?_
  rw [readValue, if_pos rfl, ← List.cons_append, hread]
  change Except.ok (Value.ofCodes (t.map Char.toNat), rest) = .ok (.str t, rest)
  rw [Value.ofCodes_map_toNat]

theorem ReadsAs.value (hs : s.asciiOnly = false) {v : Value} (h : Textual v) (level : Nat) :
    ReadsAs (s.value level v) v := by
  -- the parts of a list or dictionary stand one level deeper
  induction h generalizing level with
  | null => exact .of_cons rfl (by decide) (by decide) fun _ _ _ => rfl
  | bool b => cases b with
    | false => exact .of_cons rfl (by decide) (by decide) fun _ _ _ => rfl
    | true => exact .of_cons rfl (by decide) (by decide) fun _ _ _ => rfl
  | str t => exact ReadsAs.text hs t
  | @list items h ih =>
      rw [Style.value, Style.valueItems_eq_map]
      apply ReadsAs.list
      exact List.forall₂_map_left_iff.mpr (List.forall₂_same.mpr fun v hv => ih v hv (level + 1))
  | @dict es hkeys htexts h ih =>
      rw [Style.value, Style.valueEntries_eq_map]
      apply ReadsAs.dict hs _ hkeys
      refine List.forall₂_map_left_iff.mpr (List.forall₂_same.mpr fun e he => ?_)
      obtain ⟨k, hk⟩ := htexts e he
      exact ⟨k, s.value (level + 1) e.2, hk, by rw [hk]; rfl, ih e he (level + 1)⟩

/-- A textual document comes back from its printed form. -/
theorem read_render (hs : s.asciiOnly = false) {v : Value} (h : Textual v) :
    read (render s v) = .ok v := by
  have hvalue := ReadsAs.value hs h 0
  obtain ⟨c, r, hc, -, -, hmark⟩ := hvalue.head
  have hskip : skipSpace (render s v) = s.value 0 v ++ [] := by
    rw [← hvalue.skipSpace_eq [], List.append_nil, render]
  have hlength : (s.value 0 v).length ≤ 2 * (render s v).length + 2 := by
    rw [render]
    omega
  rw [read, hskip, hvalue.reads _ [] hlength]
  · rfl
  · intro r' hfirst
    rw [render, hc] at hfirst
    exact hmark (List.cons.inj hfirst).1

end Json

end FilterWire
