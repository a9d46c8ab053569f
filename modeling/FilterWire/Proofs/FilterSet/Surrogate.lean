import FilterWire.Proofs.Condition.Settling
import FilterWire.Proofs.FilterSet.Reading
import FilterWire.Proofs.Text.Surrogate

/-!
# Reading expressions with surrogates

The two readings of an expression with unpaired surrogates are decoded alike:
both fail, or both give a filter set, and these sets are the two readings of one.
-/

namespace FilterWire

/-! ## Related results -/

/-- Two computations that both fail, or give related results. -/
inductive Outcomes {ε α β : Type} (P : α → β → Prop) : Except ε α → Except ε β → Prop
  | ok {a : α} {b : β} (h : P a b) : Outcomes P (.ok a) (.ok b)
  | error (e e' : ε) : Outcomes P (.error e) (.error e')

section Results

variable {ε α β γ δ : Type} {P : α → β → Prop} {Q : γ → δ → Prop}

theorem Outcomes.bind {x : Except ε α} {y : Except ε β} {f : α → Except ε γ} {g : β → Except ε δ}
    (h : Outcomes P x y) (hfg : ∀ {a b}, P a b → Outcomes Q (f a) (g b)) :
    Outcomes Q (x >>= f) (y >>= g) := by
  cases h with
  | ok h => exact hfg h
  | error e e' => exact .error e e'

theorem Outcomes.mapM {f : α → Except ε γ} {g : β → Except ε δ}
    (hfg : ∀ {a b}, P a b → Outcomes Q (f a) (g b)) {as : List α} {bs : List β}
    (h : List.Forall₂ P as bs) : Outcomes (List.Forall₂ Q) (as.mapM f) (bs.mapM g) := by
  induction h with
  | nil => exact .ok .nil
  | cons hhead _ ih =>
      rw [List.mapM_cons, List.mapM_cons]
      exact (hfg hhead).bind fun hc => ih.bind fun hcs => .ok (.cons hc hcs)

theorem rel_bind {x : Option α} {y : Option β} {f : α → Option γ} {g : β → Option δ}
    (h : Option.Rel P x y) (hfg : ∀ {a b}, P a b → Option.Rel Q (f a) (g b)) :
    Option.Rel Q (x.bind f) (y.bind g) := by
  cases h with
  | some h => exact hfg h
  | none => exact .none

theorem rel_or {x x' : Option α} {y y' : Option β} (h : Option.Rel P x y)
    (h' : Option.Rel P x' y') : Option.Rel P (x.or x') (y.or y') := by
  cases h with
  | some h => exact .some h
  | none => exact h'

end Results

namespace Twins

variable {t t' r r' : Text}

/-! ## Wrappers -/

theorem closeFrom (depth : Nat) (hr : Twins r r') (h : Twins t t') :
    Option.Rel Twins (Group.closeFrom depth r t) (Group.closeFrom depth r' t') := by
  induction h generalizing depth r r' with
  | nil => exact .none
  | @cons c d _ _ hc h ih =>
      have hopen : c = '(' ↔ d = '(' := hc.eq_iff (by decide)
      have hclose : c = ')' ↔ d = ')' := hc.eq_iff (by decide)
      by_cases hc₁ : c = '('
      · obtain rfl := hopen.mp hc₁
        obtain rfl := hc₁
        rw [Group.closeFrom_open, Group.closeFrom_open]
        exact ih _ (.cons hc hr)
      by_cases hc₂ : c = ')'
      · obtain rfl := hclose.mp hc₂
        obtain rfl := hc₂
        cases depth with
        | zero =>
            rw [Group.closeFrom_end, Group.closeFrom_end]
            exact .some hr.reverse
        | succ depth =>
            rw [Group.closeFrom_close, Group.closeFrom_close]
            exact ih depth (.cons hc hr)
      · rw [Group.closeFrom_other _ _ _ hc₁ hc₂,
          Group.closeFrom_other _ _ _ (mt hopen.mpr hc₁) (mt hclose.mpr hc₂)]
        exact ih depth (.cons hc hr)

theorem open? (start : Nat) (h : Twins t t') :
    Option.Rel (fun p q => p.1 = q.1 ∧ Twins p.2 q.2) (Group.open? start t)
      (Group.open? start t') := by
  have hrest := (h.drop start).dropWhile (Twin.ne_test_eq (show IsLow '(' by decide))
  have hpassed := ((h.drop start).takeWhile
    (Twin.ne_test_eq (show IsLow '(' by decide))).length_eq
  rw [Group.open?, Group.open?, List.span_eq_takeWhile_dropWhile, List.span_eq_takeWhile_dropWhile]
  revert hrest
  generalize List.dropWhile _ (t.drop start) = rest
  generalize List.dropWhile _ (t'.drop start) = rest'
  rintro (_ | ⟨_, hrest⟩)
  · exact .none
  · exact .some ⟨by rw [hpassed], hrest⟩

theorem inside (start : Int) (h : Twins t t') :
    Outcomes Twins (Group.inside start t) (Group.inside start t') := by
  have hposition : Group.position start t = Group.position start t' := by
    rw [Group.position, Group.position, h.length_eq]
  have hopen := open? (Group.position start t') h
  rw [Group.inside, Group.inside, Group.insideFrom, Group.insideFrom, hposition]
  revert hopen
  generalize Group.open? _ t = opened
  generalize Group.open? _ t' = opened'
  rintro (⟨-, hrest⟩ | _)
  · have hclose := closeFrom 0 .nil hrest
    dsimp only
    revert hclose
    generalize Group.closeFrom _ _ _ = closed
    generalize Group.closeFrom _ _ _ = closed'
    rintro (hinner | _)
    · exact .ok hinner
    · exact .error _ _
  · exact .error _ _

theorem includesAbsent_eq (h : Twins t t') : Guard.includesAbsent t = Guard.includesAbsent t' :=
  occursIn_eq (by decide) h

theorem stripNullChecks (h : Twins t t') :
    Outcomes Twins (Guard.stripNullChecks t) (Guard.stripNullChecks t') := by
  have hcut : Option.Rel _ (Text.cut? Guard.separator t.trim) _ := cut? (by decide) h.trim
  rw [Guard.stripNullChecks, Guard.stripNullChecks]
  revert hcut
  generalize Text.cut? _ t.trim = cut
  generalize Text.cut? _ t'.trim = cut'
  rintro (⟨-, hrest⟩ | _)
  · exact inside 0 hrest
  · exact inside 0 .nil

theorem getD {x y : Option Text} (hxy : Option.Rel Twins x y) (h : Twins t t') :
    Twins (x.getD t) (y.getD t') := by
  cases hxy with
  | some hxy => exact hxy
  | none => exact h

theorem stripSentinel (h : Twins t t') : Twins (Guard.stripSentinel t) (Guard.stripSentinel t') :=
  getD (rel_bind (after? (by decide) h.trim) (before? (by decide))) h.trim

theorem unwrap (h : Twins t t') : Outcomes (fun p q => p.1 = q.1 ∧ Twins p.2 q.2)
    (FilterSet.unwrap t) (FilterSet.unwrap t') := by
  rw [FilterSet.unwrap, FilterSet.unwrap, h.includesAbsent_eq]
  dsimp only
  split
  · exact h.stripNullChecks.bind fun hbody => .ok ⟨rfl, hbody.stripSentinel⟩
  · exact .ok ⟨rfl, h.stripSentinel⟩

/-! ## Modes -/

theorem afterBlank? (h : Twins t t') :
    Option.Rel Twins (Call.afterBlank? t) (Call.afterBlank? t') := by
  cases h with
  | nil => exact .none
  | cons hc h =>
      rw [Call.afterBlank?, Call.afterBlank?, hc.isBlank_eq]
      split
      · exact .some h
      · exact .none

theorem modeAtHead?_eq (h : Twins t t') : Mode.atHead? t = Mode.atHead? t' := by
  have hword : ∀ m : Mode, LowText m.word := by
    rintro (_ | _) <;> decide
  have hand := rel_bind (after? (hword .and) h) afterBlank?
  have hor := rel_bind (after? (hword .or) h) afterBlank?
  rw [Mode.atHead?, Mode.atHead?]
  revert hand hor
  generalize (Text.after? Mode.and.word t).bind _ = x
  generalize (Text.after? Mode.and.word t').bind _ = x'
  generalize (Text.after? Mode.or.word t).bind _ = y
  generalize (Text.after? Mode.or.word t').bind _ = y'
  rintro (_ | _) (_ | _) <;> rfl

theorem mode_eq (h : Twins t t') : Mode.find? t = Mode.find? t' := by
  induction h with
  | nil => rfl
  | cons hc h ih =>
      rw [Mode.find?, Mode.find?, hc.isBlank_eq, modeAtHead?_eq h, ih]

theorem segments (m : Mode) (h : Twins t t') :
    List.Forall₂ Twins (FilterSet.segments m t) (FilterSet.segments m t') := by
  have hjoiner : LowText m.joiner := by
    cases m <;> decide
  refine List.rel_filter (fun s s' hs => ?_) (split hjoiner h)
  dsimp only
  rw [hs.isEmpty_eq]

end Twins

/-! ## Calls -/

theorem isLow_of_isWordChar {c : Char} (h : isWordChar c = true) : IsLow c := by
  simp only [isWordChar, Bool.decide_or, Bool.decide_and, Bool.or_eq_true, Bool.and_eq_true,
    decide_eq_true_eq] at h
  have hle : ∀ {x y : Char}, x ≤ y → x.toNat ≤ y.toNat := id
  rcases h with ⟨-, h⟩ | ⟨-, h⟩ | ⟨-, h⟩ | rfl
  · exact (hle h).trans_lt (by decide)
  · exact (hle h).trans_lt (by decide)
  · exact (hle h).trans_lt (by decide)
  · decide

/-- Calls that differ in the readings of their values only. -/
structure Call.Twin (call call' : Call) : Prop where
  name : call.name = call'.name
  field : call.field = call'.field
  value : Twins call.value call'.value

namespace Twins

variable {t t' : Text}

theorem word? (h : Twins t t') : Option.Rel (fun p q => p.1 = q.1 ∧ Twins p.2 q.2)
    (Call.word? t) (Call.word? t') := by
  have htest : ∀ {c d}, Twin c d → isWordChar c = isWordChar d :=
    Twin.test_eq fun _ => isLow_of_isWordChar
  have hword : t.takeWhile isWordChar = t'.takeWhile isWordChar :=
    (h.takeWhile htest).eq_of_isLow fun c hc => isLow_of_isWordChar (List.mem_takeWhile_imp hc)
  rw [Call.word?, Call.word?, List.span_eq_takeWhile_dropWhile, List.span_eq_takeWhile_dropWhile,
    hword]
  cases t'.takeWhile isWordChar with
  | nil => exact .none
  | cons c w => exact .some ⟨rfl, h.dropWhile htest⟩

theorem value? (h : Twins t t') : Option.Rel Twins (Call.value? t) (Call.value? t') := by
  have hline := h.takeWhile (Twin.ne_test_eq (show IsLow '\n' by decide))
  have hvalue := hline.reverse.dropWhile (Twin.ne_test_eq (show IsLow ')' by decide))
  rw [Call.value?, Call.value?]
  revert hvalue
  generalize List.dropWhile _ _ = v
  generalize List.dropWhile _ _ = v'
  rintro (_ | ⟨_, _ | ⟨hc, hr⟩⟩)
  · exact .none
  · exact .none
  · exact .some (reverse (.cons hc hr))

theorem atHead? (h : Twins t t') : Option.Rel Call.Twin (Call.atHead? t) (Call.atHead? t') := by
  rw [Call.atHead?, Call.atHead?]
  refine rel_bind h.word? fun hname => ?_
  refine rel_bind (after? (by decide) hname.2) fun h => ?_
  refine rel_bind h.word? fun hfield => ?_
  refine rel_bind (after? (by decide) hfield.2) fun h => ?_
  refine rel_bind h.afterBlank? fun h => ?_
  refine rel_bind h.value? fun hvalue => ?_
  exact .some ⟨hname.1, by rw [hfield.1], hvalue⟩

theorem findFrom (inWord : Bool) (h : Twins t t') :
    Option.Rel Call.Twin (Call.findFrom inWord t) (Call.findFrom inWord t') := by
  induction h generalizing inWord with
  | nil => exact .none
  | cons hc h ih =>
      rw [Call.findFrom_cons, Call.findFrom_cons, hc.test_eq fun _ => isLow_of_isWordChar]
      refine rel_or ?_ (ih _)
      split
      · exact .none
      · exact atHead? (.cons hc h)

/-! ## Comparators -/

theorem any_eq {ts ts' : List Text} {p : Text → Bool} (hp : ∀ {t t'}, Twins t t' → p t = p t')
    (h : List.Forall₂ Twins ts ts') : ts.any p = ts'.any p := by
  induction h with
  | nil => rfl
  | cons ht _ ih => rw [List.any_cons, List.any_cons, hp ht, ih]

theorem hasBrackets_eq {opening closing : Text} (hopening : LowText opening)
    (hclosing : LowText closing) (h : Twins t t') :
    Comparator.hasBrackets opening closing t = Comparator.hasBrackets opening closing t' := by
  refine any_eq (fun {line line'} hline => ?_) (split (by decide) h)
  have hcut := cut? hopening hline
  revert hcut
  generalize Text.cut? opening line = cut
  generalize Text.cut? opening line' = cut'
  rintro (⟨-, hrest⟩ | _)
  · exact occursIn_eq hclosing hrest
  · rfl

theorem ofSharedName_eq (h : Twins t t') :
    Comparator.ofSharedName t = Comparator.ofSharedName t' := by
  rw [Comparator.ofSharedName, Comparator.ofSharedName,
    hasBrackets_eq (by decide) (by decide) h, hasBrackets_eq (by decide) (by decide) h,
    hasBrackets_eq (by decide) (by decide) h]

/-- Brackets are taken off at the same places. -/
theorem decode {k : Comparator} (hk : k ∈ Registry.standard.comparators) (h : Twins t t') :
    Twins (k.codec.decode t) (k.codec.decode t') := by
  have hbracketed : ∀ {opening closing}, LowText opening → LowText closing →
      Twins ((Codec.bracketed opening closing).decode t)
        ((Codec.bracketed opening closing).decode t') := by
    intro opening closing hopening hclosing
    have hrest := getD (after? hopening h) h
    exact getD (before? hclosing hrest) hrest
  rcases Comparator.standard_cases k hk with rfl | rfl | rfl | ⟨hplain, -⟩
  · exact hbracketed (by decide) (by decide)
  · exact hbracketed (by decide) (by decide)
  · exact hbracketed (by decide) (by decide)
  · rw [hplain]
    exact h

end Twins

/-! ## Conditions and filter sets -/

/-- Conditions that differ in the readings of their queries only. -/
structure Condition.Twin (c c' : Condition) : Prop where
  field : c.field = c'.field
  option : c.option = c'.option
  query : Twins c.query c'.query

/-- Filter sets that differ in the readings of their queries only. -/
structure FilterSet.Twin (s s' : FilterSet) : Prop where
  mode : s.mode = s'.mode
  includesAbsent : s.includesAbsent = s'.includesAbsent
  filters : List.Forall₂ (Option.Rel Condition.Twin) s.filters s'.filters

namespace Twins

variable {t t' : Text}

theorem comparatorOf_eq {call call' : Call} (h : call.Twin call') :
    Condition.comparatorOf call = Condition.comparatorOf call' := by
  rw [Condition.comparatorOf, Condition.comparatorOf, h.name, ofSharedName_eq h.value]

theorem ofCall {call call' : Call} (h : call.Twin call') :
    Outcomes Condition.Twin (Condition.ofCall call) (Condition.ofCall call') := by
  rw [Condition.ofCall, Condition.ofCall, comparatorOf_eq h]
  cases hk : Condition.comparatorOf call' with
  | error e => exact .error e e
  | ok k => exact .ok ⟨h.field, rfl, decode (Condition.comparatorOf_mem hk) h.value⟩

theorem condition (h : Twins t t') : Outcomes (Option.Rel Condition.Twin)
    (Condition.decode t).outcome (Condition.decode t').outcome := by
  have hcall := findFrom false h
  rw [Condition.decode, Condition.decode, Call.find?, Call.find?]
  revert hcall
  generalize Call.findFrom false t = found
  generalize Call.findFrom false t' = found'
  rintro (hcall | _)
  · simp only [Logged.outcome_bind, Logged.outcome_ofExcept]
    exact (ofCall hcall).bind fun hc => .ok (.some hc)
  · exact .ok .none

theorem segment (strict : Bool) (h : Twins t t') : Outcomes (Option.Rel Condition.Twin)
    (FilterSet.decodeSegment strict t).outcome (FilterSet.decodeSegment strict t').outcome := by
  simp only [FilterSet.decodeSegment, Logged.outcome_bind]
  refine h.condition.bind fun hc => ?_
  cases hc with
  | some hc => exact .ok (.some hc)
  | none =>
      cases strict with
      | true => exact .error _ _
      | false => exact .ok .none

theorem body (strict absent : Bool) (h : Twins t t') : Outcomes FilterSet.Twin
    (FilterSet.decodeBody strict absent t).outcome
    (FilterSet.decodeBody strict absent t').outcome := by
  simp only [FilterSet.decodeBody, Logged.outcome_bind, Logged.outcome_each, h.mode_eq]
  exact (Outcomes.mapM (fun hs => segment strict hs) (h.segments _)).bind fun hfilters =>
    .ok ⟨rfl, rfl, hfilters⟩

/-- The two readings of an expression both fail, or give the two readings of a filter set. -/
theorem filterSet (strict : Bool) (h : Twins t t') : Outcomes FilterSet.Twin
    (FilterSet.decode strict t).outcome (FilterSet.decode strict t').outcome := by
  rw [FilterSet.decode, FilterSet.decode]
  simp only [h.trim.isEmpty_eq]
  split
  · exact .ok ⟨rfl, rfl, .nil⟩
  · simp only [Logged.outcome_bind, Logged.outcome_ofExcept]
    refine h.trim.unwrap.bind fun {p q} hpq => ?_
    obtain ⟨absent, body⟩ := p
    obtain ⟨absent', body'⟩ := q
    obtain ⟨rfl, hbody⟩ := hpq
    exact hbody.body strict absent

end Twins

end FilterWire
