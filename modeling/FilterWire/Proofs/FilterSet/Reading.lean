import FilterWire.FilterSet.Codec
import FilterWire.Proofs.Guard
import FilterWire.Proofs.Logged

/-!
# The stages of reading an expression

Whatever stands around the joined conditions, reading ends in reading a
body: the text inside the sentinel, with the flag that the null checks
set. A blank expression is no exception, its body is empty.
-/

namespace FilterWire.FilterSet

variable {strict absent : Bool}

theorem outcome_decodeSegment_lenient (s : Text) :
    (decodeSegment false s).outcome = (Condition.decode s).outcome := by
  rw [decodeSegment, Logged.outcome_bind]
  cases (Condition.decode s).outcome with
  | error e => rfl
  | ok d => cases d <;> rfl

/-- A segment that holds a call is read in either way. -/
theorem outcome_decodeSegment_of_some {s : Text} {c : Condition}
    (h : (Condition.decode s).outcome = .ok (some c)) :
    (decodeSegment strict s).outcome = .ok (some c) := by
  rw [decodeSegment, Logged.outcome_bind, h]
  rfl

theorem outcome_decodeBody (strict absent : Bool) (body : Text) :
    (decodeBody strict absent body).outcome =
      ((segments ((Mode.find? body).getD .and) body).mapM
        fun s => (decodeSegment strict s).outcome).map
          fun filters => ⟨some ((Mode.find? body).getD .and), absent, filters⟩ := by
  simp only [decodeBody, Logged.outcome_bind, Logged.outcome_each]
  cases (segments ((Mode.find? body).getD .and) body).mapM
      fun s => (decodeSegment strict s).outcome with
  | error e => rfl
  | ok filters => rfl

/-- The flag is passed on and decides nothing. -/
theorem outcome_decodeBody_flag (strict absent : Bool) (body : Text) :
    (decodeBody strict absent body).outcome =
      (decodeBody strict false body).outcome.map fun s => { s with includesAbsent := absent } := by
  rw [outcome_decodeBody, outcome_decodeBody]
  cases (segments ((Mode.find? body).getD .and) body).mapM
      fun s => (decodeSegment strict s).outcome with
  | error e => rfl
  | ok filters => rfl

theorem includesAbsent_of_decodeBody {body : Text} {s : FilterSet}
    (h : (decodeBody strict absent body).outcome = .ok s) : s.includesAbsent = absent := by
  rw [outcome_decodeBody_flag] at h
  cases hplain : (decodeBody strict false body).outcome with
  | error e => simp [hplain, Except.map] at h
  | ok s' =>
      rw [hplain] at h
      obtain rfl := Except.ok.inj h
      rfl

theorem outcome_decodeBody_nil (strict absent : Bool) :
    (decodeBody strict absent []).outcome = .ok ⟨some .and, absent, []⟩ :=
  outcome_decodeBody strict absent []

/-! ## What stands around the body -/

theorem decode_pad {p t q : Text} (hp : ∀ c ∈ p, isBlank c = true)
    (hq : ∀ c ∈ q, isBlank c = true) : decode strict (p ++ t ++ q) = decode strict t := by
  rw [decode, decode, Text.trim_append hp hq]

theorem decode_of_blank {t : Text} (strict : Bool) (h : t.trim = []) :
    decode strict t = pure empty := by
  rw [decode, h]
  rfl

theorem decode_of_unwrap {t body : Text} {absent : Bool} (strict : Bool) (hne : t.trim ≠ [])
    (h : unwrap t.trim = .ok (absent, body)) : decode strict t = decodeBody strict absent body := by
  rw [decode]
  simp only [List.isEmpty_iff, if_neg hne, h]
  rfl

theorem decode_of_unwrap_error {t : Text} {e : CodecError} (strict : Bool) (hne : t.trim ≠ [])
    (h : unwrap t.trim = .error e) : decode strict t = ⟨[], .error e⟩ := by
  rw [decode]
  simp only [List.isEmpty_iff, if_neg hne, h]
  rfl

/-- An expression is blank, has null checks that do not come off, or is read from its body. -/
theorem decode_cases (t : Text) :
    (t.trim = [] ∧ ∀ strict, decode strict t = pure empty) ∨
      (∃ e, unwrap t.trim = .error e ∧ ∀ strict, decode strict t = ⟨[], .error e⟩) ∨
      ∃ absent body, unwrap t.trim = .ok (absent, body) ∧
        ∀ strict, decode strict t = decodeBody strict absent body := by
  by_cases hne : t.trim = []
  · exact Or.inl ⟨hne, fun strict => decode_of_blank strict hne⟩
  · cases hunwrap : unwrap t.trim with
    | error e =>
        exact Or.inr (Or.inl ⟨e, rfl, fun strict => decode_of_unwrap_error strict hne hunwrap⟩)
    | ok p =>
        exact Or.inr (Or.inr ⟨p.1, p.2, rfl, fun strict => decode_of_unwrap strict hne hunwrap⟩)

/-- The body is a slice of the expression. -/
theorem infix_of_unwrap {t body : Text} {absent : Bool} (h : unwrap t = .ok (absent, body)) :
    body <:+: t := by
  rw [unwrap] at h
  by_cases hflag : Guard.includesAbsent t = true
  · rw [if_pos hflag] at h
    cases hstrip : Guard.stripNullChecks t with
    | error e =>
        rw [hstrip] at h
        cases h
    | ok r =>
        rw [hstrip] at h
        obtain rfl := (Prod.mk.inj (Except.ok.inj h)).2
        exact (Guard.stripSentinel_infix_self r).trans (Guard.infix_of_stripNullChecks hstrip)
  · rw [if_neg hflag] at h
    obtain rfl := (Prod.mk.inj (Except.ok.inj h)).2
    exact Guard.stripSentinel_infix_self t

/-- Without null checks the body is what the sentinel encloses. -/
theorem outcome_decode_of_absent {t : Text} (h : ¬ Guard.nullCheckName <:+: t) :
    (decode strict t).outcome = (decodeBody strict false (Guard.stripSentinel t)).outcome := by
  by_cases hblank : t.trim = []
  · rw [Guard.stripSentinel_of_blank hblank, outcome_decodeBody_nil, decode_of_blank strict hblank]
    rfl
  · have hflag : Guard.includesAbsent t.trim = false := by
      rw [Bool.eq_false_iff, ne_eq, Guard.includesAbsent_iff]
      exact fun hi => h (hi.trans t.trim_infix_self)
    have hunwrap : unwrap t.trim = .ok (false, Guard.stripSentinel t) := by
      rw [unwrap, hflag, ← Guard.stripSentinel_trim t]
      rfl
    rw [decode_of_unwrap strict hblank hunwrap]

/-- Behind null checks the body is what the sentinel of the guarded text encloses. -/
theorem outcome_decode_guarded {checks t : Text} (hnull : Guard.nullCheckName <:+: checks)
    (hsep : ¬ Guard.separator <:+: checks) (ht : Group.Balanced t) :
    (decode strict (Guard.guarded checks t)).outcome =
      (decodeBody strict true (Guard.stripSentinel t)).outcome := by
  have hne : (Guard.guarded checks t).trim ≠ [] := by
    rw [Guard.trim_guarded]
    exact List.cons_ne_nil _ _
  have hflag : Guard.includesAbsent (Guard.guarded checks t) = true := by
    rw [Guard.includesAbsent_iff]
    exact hnull.trans ⟨['('], ')' :: Guard.separator ++ '(' :: t ++ [')'], by simp [Guard.guarded]⟩
  have hunwrap : unwrap (Guard.guarded checks t).trim = .ok (true, Guard.stripSentinel t) := by
    rw [Guard.trim_guarded, unwrap, hflag, if_pos rfl, Guard.stripNullChecks_guarded hsep ht]
    rfl
  rw [decode_of_unwrap strict hne hunwrap]

/-- Whatever is read where null checks are spoken of has the flag set. -/
theorem includesAbsent_of_decode {t : Text} {s : FilterSet}
    (hnull : Guard.nullCheckName <:+: t.trim) (h : (decode strict t).outcome = .ok s) :
    s.includesAbsent = true := by
  rcases decode_cases t with ⟨hblank, -⟩ | ⟨e, -, hdecode⟩ | ⟨absent, body, hunwrap, hdecode⟩
  · rw [hblank, List.infix_nil] at hnull
    cases hnull
  · rw [hdecode strict] at h
    cases h
  · have hflag : absent = true := by
      rw [unwrap, Guard.includesAbsent_iff.mpr hnull, if_pos rfl] at hunwrap
      cases hbody : Guard.stripNullChecks t.trim with
      | error e =>
          rw [hbody] at hunwrap
          cases hunwrap
      | ok body =>
          rw [hbody] at hunwrap
          exact (Prod.mk.inj (Except.ok.inj hunwrap)).1.symm
    rw [hdecode strict, hflag] at h
    exact includesAbsent_of_decodeBody h

/-- A guard for absent fields is transparent: the text behind it is read with the same outcome,
whatever it holds, and only the flag tells that the guard was there. -/
theorem decode_guarded {checks t : Text} (hnull : Guard.nullCheckName <:+: checks)
    (hsep : ¬ Guard.separator <:+: checks) (ht : Group.Balanced t)
    (habsent : ¬ Guard.nullCheckName <:+: t) :
    (decode strict (Guard.guarded checks t)).outcome =
        (decode strict t).outcome.map (fun s => { s with includesAbsent := true }) ∧
      ∀ s, (decode strict t).outcome = .ok s → s.includesAbsent = false := by
  rw [outcome_decode_guarded hnull hsep ht, outcome_decode_of_absent habsent,
    ← outcome_decodeBody_flag]
  exact ⟨rfl, fun s hs => includesAbsent_of_decodeBody hs⟩

/-- The body combines by `or` and holds a segment that is no call. -/
theorem decode_guarded_with_hole :
    (decode false
        "(IS_NULL([a]) AND x) OR ( (LT([b], (2)) OR no OR EQ([c], 3)) ?: false )".toList).outcome =
      .ok ⟨some .or, true, [some ⟨"[b]".toList, "Less than".toList, "(2)".toList⟩, none,
        some ⟨"[c]".toList, "Is equal to".toList, "3".toList⟩]⟩ :=
  (@decode_guarded false "IS_NULL([a]) AND x".toList
    " (LT([b], (2)) OR no OR EQ([c], 3)) ?: false ".toList
    (by decide) (by decide) (by decide) (by decide)).1.trans (by rfl)

end FilterWire.FilterSet
