import FilterWire.Guard
import FilterWire.Proofs.Call
import FilterWire.Proofs.Group
import FilterWire.Proofs.Text.Trim

/-!
# Guards and what they enclose

The sentinel comes off whatever it encloses. The null checks come off a
balanced text, since neither the checks nor their closing parenthesis can
hold the separator before its place.
-/

namespace FilterWire.Guard

theorem includesAbsent_iff {t : Text} : includesAbsent t = true ↔ nullCheckName <:+: t :=
  Text.occursIn_iff

/-! ## The sentinel -/

theorem trim_wrapSentinel (t : Text) : (wrapSentinel t).trim = wrapSentinel t := by
  have hends : wrapSentinel t = '(' :: (t ++ sentinelEnd.dropLast) ++ ['e'] := by
    simp [wrapSentinel, sentinelEnd]
  rw [hends]
  exact Text.trim_eq_self (by decide) (by decide)

theorem infix_wrapSentinel (t : Text) : t <:+: wrapSentinel t :=
  ⟨['('], sentinelEnd, rfl⟩

theorem stripSentinel_trim (t : Text) : stripSentinel t.trim = stripSentinel t := by
  rw [stripSentinel, stripSentinel, Text.trim_trim]

theorem stripSentinel_wrapSentinel (t : Text) : stripSentinel (wrapSentinel t) = t := by
  have hafter : Text.after? ['('] (wrapSentinel t) = some (t ++ sentinelEnd) :=
    Text.after?_eq_some_iff.mpr rfl
  have hbefore : Text.before? sentinelEnd (t ++ sentinelEnd) = some t :=
    Text.before?_eq_some_iff.mpr rfl
  rw [stripSentinel, trim_wrapSentinel]
  simp only [hafter, Option.bind_some, hbefore, Option.getD_some]

theorem stripSentinel_of_blank {t : Text} (ht : t.trim = []) : stripSentinel t = [] := by
  rw [← stripSentinel_trim, ht]
  rfl

theorem balanced_wrapSentinel {t : Text} (ht : Group.Balanced t) :
    Group.Balanced (wrapSentinel t) := by
  have htext : wrapSentinel t = ('(' :: t ++ [')']) ++ sentinelEnd.tail := by
    simp [wrapSentinel, sentinelEnd]
  rw [htext]
  exact ht.parenthesized.append (Group.Balanced.of_notMem (by decide) (by decide))

theorem nullCheckName_infix_wrapSentinel {t : Text} (h : nullCheckName <:+: wrapSentinel t) :
    nullCheckName <:+: t := by
  have htext : wrapSentinel t = '(' :: (t ++ ')' :: sentinelEnd.tail) := by
    simp [wrapSentinel, sentinelEnd]
  rw [htext, Text.infix_cons_of_notMem_iff (by decide),
    Text.infix_append_cons_iff (by decide)] at h
  exact h.resolve_right (by decide)

theorem stripSentinel_infix_self (t : Text) : stripSentinel t <:+: t := by
  refine List.IsInfix.trans ?_ t.trim_infix_self
  rw [stripSentinel]
  cases h : (Text.after? ['('] t.trim).bind (Text.before? sentinelEnd) with
  | none => exact List.infix_rfl
  | some r =>
      obtain ⟨s, hs, hr⟩ := Option.bind_eq_some_iff.mp h
      rw [Option.getD_some, Text.after?_eq_some_iff.mp hs, Text.before?_eq_some_iff.mp hr]
      exact ⟨['('], sentinelEnd, rfl⟩

/-! ## The null checks -/

theorem stripNullChecks_trim (t : Text) : stripNullChecks t.trim = stripNullChecks t := by
  rw [stripNullChecks, stripNullChecks, Text.trim_trim]

theorem infix_of_stripNullChecks {t r : Text} (h : stripNullChecks t = .ok r) : r <:+: t := by
  rw [stripNullChecks] at h
  cases hcut : Text.cut? separator t.trim with
  | none =>
      rw [hcut] at h
      cases h
  | some p =>
      rw [hcut] at h
      have hrest : p.2 <:+: t.trim := by
        rw [Text.eq_of_cut? hcut, ← List.append_assoc]
        exact List.infix_append_right
      exact (Group.infix_of_inside h).trans (hrest.trans t.trim_infix_self)

/-- A text behind some guard that stands for the null checks. -/
def guarded (checks t : Text) : Text :=
  '(' :: checks ++ ')' :: separator ++ '(' :: t ++ [')']

theorem trim_guarded (checks t : Text) : (guarded checks t).trim = guarded checks t :=
  Text.trim_eq_self (c := '(') (by decide) (by decide)

/-- The first separator is the one after the guard, so what follows it is looked at. -/
theorem stripNullChecks_guarded_eq {checks : Text} (hchecks : ¬ separator <:+: checks) (t : Text) :
    stripNullChecks (guarded checks t) = Group.inside 0 ('(' :: t ++ [')']) := by
  have hlater : ¬ separator <:+: ('(' :: checks ++ [')']) ++ separator.dropLast := by
    intro h
    rw [List.append_assoc, List.singleton_append, Text.infix_append_cons_iff (by decide),
      Text.infix_cons_of_notMem_iff (by decide)] at h
    exact h.elim hchecks (by decide)
  have htext : guarded checks t =
      ('(' :: checks ++ [')']) ++ (separator ++ ('(' :: t ++ [')'])) := by
    simp [guarded]
  have hcut : Text.cut? separator (guarded checks t).trim =
      some ('(' :: checks ++ [')'], '(' :: t ++ [')']) := by
    rw [trim_guarded, htext]
    exact Text.cut?_append hlater
  rw [stripNullChecks, hcut]

/-- The depth counter stops at the last character. -/
theorem stripNullChecks_guarded {checks t : Text} (hchecks : ¬ separator <:+: checks)
    (ht : Group.Balanced t) : stripNullChecks (guarded checks t) = .ok t := by
  rw [stripNullChecks_guarded_eq hchecks]
  exact Group.inside_parenthesized ht

theorem notMem_nullCheckName {c : Char} (hc : isBlank c = true) : c ∉ nullCheckName := by
  have hword : IsWord nullCheckName := by decide
  intro hmem
  simp [hword.blankless c hmem] at hc

theorem nullCheckName_infix_checks {fields : List Text} (hne : fields ≠ []) :
    nullCheckName <:+: checkJoiner.intercalate (fields.map nullCheck) := by
  cases fields with
  | nil => exact absurd rfl hne
  | cons f fs =>
      have hcheck : nullCheckName <+: nullCheck f := ⟨'(' :: f ++ [')'], by simp [nullCheck]⟩
      cases fs with
      | nil => simpa using hcheck.isInfix
      | cons g gs =>
          rw [List.map_cons, List.map_cons, List.intercalate_cons_cons, List.append_assoc]
          exact List.infix_append_of_infix_left hcheck.isInfix

theorem separator_absent_nullCheck {field : Text} (h : ¬ separator <:+: field) :
    ¬ separator <:+: nullCheck field := by
  rw [nullCheck, List.append_assoc, List.cons_append, Text.infix_append_cons_iff (by decide),
    Text.infix_append_cons_iff (by decide)]
  rintro (hname | hfield | hend)
  · exact absurd hname (by decide)
  · exact h hfield
  · exact absurd hend (by decide)

/-- The null checks of fields without the separator do not hold it either. -/
theorem separator_absent {fields : List Text} (h : ∀ f ∈ fields, ¬ separator <:+: f) :
    ¬ separator <:+: checkJoiner.intercalate (fields.map nullCheck) := by
  induction fields with
  | nil => decide
  | cons f fs ih =>
      have hf := separator_absent_nullCheck (h f List.mem_cons_self)
      have hfs := ih fun g hg => h g (List.mem_cons_of_mem f hg)
      cases fs with
      | nil => simpa using hf
      | cons g gs =>
          obtain ⟨r, hr⟩ : ∃ r, checkJoiner.intercalate ((g :: gs).map nullCheck) = 'I' :: r :=
            ⟨_, by simp [nullCheck, nullCheckName]; rfl⟩
          have hjoiner : separator <:+: checkJoiner ++ 'I' :: r → separator <:+: 'I' :: r := by
            -- after either blank of the joiner the separator would go on with another letter
            intro h
            simpa [checkJoiner, separator, List.infix_cons_iff, List.cons_prefix_cons] using h
          have htext : checkJoiner.intercalate ((f :: g :: gs).map nullCheck) =
              (nullCheckName ++ '(' :: f) ++ ')' :: (checkJoiner ++ 'I' :: r) := by
            rw [← hr]
            simp [nullCheck]
          rw [htext, Text.infix_append_cons_iff (by decide)]
          rintro (hcheck | hjoin)
          · exact hf (List.infix_append_of_infix_left hcheck)
          · rw [hr] at hfs
            exact hfs (hjoiner hjoin)

end FilterWire.Guard
