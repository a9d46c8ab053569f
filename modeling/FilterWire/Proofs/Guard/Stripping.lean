import FilterWire.FilterSet.Basic
import FilterWire.Proofs.Group.FirstGroup
import FilterWire.Proofs.Guard

/-!
# Taking wrappers off again

The sentinel comes off every text. The null checks come off exactly the
balanced ones: of any other text the depth counter gives the part before its
first parenthesis too many, or no end of the group at all.
-/

namespace FilterWire

namespace Group

/-- Whatever is found in parentheses around a text is balanced and a beginning of it. -/
theorem prefix_of_inside_parenthesized {s r : Text}
    (h : inside 0 ('(' :: s ++ [')']) = .ok r) : Balanced r ∧ r <+: s := by
  obtain ⟨pre, post, htext, -, hpre, hr⟩ := inside_eq_ok_iff.mp h
  refine ⟨hr, ?_⟩
  cases pre with
  | cons c pre =>
      obtain rfl : '(' = c := (List.cons.inj htext).1
      exact absurd List.mem_cons_self hpre
  | nil =>
      have hrest : s ++ [')'] = r ++ ')' :: post := (List.cons.inj htext).2
      have hlen : r.length ≤ s.length := by
        have hsum := congrArg List.length hrest
        simp only [List.length_append, List.length_cons, List.length_nil] at hsum
        omega
      exact List.prefix_of_prefix_length_le ⟨_, hrest.symm⟩ (List.prefix_append s [')']) hlen

theorem inside_parenthesized_iff {s : Text} :
    inside 0 ('(' :: s ++ [')']) = .ok s ↔ Balanced s :=
  ⟨fun h => (prefix_of_inside_parenthesized h).1, inside_parenthesized⟩

end Group

namespace Guard

section Padded

variable {p q : Text}

theorem stripSentinel_padded (hp : ∀ c ∈ p, isBlank c = true) (hq : ∀ c ∈ q, isBlank c = true)
    (t : Text) : stripSentinel (p ++ wrapSentinel t ++ q) = t := by
  rw [← stripSentinel_trim, Text.trim_append hp hq, stripSentinel_trim, stripSentinel_wrapSentinel]

/-- What is left of wrapped null checks depends on the wrapped text alone. -/
theorem stripNullChecks_padded (hp : ∀ c ∈ p, isBlank c = true) (hq : ∀ c ∈ q, isBlank c = true)
    {fields : List Text} (hfields : ∀ f ∈ fields, ¬ separator <:+: f) (s : Text) :
    stripNullChecks (p ++ wrapNullChecks s fields ++ q) = Group.inside 0 ('(' :: s ++ [')']) := by
  rw [← stripNullChecks_trim, Text.trim_append hp hq, stripNullChecks_trim]
  exact stripNullChecks_guarded_eq (separator_absent hfields) s

/-- Blanks around it or not, the sentinel comes off every text, and the null checks of conditions
come off a text exactly if its parentheses are balanced. Otherwise less than the text is left, or
there is an error about the parentheses. -/
theorem strip_wrapped (hp : ∀ c ∈ p, isBlank c = true) (hq : ∀ c ∈ q, isBlank c = true) :
    (∀ t, stripSentinel (p ++ wrapSentinel t ++ q) = t) ∧
    ∀ (s : Text) (cs : List Condition), (∀ c ∈ cs, ¬ separator <:+: c.field) →
      (stripNullChecks (p ++ wrapNullChecks s (cs.map (·.field)) ++ q) = .ok s ↔
        Group.Balanced s) ∧
      (¬ Group.Balanced s →
        (∃ r, stripNullChecks (p ++ wrapNullChecks s (cs.map (·.field)) ++ q) = .ok r ∧
          r <+: s ∧ r ≠ s) ∨
        ∃ e, stripNullChecks (p ++ wrapNullChecks s (cs.map (·.field)) ++ q) = .error e ∧
          e.isUnbalanced = true) := by
  refine ⟨stripSentinel_padded hp hq, fun s cs hcs => ?_⟩
  have hfields : ∀ f ∈ cs.map (·.field), ¬ separator <:+: f := by
    intro f hf
    obtain ⟨c, hc, rfl⟩ := List.mem_map.mp hf
    exact hcs c hc
  rw [stripNullChecks_padded hp hq hfields]
  refine ⟨Group.inside_parenthesized_iff, fun hs => ?_⟩
  cases hinside : Group.inside 0 ('(' :: s ++ [')']) with
  | error e => exact Or.inr ⟨e, rfl, Group.isUnbalanced_of_inside hinside⟩
  | ok r =>
      obtain ⟨hr, hprefix⟩ := Group.prefix_of_inside_parenthesized hinside
      refine Or.inl ⟨r, rfl, hprefix, ?_⟩
      rintro rfl
      exact hs hr

end Padded

/-- A sentinel around the end of a sentinel, two fields around a body that is joined by the
separator, and a body whose first parenthesis closes the group. -/
theorem strip_wrapped_of_misleading_texts :
    stripSentinel (['\t'] ++ wrapSentinel "a) ?: false".toList ++ ['\n']) = "a) ?: false".toList ∧
      stripNullChecks (['\t'] ++ wrapNullChecks "(a OR b)".toList ["[x] OR".toList, "[y]".toList] ++
        ['\n']) = .ok "(a OR b)".toList ∧
      ∃ r, stripNullChecks (['\t'] ++ wrapNullChecks "a) (b".toList [] ++ ['\n']) = .ok r ∧
        r <+: "a) (b".toList ∧ r ≠ "a) (b".toList := by
  have hblank : ∀ c ∈ ['\t'], isBlank c = true := List.forall_mem_singleton.mpr (by decide)
  have hfeed : ∀ c ∈ ['\n'], isBlank c = true := List.forall_mem_singleton.mpr (by decide)
  obtain ⟨hsentinel, hchecks⟩ := strip_wrapped hblank hfeed
  have hfields : ∀ c ∈ [(⟨"[x] OR".toList, [], []⟩ : Condition), ⟨"[y]".toList, [], []⟩],
      ¬ separator <:+: c.field := by
    decide
  refine ⟨hsentinel _, (hchecks _ _ hfields).1.mpr (by decide), ?_⟩
  rcases (hchecks "a) (b".toList [] (by decide)).2 (by decide) with hpart | ⟨e, he, -⟩
  · exact hpart
  · cases he

end Guard

end FilterWire
