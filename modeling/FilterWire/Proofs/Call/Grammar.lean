import FilterWire.Proofs.Call

/-!
# The grammar of calls

The call that is found in a text is the first one that the grammar of calls
allows there: nothing is found only where the grammar allows no call, and
the place of the call that is found, its parts and the blank are determined.
-/

namespace FilterWire.Call

variable {t pre pre' post post' : Text} {call call' : Call} {b b' : Char}

/-- A well-formed call with the blank `b` stands between `pre` and `post`. No word goes on from
`pre` into it, and its last parenthesis is the last closing one on the line. -/
structure Occurs (t pre : Text) (call : Call) (b : Char) (post : Text) : Prop where
  wellFormed : call.WellFormed
  blank : isBlank b = true
  text : t = pre ++ call.spelled b ++ post
  outsideWord : ∀ c ∈ pre.getLast?, isWordChar c = false
  lastClosing : ')' ∉ post.takeWhile (· ≠ '\n')

/-- No other call stands before this one. -/
structure OccursFirst (t pre : Text) (call : Call) (b : Char) (post : Text) : Prop
    extends Occurs t pre call b post where
  first : ∀ pre' call' b' post', Occurs t pre' call' b' post' → pre.length ≤ pre'.length

theorem wordGoesOn_eq (inWord : Bool) (t : Text) :
    wordGoesOn inWord t = (t.getLast?.map isWordChar).getD inWord := by
  induction t generalizing inWord with
  | nil => rfl
  | cons c t ih =>
      rw [wordGoesOn, ih, List.getLast?_cons]
      cases t.getLast? <;> rfl

theorem wordGoesOn_eq_false_iff :
    wordGoesOn false pre = false ↔ ∀ c ∈ pre.getLast?, isWordChar c = false := by
  rw [wordGoesOn_eq]
  cases pre.getLast? <;> simp

theorem occurs_iff : Occurs t pre call b post ↔
    wordGoesOn false pre = false ∧ call.WellFormed ∧ isBlank b = true ∧
      t = pre ++ (call.name ++ '(' :: call.field ++ ',' :: b :: (call.value ++ ')' :: post)) ∧
      ')' ∉ post.takeWhile (· ≠ '\n') := by
  rw [wordGoesOn_eq_false_iff]
  constructor
  · rintro ⟨hcall, hb, htext, hpre, hpost⟩
    exact ⟨hpre, hcall, hb, by simpa [spelled] using htext, hpost⟩
  · rintro ⟨hpre, hcall, hb, htext, hpost⟩
    exact ⟨hcall, hb, by simpa [spelled] using htext, hpre, hpost⟩

/-- Where a call stands it is read, whatever is before it. -/
theorem exists_occurs_iff : (∃ b post, Occurs t pre call b post) ↔
    wordGoesOn false pre = false ∧ ∃ r, t = pre ++ r ∧ atHead? r = some call := by
  simp only [occurs_iff, atHead?_eq_some_iff]
  constructor
  · rintro ⟨b, post, hpre, hcall, hb, htext, hpost⟩
    exact ⟨hpre, _, htext, hcall, b, post, hb, rfl, hpost⟩
  · rintro ⟨hpre, _, htext, hcall, b, post, hb, rfl, hpost⟩
    exact ⟨b, post, hpre, hcall, hb, htext, hpost⟩

/-- At one place there is one call at most, in one spelling. -/
theorem Occurs.unique (h : Occurs t pre call b post) (h' : Occurs t pre' call' b' post')
    (hlen : pre.length = pre'.length) : pre = pre' ∧ call = call' ∧ b = b' ∧ post = post' := by
  obtain ⟨-, r, rfl, hr⟩ := exists_occurs_iff.mp ⟨b, post, h⟩
  obtain ⟨-, r', htext, hr'⟩ := exists_occurs_iff.mp ⟨b', post', h'⟩
  obtain ⟨rfl, rfl⟩ := List.append_inj htext hlen
  obtain rfl := Option.some.inj (hr.symm.trans hr')
  have hspelled := h.text.symm.trans h'.text
  simp only [spelled, List.append_assoc, List.cons_append, List.append_cancel_left_eq,
    List.cons.injEq, true_and, List.nil_append] at hspelled
  exact ⟨rfl, rfl, hspelled.1, hspelled.2⟩

theorem find?_eq_some_iff : find? t = some call ↔ ∃ pre b post, OccursFirst t pre call b post := by
  constructor
  · intro h
    obtain ⟨pre, r, htext, hpre, hr, hfirst⟩ := first_of_findFrom h
    obtain ⟨b, post, hoccurs⟩ := exists_occurs_iff.mpr ⟨hpre, r, htext, hr⟩
    refine ⟨pre, b, post, hoccurs, fun pre' call' b' post' h' => ?_⟩
    obtain ⟨hpre', r', htext', hr'⟩ := exists_occurs_iff.mp ⟨b', post', h'⟩
    exact hfirst pre' r' htext' hpre' (by simp [hr'])
  · rintro ⟨pre, b, post, h⟩
    obtain ⟨hpre, r, htext, hr⟩ := exists_occurs_iff.mp ⟨b, post, h.toOccurs⟩
    cases hfind : find? t with
    | none =>
        rw [atHead?_of_findFrom_eq_none hfind htext hpre] at hr
        cases hr
    | some call' =>
        obtain ⟨pre', r', htext', hpre', hr', hfirst'⟩ := first_of_findFrom hfind
        obtain ⟨b', post', h'⟩ := exists_occurs_iff.mpr ⟨hpre', r', htext', hr'⟩
        have hlen : pre.length = pre'.length :=
          Nat.le_antisymm (h.first _ _ _ _ h') (hfirst' pre r htext hpre (by simp [hr]))
        rw [(h.toOccurs.unique h' hlen).2.1]

theorem find?_eq_none_iff : find? t = none ↔ ¬ ∃ pre call b post, Occurs t pre call b post := by
  constructor
  · rintro h ⟨pre, call, b, post, hoccurs⟩
    obtain ⟨hpre, r, htext, hr⟩ := exists_occurs_iff.mp ⟨b, post, hoccurs⟩
    rw [atHead?_of_findFrom_eq_none h htext hpre] at hr
    cases hr
  · intro hnone
    cases h : find? t with
    | none => rfl
    | some call =>
        obtain ⟨pre, b, post, hfirst⟩ := find?_eq_some_iff.mp h
        exact absurd ⟨pre, call, b, post, hfirst.toOccurs⟩ hnone

/-- What is found is the first call that the grammar allows in the text. It stands there in one way
only, and nothing is found exactly if the grammar allows no call anywhere. -/
theorem find?_grammar (t : Text) :
    (∀ call, find? t = some call ↔ ∃ pre b post, OccursFirst t pre call b post) ∧
    (∀ pre call b post pre' call' b' post', OccursFirst t pre call b post →
      OccursFirst t pre' call' b' post' →
        pre = pre' ∧ call = call' ∧ b = b' ∧ post = post') ∧
    (find? t = none ↔ ¬ ∃ pre call b post, Occurs t pre call b post) := by
  refine ⟨fun call => find?_eq_some_iff, ?_, find?_eq_none_iff⟩
  intro pre call b post pre' call' b' post' h h'
  exact h.toOccurs.unique h'.toOccurs
    (Nat.le_antisymm (h.first _ _ _ _ h'.toOccurs) (h'.first _ _ _ _ h.toOccurs))

/-- Behind a word that starts no call, a value with a tab before it takes in another call, up to the
end of the line. -/
theorem find?_grammar_of_greedy_value :
    let t := "x NE([b],\t1) OR LT([c], (2))\n)".toList
    let call : Call := ⟨"NE".toList, "[b]".toList, "1) OR LT([c], (2)".toList⟩
    find? t = some call ∧ ∀ pre call' b post, OccursFirst t pre call' b post →
      pre = "x ".toList ∧ call' = call ∧ b = '\t' ∧ post = "\n)".toList := by
  intro t call
  obtain ⟨hfind, hunique, -⟩ := find?_grammar t
  have hoccurs : Occurs t "x ".toList call '\t' "\n)".toList :=
    ⟨⟨by decide, ⟨['b'], by decide, rfl⟩, by decide, by decide⟩, by decide, rfl,
      wordGoesOn_eq_false_iff.mp rfl, by decide⟩
  have hfirst : OccursFirst t "x ".toList call '\t' "\n)".toList := by
    refine ⟨hoccurs, fun pre' call' b' post' h' => ?_⟩
    obtain ⟨hpre', r', htext, hr'⟩ := exists_occurs_iff.mp ⟨b', post', h'⟩
    rcases pre' with _ | ⟨c, _ | ⟨d, pre'⟩⟩
    · obtain rfl : r' = t := htext.symm
      have hnone : atHead? t = none := by decide
      rw [hnone] at hr'
      cases hr'
    · obtain rfl : c = 'x' := (List.cons.inj htext).1.symm
      cases hpre'
    · exact Nat.le_add_left 2 pre'.length
  refine ⟨(hfind call).mpr ⟨_, _, _, hfirst⟩, fun pre call' b post h => ?_⟩
  exact hunique _ _ _ _ _ _ _ _ h hfirst

end FilterWire.Call
