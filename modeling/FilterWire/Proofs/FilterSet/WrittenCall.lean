import FilterWire.FilterSet.Condition
import FilterWire.Proofs.Comparator.Naming
import FilterWire.Proofs.FilterSet.Combiner
import FilterWire.Proofs.Guard

/-!
# Written calls as pieces

What stands in a written call stands in its name, in its field or in its
value: a combiner, a null check, and parentheses besides the pair of its
own. In a value it stands in the query, since brackets hold none of these.
-/

namespace FilterWire

namespace Call

variable {call : Call}

/-- The first combiner of a call stands in its value. -/
theorem mode_find?_text_append (hname : IsWord call.name) (hfield : IsReference call.field)
    (r : Text) :
    Mode.find? (call.text ++ r) = (Mode.find? (' ' :: call.value)).or (Mode.find? r) := by
  have htext : call.text ++ r =
      call.name ++ '(' :: (call.field ++ ',' :: ((' ' :: call.value) ++ ')' :: r)) := by
    simp [text]
  have hnoName : Mode.find? call.name = none :=
    Mode.find?_eq_none_iff.mpr (not_hasCombiner_of_blankless hname.blankless)
  have hnoField : Mode.find? call.field = none :=
    Mode.find?_eq_none_iff.mpr (not_hasCombiner_of_blankless hfield.blankless)
  rw [htext, Mode.find?_append_cons (by decide) (by decide),
    Mode.find?_append_cons (by decide) (by decide),
    Mode.find?_append_cons (by decide) (by decide), hnoName, hnoField, Option.none_or,
    Option.none_or]

theorem not_hasCombiner_text (hname : IsWord call.name) (hfield : IsReference call.field)
    (h : ¬ HasCombiner (' ' :: call.value)) : ¬ HasCombiner (call.text ++ [' ']) := by
  rw [← Mode.find?_eq_none_iff] at h ⊢
  rw [mode_find?_text_append hname hfield, h]
  rfl

theorem nullCheckName_infix_text_iff :
    Guard.nullCheckName <:+: call.text ↔ Guard.nullCheckName <:+: call.name ∨
      Guard.nullCheckName <:+: call.field ∨ Guard.nullCheckName <:+: call.value := by
  have htext : call.text =
      call.name ++ '(' :: (call.field ++ ',' :: ' ' :: (call.value ++ [')'])) := by
    simp [text]
  have hvalue : Guard.nullCheckName <:+: call.value ++ [')'] ↔
      Guard.nullCheckName <:+: call.value := by
    rw [Text.infix_append_cons_iff (by decide)]
    exact or_iff_left (by decide)
  rw [htext, Text.infix_append_cons_iff (by decide), Text.infix_append_cons_iff (by decide),
    Text.infix_cons_of_notMem_iff (by decide), hvalue]

theorem balanced_text (hname : IsWord call.name) (hfield : IsReference call.field)
    (h : Group.Balanced call.value) : Group.Balanced call.text := by
  have htext : call.text =
      call.name ++ ('(' :: (call.field ++ [',', ' '] ++ call.value) ++ [')']) := by
    simp [text]
  have hreference : Group.Balanced call.field :=
    Group.Balanced.of_notMem (hfield.notMem (by decide) (by decide) (by decide))
      (hfield.notMem (by decide) (by decide) (by decide))
  have hcomma : Group.Balanced [',', ' '] := Group.Balanced.of_notMem (by decide) (by decide)
  rw [htext]
  apply (Group.Balanced.of_notMem (hname.notMem (by decide)) (hname.notMem (by decide))).append
  exact ((hreference.append hcomma).append h).parenthesized

theorem exists_text_eq_concat (call : Call) : ∃ t, call.text = t ++ [')'] :=
  ⟨_, rfl⟩

theorem joiner_infix_text_iff {m : Mode} (hname : IsWord call.name)
    (hfield : IsReference call.field) :
    m.joiner <:+: call.text ↔ m.joiner <:+: ' ' :: call.value := by
  have htext : call.text =
      call.name ++ '(' :: (call.field ++ ',' :: ((' ' :: call.value) ++ ')' :: [])) := by
    simp [text]
  have hblank : ' ' ∈ m.joiner := List.mem_cons_self
  have habsent : ∀ t : Text, (∀ c ∈ t, isBlank c = false) → ¬ m.joiner <:+: t := by
    intro t ht hin
    exact absurd (ht ' ' (hin.subset hblank)) (by decide)
  rw [htext, Text.infix_append_cons_iff (m.notMem_joiner (by decide) (by decide)),
    Text.infix_append_cons_iff (m.notMem_joiner (by decide) (by decide)),
    Text.infix_append_cons_iff (m.notMem_joiner (by decide) (by decide)),
    or_iff_right (habsent _ hname.blankless), or_iff_right (habsent _ hfield.blankless)]
  exact or_iff_left (habsent [] (by simp))

end Call

/-! ## Values -/

namespace Comparator

variable {c : Comparator} {q : Text}

theorem nullCheckName_infix_encode (hc : c ∈ Registry.standard.comparators)
    (h : Guard.nullCheckName <:+: c.codec.encode q) : Guard.nullCheckName <:+: q := by
  obtain ⟨opening, closing, hencode, hopening, hclosing⟩ := exists_brackets hc
  have hfirst : 'I' ∉ opening := fun hmem => absurd (hopening hmem) (by decide)
  have hlast : 'L' ∉ closing := fun hmem => absurd (hclosing hmem) (by decide)
  have hcut : Guard.nullCheckName = ['I', 'S', '_', 'N', 'U', 'L'] ++ ['L'] := rfl
  rw [hencode, hcut, Text.concat_infix_append_iff hlast] at h
  exact (Text.cons_infix_append_iff hfirst).mp h

theorem balanced_encode (hc : c ∈ Registry.standard.comparators) (hq : Group.Balanced q) :
    Group.Balanced (c.codec.encode q) := by
  obtain ⟨opening, closing, hencode, hopening, hclosing⟩ := exists_brackets hc
  have hbrackets : ∀ t : Text, t ⊆ bracketChars → Group.Balanced t := fun t ht =>
    Group.Balanced.of_notMem (fun hmem => absurd (ht hmem) (by decide))
      (fun hmem => absurd (ht hmem) (by decide))
  rw [hencode]
  exact ((hbrackets opening hopening).append hq).append (hbrackets closing hclosing)

theorem nullCheckName_absent_nameFor : ∀ legacy, ∀ c ∈ Registry.standard.comparators,
    ¬ Guard.nullCheckName <:+: c.nameFor legacy := by
  decide

end Comparator

end FilterWire
