import FilterWire.FilterSet.Condition
import FilterWire.Proofs.Comparator.Naming
import FilterWire.Proofs.Logged

/-!
# Writing a condition and reading it again

A condition on one line with a proper field is read again with its field,
under the comparator that the reader finds. It comes back unchanged
exactly if that comparator is its own.
-/

namespace FilterWire.Condition

open Comparator (standard_cases)

/-- What is read where a condition was written. -/
def transmit (legacy : Bool) (c : Condition) : Logged CodecError (Option Condition) := do
  decode (← encode legacy c)

variable {legacy : Bool} {c d : Condition} {k : Comparator}

/-! ## Writing -/

/-- Under a known label nothing is noted but that the name in the call hides the comparator. -/
theorem encode_eq (hk : k ∈ Registry.standard.comparators) (hlabel : k.label = c.option) :
    encode legacy c =
      ⟨if k.isLossy legacy then [.sentAs k.token (k.nameFor legacy)] else [],
        .ok (toCall legacy k c).text⟩ := by
  have hfind : Registry.standard.find? .label c.option = some k :=
    Registry.find?_eq_some_iff.mpr ⟨hk, hlabel⟩
  rw [encode, hfind]
  dsimp only
  split <;> rfl

theorem outcome_encode (hk : k ∈ Registry.standard.comparators) (hlabel : k.label = c.option) :
    (encode legacy c).outcome = .ok (toCall legacy k c).text := by
  rw [encode_eq hk hlabel]

/-! ## Reading -/

theorem outcome_decode_of_absent {t : Text} (h : Call.find? t = none) :
    (decode t).outcome = .ok none := by
  rw [decode, h]
  rfl

theorem outcome_decode_of_call {t : Text} {call : Call} (h : Call.find? t = some call) :
    (decode t).outcome = (ofCall call).map some := by
  rw [decode, h]
  simp only [Logged.outcome_bind, Logged.outcome_ofExcept]
  cases ofCall call <;> rfl

/-- Whatever is read comes from a call. -/
theorem exists_call_of_decode {t : Text} (h : (decode t).outcome = .ok (some d)) :
    ∃ call k, Call.find? t = some call ∧ comparatorOf call = .ok k ∧
      d = ⟨call.field, k.label, k.codec.decode call.value⟩ := by
  cases hfind : Call.find? t with
  | none =>
      rw [outcome_decode_of_absent hfind] at h
      cases h
  | some call =>
      rw [outcome_decode_of_call hfind, ofCall] at h
      cases hk : comparatorOf call with
      | error e =>
          rw [hk] at h
          cases h
      | ok k =>
          rw [hk] at h
          exact ⟨call, k, rfl, hk, (Option.some.inj (Except.ok.inj h)).symm⟩

/-- Whatever is read has a field in square brackets and a query on one line. -/
theorem shape_of_decode {t : Text} (h : (decode t).outcome = .ok (some d)) :
    IsReference d.field ∧ '\n' ∉ d.query := by
  obtain ⟨call, k, hfind, -, rfl⟩ := exists_call_of_decode h
  obtain ⟨hcall, -⟩ := Call.spelled_of_find? hfind
  exact ⟨hcall.field, fun hmem =>
    hcall.value_oneLine ((k.codec.decode_infix_self call.value).subset hmem)⟩

theorem comparatorOf_token {call : Call} (hk : k ∈ Registry.standard.comparators)
    (hname : k.token = call.name) : comparatorOf call = .ok k := by
  have hshared : call.name ≠ Comparator.sharedName := hname ▸ Comparator.token_ne_sharedName k hk
  have hfind : Registry.standard.find? .token call.name = some k :=
    Registry.find?_eq_some_iff.mpr ⟨hk, hname⟩
  rw [comparatorOf, if_neg hshared, hfind]

theorem comparatorOf_toCall (hk : k ∈ Registry.standard.comparators) :
    comparatorOf (toCall legacy k c) = .ok (k.readAs legacy (k.codec.encode c.query)) := by
  rw [Comparator.readAs]
  by_cases hshared : k.nameFor legacy = Comparator.sharedName
  · rw [comparatorOf, toCall, if_pos hshared, if_pos hshared]
  · have htoken : k.token = k.nameFor legacy := by
      rw [Comparator.nameFor] at hshared ⊢
      split at hshared
      · exact absurd rfl hshared
      · rw [if_neg ‹_›]
    rw [if_neg hshared]
    exact comparatorOf_token hk htoken

/-- A character of no bracket stands in a value only if it stands in the query. -/
theorem notMem_encode (hk : k ∈ Registry.standard.comparators) {q : Text} {x : Char}
    (hx : x ∉ Comparator.bracketChars) (hq : x ∉ q) : x ∉ k.codec.encode q := by
  obtain ⟨opening, closing, hencode, hopening, hclosing⟩ := Comparator.exists_brackets hk
  rw [hencode]
  intro hmem
  rcases List.mem_append.mp hmem with hmem | hmem
  · rcases List.mem_append.mp hmem with hmem | hmem
    · exact hx (hopening hmem)
    · exact hq hmem
  · exact hx (hclosing hmem)

/-- The brackets of a comparator hold no line feed, so a value is on one line with its query. -/
theorem value_oneLine (hk : k ∈ Registry.standard.comparators) {q : Text} (hq : '\n' ∉ q) :
    '\n' ∉ k.codec.encode q :=
  notMem_encode hk (by decide) hq

/-- The text of a condition is read as its field with what the reader makes of the value; an
empty value leaves no call to read. -/
theorem outcome_decode_toCall (hk : k ∈ Registry.standard.comparators)
    (hfield : IsReference c.field) (hquery : '\n' ∉ c.query) :
    (decode (toCall legacy k c).text).outcome = .ok (if k.codec.encode c.query = [] then none else
      some ⟨c.field, (k.readAs legacy (k.codec.encode c.query)).label,
        (k.readAs legacy (k.codec.encode c.query)).codec.decode (k.codec.encode c.query)⟩) := by
  have hfind : Call.find? (toCall legacy k c).text =
      if k.codec.encode c.query = [] then none else some (toCall legacy k c) :=
    Call.find?_text (Comparator.isWord_nameFor legacy k hk) hfield (value_oneLine hk hquery)
  by_cases hempty : k.codec.encode c.query = []
  · rw [if_pos hempty] at hfind ⊢
    exact outcome_decode_of_absent hfind
  · rw [if_neg hempty] at hfind ⊢
    rw [outcome_decode_of_call hfind, ofCall, comparatorOf_toCall hk]
    rfl

theorem outcome_transmit (hk : k ∈ Registry.standard.comparators) (hlabel : k.label = c.option)
    (hfield : IsReference c.field) (hquery : '\n' ∉ c.query) :
    (transmit legacy c).outcome = .ok (if k.codec.encode c.query = [] then none else
      some ⟨c.field, (k.readAs legacy (k.codec.encode c.query)).label,
        (k.readAs legacy (k.codec.encode c.query)).codec.decode (k.codec.encode c.query)⟩) := by
  rw [transmit, Logged.outcome_bind, outcome_encode hk hlabel]
  exact outcome_decode_toCall hk hfield hquery

/-- The text comparators whose values have no brackets. -/
def unbracketedTexts : List Text :=
  ["Text does not contain".toList, "Text is exactly".toList, "Text length is less than".toList,
    "Text length is greater than".toList]

/-- Whether the option can be told from the written form. -/
def Restorable (legacy : Bool) (c : Condition) : Prop :=
  c.option = "Text contains".toList ∨
  c.option = "Text starts with".toList ∧ ¬ ['[', '.', '*'] <:+: c.query ∨
  c.option = "Text ends with".toList ∧ ¬ ['.', '*', ']'] <:+: c.query ∨
  (c.option ≠ "Text contains".toList ∧ c.option ≠ "Text starts with".toList ∧
    c.option ≠ "Text ends with".toList) ∧ c.query ≠ [] ∧
    ¬ (legacy = true ∧ c.option ∈ unbracketedTexts)

theorem plain_labels : ∀ k ∈ Registry.standard.comparators, k.codec = .plain →
    k.label ≠ "Text contains".toList ∧ k.label ≠ "Text starts with".toList ∧
      k.label ≠ "Text ends with".toList ∧
      (k.isTextComparator = true ↔ k.label ∈ unbracketedTexts) := by
  decide

theorem restorable_startsWith (h : c.option = "Text starts with".toList) :
    Restorable legacy c ↔ ¬ ['[', '.', '*'] <:+: c.query := by
  constructor
  · rintro (hoption | ⟨-, hquery⟩ | ⟨hoption, -⟩ | ⟨⟨-, hoption, -⟩, -⟩)
    · exact absurd (h.symm.trans hoption) (by decide)
    · exact hquery
    · exact absurd (h.symm.trans hoption) (by decide)
    · exact absurd h hoption
  · exact fun hquery => Or.inr (Or.inl ⟨h, hquery⟩)

theorem restorable_endsWith (h : c.option = "Text ends with".toList) :
    Restorable legacy c ↔ ¬ ['.', '*', ']'] <:+: c.query := by
  constructor
  · rintro (hoption | ⟨hoption, -⟩ | ⟨-, hquery⟩ | ⟨⟨-, -, hoption⟩, -⟩)
    · exact absurd (h.symm.trans hoption) (by decide)
    · exact absurd (h.symm.trans hoption) (by decide)
    · exact hquery
    · exact absurd h hoption
  · exact fun hquery => Or.inr (Or.inr (Or.inl ⟨h, hquery⟩))

/-- An option can be told from the written form exactly if the reader finds its comparator. -/
theorem restorable_iff (hk : k ∈ Registry.standard.comparators) (hlabel : k.label = c.option)
    (hquery : '\n' ∉ c.query) :
    Restorable legacy c ↔ k.codec.encode c.query ≠ [] ∧
      k.readAs legacy (k.codec.encode c.query) = k := by
  rcases standard_cases k hk with rfl | rfl | rfl | ⟨hplain, hpattern⟩
  · rw [Comparator.readAs_pattern rfl, Comparator.ofSharedName_contains hquery]
    exact iff_of_true (Or.inl hlabel.symm) ⟨by simp [Comparator.encode_contains], rfl⟩
  · rw [Comparator.readAs_pattern rfl, Comparator.ofSharedName_startsWith_iff hquery,
      restorable_startsWith hlabel.symm]
    exact (and_iff_right (by simp [Comparator.encode_startsWith])).symm
  · rw [Comparator.readAs_pattern rfl, Comparator.ofSharedName_endsWith_iff hquery,
      restorable_endsWith hlabel.symm]
    exact (and_iff_right (by simp [Comparator.encode_endsWith])).symm
  · obtain ⟨hcontains, hstarts, hends, htext⟩ := plain_labels k hk hplain
    rw [Comparator.readAs_plain_iff hk hplain hpattern, htext, hplain, Codec.encode]
    rw [hlabel] at hcontains hstarts hends ⊢
    constructor
    · rintro (hoption | ⟨hoption, -⟩ | ⟨hoption, -⟩ | ⟨-, hrest⟩)
      · exact absurd hoption hcontains
      · exact absurd hoption hstarts
      · exact absurd hoption hends
      · exact hrest
    · exact fun hrest => Or.inr (Or.inr (Or.inr ⟨⟨hcontains, hstarts, hends⟩, hrest⟩))

/-- A condition comes back unchanged exactly if its field is a word in brackets, its query is on
one line, and its option can be told from what is written. -/
theorem transmit_eq_self_iff (hoption : c.option ∈ Registry.standard.labels) :
    (transmit legacy c).outcome = .ok (some c) ↔
      IsReference c.field ∧ '\n' ∉ c.query ∧ Restorable legacy c := by
  obtain ⟨k, hk, hlabel⟩ := Registry.mem_labels_iff.mp hoption
  constructor
  · intro h
    have hshape : IsReference c.field ∧ '\n' ∉ c.query := by
      rw [transmit, Logged.outcome_bind, outcome_encode hk hlabel] at h
      exact shape_of_decode h
    obtain ⟨hfield, hquery⟩ := hshape
    refine ⟨hfield, hquery, (restorable_iff hk hlabel hquery).mpr ?_⟩
    rw [outcome_transmit hk hlabel hfield hquery] at h
    by_cases hempty : k.codec.encode c.query = []
    · rw [if_pos hempty] at h
      cases h
    · rw [if_neg hempty] at h
      have hoption := congrArg Condition.option (Option.some.inj (Except.ok.inj h))
      have hread := Comparator.readAs_mem hk legacy (k.codec.encode c.query)
      exact ⟨hempty, (Comparator.label_eq_iff hread hk).mp (hoption.trans hlabel.symm)⟩
  · rintro ⟨hfield, hquery, hrestorable⟩
    obtain ⟨hvalue, hread⟩ := (restorable_iff hk hlabel hquery).mp hrestorable
    rw [outcome_transmit hk hlabel hfield hquery, if_neg hvalue, hread, Codec.decode_encode, hlabel]

/-- A query that would close the opening bracket and open another one. -/
theorem transmit_of_bracket_query :
    (transmit true ⟨"[name]".toList, "Text ends with".toList, "].*[^".toList⟩).outcome =
      .ok (some ⟨"[name]".toList, "Text ends with".toList, "].*[^".toList⟩) :=
  (transmit_eq_self_iff (by decide)).mpr
    ⟨⟨"name".toList, by decide, rfl⟩, by decide, (restorable_endsWith rfl).mpr (by decide)⟩

end FilterWire.Condition
