import FilterWire.Command.Run
import FilterWire.Proofs.Draft.Validation
import FilterWire.Proofs.FilterSet.Surrogate

/-!
# Filter sets with surrogates

From the two readings of a row of code points the row comes back. So reading an
expression keeps the surrogates of its queries, and where no query has any, it
gives what it gives for a text.
-/

namespace FilterWire

/-! ## Back from the readings -/

theorem Twin.exists_code {c d : Char} (h : Twin c d) : ∃ n, c = Text.lossyChar n ∧
    d = Text.markedChar n ∧ Text.codeOf c.toNat d.toNat = n := by
  cases h with
  | same =>
      have hnone := isSurrogate_toNat c
      refine ⟨c.toNat, ?_, ?_, by rw [Text.codeOf, if_pos rfl]⟩
      · rw [Text.lossyChar, hnone, if_neg Bool.false_ne_true, Char.ofNat_toNat]
      · rw [Text.markedChar, hnone, if_neg Bool.false_ne_true, Char.ofNat_toNat]
  | @surrogate n h =>
      refine ⟨n, rfl, rfl, ?_⟩
      have hmarked := toNat_markedChar h
      rw [isSurrogate, decide_eq_true_iff] at h
      rw [toNat_lossyChar (decide_eq_true h), hmarked, Text.codeOf]
      split <;> omega

theorem Twins.exists_codes {q q' : Text} (h : Twins q q') : ∃ codes,
    q = Text.ofCodesLossy codes ∧ q' = Text.ofCodesMarked codes ∧
      EntryKey.ofReadings q q' = .ofCodes codes := by
  have hcodes : ∃ codes, q = Text.ofCodesLossy codes ∧ q' = Text.ofCodesMarked codes ∧
      List.zipWith Text.codeOf (q.map (·.toNat)) (q'.map (·.toNat)) = codes := by
    induction h with
    | nil => exact ⟨[], rfl, rfl, rfl⟩
    | cons hc _ ih =>
        obtain ⟨n, rfl, rfl, hn⟩ := hc.exists_code
        obtain ⟨codes, rfl, rfl, hcodes⟩ := ih
        refine ⟨n :: codes, rfl, rfl, ?_⟩
        rw [List.map_cons, List.map_cons, List.zipWith_cons_cons, hn, hcodes]
  obtain ⟨codes, hq, hq', hcodes⟩ := hcodes
  exact ⟨codes, hq, hq', congrArg EntryKey.ofCodes hcodes⟩

/-- What has no surrogate is its own reading. -/
theorem EntryKey.ofCodes_eq_text {codes : List Nat} {t : Text} (h : ofCodes codes = .text t) :
    Text.ofCodesLossy codes = t := by
  rw [ofCodes, Text.ofCodes?] at h
  by_cases hany : codes.any isSurrogate = true
  · rw [if_pos hany] at h
    cases h
  · rw [if_neg hany] at h
    obtain rfl := EntryKey.text.inj h
    refine List.map_congr_left fun n hn => ?_
    rw [Text.lossyChar, if_neg fun hs => hany (List.any_eq_true.mpr ⟨n, hn, hs⟩)]

namespace Value

variable {q q' : Text}

theorem isUnpaired_ofKey {k : EntryKey} : (ofKey k).isUnpaired = false ↔ ∃ t, k = .text t := by
  cases k with
  | text t => exact iff_of_true rfl ⟨t, rfl⟩
  | unpaired codes => exact iff_of_false (by rintro ⟨⟩) (by rintro ⟨_, ⟨⟩⟩)

theorem ofReadings_of_paired (h : Twins q q')
    (hpaired : (ofReadings (.str q) (.str q')).isUnpaired = false) :
    ofReadings (.str q) (.str q') = .str q := by
  obtain ⟨codes, rfl, rfl, hcodes⟩ := h.exists_codes
  rw [ofReadings] at hpaired ⊢
  obtain ⟨t, ht⟩ := isUnpaired_ofKey.mp hpaired
  rw [ht]
  rw [EntryKey.ofCodes_eq_text (hcodes.symm.trans ht)]
  rfl

theorem ofReadings_self (q : Text) : ofReadings (.str q) (.str q) = .str q := by
  have hcodes : List.zipWith Text.codeOf (q.map Char.toNat) (q.map Char.toNat) =
      q.map Char.toNat := by
    rw [List.zipWith_self]
    exact List.map_id'' (fun n => if_pos rfl) _
  rw [ofReadings, EntryKey.ofReadings]
  change ofKey (EntryKey.ofCodes (List.zipWith Text.codeOf (q.map Char.toNat)
    (q.map Char.toNat))) = _
  rw [hcodes, EntryKey.ofCodes_map_toNat]
  rfl

end Value

theorem Condition.Twin.ofReadings_of_paired {c c' : Condition} (h : c.Twin c')
    (hpaired : (ConditionDraft.ofReadings c c').query.isUnpaired = false) :
    ConditionDraft.ofReadings c c' = .ofCondition c := by
  rw [ConditionDraft.ofReadings, ← h.field, Value.ofReadings_self,
    Value.ofReadings_of_paired h.query hpaired]
  rfl

namespace FilterDraft

variable {s s' : FilterSet}

/-- Some query has an unpaired surrogate. -/
def HasUnpaired (d : FilterDraft) : Prop :=
  ∃ c, .condition c ∈ d.entries ∧ c.query.isUnpaired = true

theorem ofReadings_self (s : FilterSet) : ofReadings s s = ofFilterSet s := by
  have hentry : ∀ f : Option Condition, Entry.ofReadings f f = Entry.ofOption f := by
    rintro (_ | c)
    · rfl
    · rw [Entry.ofReadings, ConditionDraft.ofReadings, Value.ofReadings_self, Value.ofReadings_self]
      rfl
  rw [ofReadings, List.zipWith_self]
  simp only [hentry]
  rfl

/-- Without surrogates in the queries the two readings are one. -/
theorem ofReadings_of_paired (h : s.Twin s') (hpaired : ¬ (ofReadings s s').HasUnpaired) :
    ofReadings s s' = ofFilterSet s := by
  have hentries : ∀ {fs fs' : List (Option Condition)},
      List.Forall₂ (Option.Rel Condition.Twin) fs fs' →
      (∀ c, .condition c ∈ List.zipWith Entry.ofReadings fs fs' → c.query.isUnpaired = false) →
      List.zipWith Entry.ofReadings fs fs' = fs.map Entry.ofOption := by
    intro fs fs' hfs hnone
    induction hfs with
    | nil => rfl
    | cons hf hfs ih =>
        rw [List.zipWith_cons_cons] at hnone
        rw [List.zipWith_cons_cons, List.map_cons,
          ih fun c hc => hnone c (List.mem_cons_of_mem _ hc)]
        cases hf with
        | none => rfl
        | some hc =>
            have hquery := hnone _ List.mem_cons_self
            rw [Entry.ofReadings, hc.ofReadings_of_paired hquery]
            rfl
  rw [ofReadings, hentries h.filters fun c hc =>
    Bool.eq_false_iff.mpr fun hunpaired => hpaired ⟨c, hc, hunpaired⟩]
  rfl

theorem not_hasUnpaired_ofFilterSet (s : FilterSet) : ¬ (ofFilterSet s).HasUnpaired := by
  rintro ⟨c, hc, hunpaired⟩
  obtain ⟨f, -, hf⟩ := List.mem_map.mp hc
  cases f with
  | none => cases hf
  | some c' =>
      obtain rfl := Entry.condition.inj hf
      cases hunpaired

end FilterDraft

/-! ## Reading words -/

namespace Expression

variable {strict : Bool} {w : Word} {d : FilterDraft}

theorem twins_word (w : Word) : Twins w.reading w.marked := by
  cases w with
  | text t => exact .refl t
  | unpaired codes => exact .ofCodes codes

theorem outcome_decode_str (strict : Bool) (t : Text) :
    (decode strict (.str t)).outcome = (FilterSet.decode strict t).outcome.mapError .codec := by
  have h := decode_ofOption strict (some t)
  exact congrArg Logged.outcome h

theorem decodeDraft_str (strict : Bool) (t : Text) : decodeDraft strict (.str t) =
    decode strict (.str t) >>= fun s => pure (.ofFilterSet s) := rfl

theorem twin_of_decode {s s' : FilterSet}
    (hs : (FilterSet.decode strict w.reading).outcome = .ok s)
    (hs' : (FilterSet.decode strict w.marked).outcome = .ok s') : s.Twin s' := by
  have h := (twins_word w).filterSet strict
  rw [hs, hs'] at h
  cases h with
  | ok h => exact h

/-- A word is read in its two readings, which give those of the filter set. -/
theorem outcome_decodeDraft_eq_ok_iff : (decodeDraft strict (.ofKey w)).outcome = .ok d ↔
    ∃ s s', (FilterSet.decode strict w.reading).outcome = .ok s ∧
      (FilterSet.decode strict w.marked).outcome = .ok s' ∧ d = .ofReadings s s' := by
  cases w with
  | text t =>
      rw [Value.ofKey, decodeDraft_str, Logged.outcome_bind, outcome_decode_str]
      simp only [Logged.outcome_pure, bind_eq_ok_iff, mapError_eq_ok_iff, Except.ok.injEq]
      constructor
      · rintro ⟨s, hs, rfl⟩
        exact ⟨s, s, hs, hs, (FilterDraft.ofReadings_self s).symm⟩
      · rintro ⟨s, s', hs, hs', rfl⟩
        obtain rfl := Except.ok.inj (hs.symm.trans hs')
        exact ⟨s, hs, (FilterDraft.ofReadings_self s).symm⟩
  | unpaired codes =>
      rw [Value.ofKey, decodeDraft]
      simp only [Logged.outcome_bind, Logged.outcome_ofExcept, outcome_decode_str,
        Logged.outcome_pure, bind_eq_ok_iff, mapError_eq_ok_iff, Except.ok.injEq]
      constructor
      · rintro ⟨s, hs, s', hs', rfl⟩
        exact ⟨s, s', hs, hs', rfl⟩
      · rintro ⟨s, s', hs, hs', rfl⟩
        exact ⟨s, hs, s', hs', rfl⟩

/-- The second reading fails only with the first one. -/
theorem exists_decodeDraft_iff : (∃ d, (decodeDraft strict (.ofKey w)).outcome = .ok d) ↔
    ∃ s, (FilterSet.decode strict w.reading).outcome = .ok s := by
  constructor
  · rintro ⟨d, hd⟩
    obtain ⟨s, -, hs, -⟩ := outcome_decodeDraft_eq_ok_iff.mp hd
    exact ⟨s, hs⟩
  · rintro ⟨s, hs⟩
    have h := (twins_word w).filterSet strict
    rw [hs] at h
    cases hs' : (FilterSet.decode strict w.marked).outcome with
    | error e =>
        rw [hs'] at h
        cases h
    | ok s' => exact ⟨_, outcome_decodeDraft_eq_ok_iff.mpr ⟨s, s', hs, hs', rfl⟩⟩

/-- Without surrogates in its queries a word is read like a text. -/
theorem eq_ofFilterSet_of_paired (h : (decodeDraft strict (.ofKey w)).outcome = .ok d)
    (hpaired : ¬ d.HasUnpaired) :
    ∃ s, (FilterSet.decode strict w.reading).outcome = .ok s ∧ d = .ofFilterSet s := by
  obtain ⟨s, s', hs, hs', rfl⟩ := outcome_decodeDraft_eq_ok_iff.mp h
  exact ⟨s, hs, FilterDraft.ofReadings_of_paired (twin_of_decode hs hs') hpaired⟩

end Expression

end FilterWire
