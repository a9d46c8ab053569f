import FilterWire.Proofs.Draft.Document

/-!
# Which comparators make up a registry

A registry is built in one pass that fills the index of the tokens and the
index of the labels. After each turn both hold what has been seen, in order.
The pass succeeds exactly if no token and no label comes twice, and otherwise
tells the first one that does. Either key of a registered comparator leads to
the other one.
-/

namespace FilterWire

theorem Key.length_word (k k' : Key) : k.word.length = k'.word.length := by
  cases k <;> cases k' <;> rfl

theorem Key.word_injective {k k' : Key} (h : k.word = k'.word) : k = k' := by
  cases k <;> cases k' <;> first | rfl | exact absurd h (by decide)

/-- A message tells the kind of the key, and the key. -/
theorem Duplicate.message_injective {d d' : Duplicate} (h : d.message = d'.message) : d = d' := by
  obtain ⟨k, t⟩ := d
  obtain ⟨k', t'⟩ := d'
  unfold message at h
  rw [List.append_assoc, List.append_assoc, List.append_assoc, List.append_assoc] at h
  have hrest : k.word ++ (": ".toList ++ t) = k'.word ++ (": ".toList ++ t') :=
    List.append_cancel_left h
  obtain ⟨hword, htext⟩ := List.append_inj hrest (Key.length_word k k')
  have hkey : t = t' := List.append_cancel_left htext
  rw [Key.word_injective hword, hkey]

namespace Registry

/-- No two comparators share a token, and no two share a label. -/
def Distinct (cs : List Comparator) : Prop :=
  (cs.map (·.token)).Nodup ∧ (cs.map (·.label)).Nodup

/-- What a comparator has in common with those before it: a token, or else a label. -/
inductive Clash (before : List Comparator) (c : Comparator) : Duplicate → Prop
  | token (h : c.token ∈ before.map (·.token)) : Clash before c ⟨.token, c.token⟩
  | label (hfresh : c.token ∉ before.map (·.token)) (h : c.label ∈ before.map (·.label)) :
      Clash before c ⟨.label, c.label⟩

variable {seen cs : List Comparator} {c : Comparator} {d d' : Duplicate} {ix : Indexes}

theorem distinct_concat_iff : Distinct (seen ++ [c]) ↔
    Distinct seen ∧ c.token ∉ seen.map (·.token) ∧ c.label ∉ seen.map (·.label) := by
  rw [Distinct, List.map_append, List.map_append, List.map_singleton, List.map_singleton,
    ← List.concat_eq_append, ← List.concat_eq_append, List.nodup_concat, List.nodup_concat]
  constructor
  · rintro ⟨⟨htoken, htokens⟩, hlabel, hlabels⟩
    exact ⟨⟨htokens, hlabels⟩, htoken, hlabel⟩
  · rintro ⟨⟨htokens, hlabels⟩, htoken, hlabel⟩
    exact ⟨⟨htoken, htokens⟩, hlabel, hlabels⟩

theorem Distinct.of_append (h : Distinct (seen ++ cs)) : Distinct seen := by
  rw [Distinct, List.map_append, List.map_append] at h
  exact ⟨h.1.of_append_left, h.2.of_append_left⟩

theorem Clash.unique (h : Clash seen c d) (h' : Clash seen c d') : d = d' := by
  cases h with
  | token h =>
      cases h' with
      | token => rfl
      | label hfresh => exact absurd h hfresh
  | label hfresh h =>
      cases h' with
      | token h' => exact absurd h' hfresh
      | label => rfl

theorem clash_iff_message : Clash seen c d ↔
    c.token ∈ seen.map (·.token) ∧
        d.message = "Duplicate comparator token: ".toList ++ c.token ∨
      c.token ∉ seen.map (·.token) ∧ c.label ∈ seen.map (·.label) ∧
        d.message = "Duplicate comparator label: ".toList ++ c.label := by
  constructor
  · rintro (h | ⟨hfresh, h⟩)
    · exact Or.inl ⟨h, rfl⟩
    · exact Or.inr ⟨hfresh, h, rfl⟩
  · rintro (⟨h, hmessage⟩ | ⟨hfresh, h, hmessage⟩)
    · have hd : d = ⟨.token, c.token⟩ := Duplicate.message_injective hmessage
      rw [hd]
      exact .token h
    · have hd : d = ⟨.label, c.label⟩ := Duplicate.message_injective hmessage
      rw [hd]
      exact .label hfresh h

/-! ## One turn -/

theorem distinct_of_hold (h : ix.Hold cs) : Distinct cs :=
  ⟨h.nodup .token, h.nodup .label⟩

theorem hold_byToken (h : ix.Hold cs) : ix.byToken = cs.map fun c => (c.token, c) :=
  h.entries .token

theorem hold_byLabel (h : ix.Hold cs) : ix.byLabel = cs.map fun c => (c.label, c) :=
  h.entries .label

/-- What is in the indexes decides over the next comparator. -/
theorem add_eq (h : ix.Hold seen) (c : Comparator) : ix.add c =
    if c.token ∈ seen.map (·.token) then .error ⟨.token, c.token⟩
    else if c.label ∈ seen.map (·.label) then .error ⟨.label, c.label⟩
    else .ok ⟨ix.byToken.set c.token c, ix.byLabel.set c.label c⟩ := by
  have htokens : ix.byToken.keys = seen.map (·.token) := h.keys .token
  have hlabels : ix.byLabel.keys = seen.map (·.label) := h.keys .label
  rw [Indexes.add, htokens, hlabels]

theorem add_eq_error_iff (h : ix.Hold seen) : ix.add c = .error d ↔ Clash seen c d := by
  rw [add_eq h]
  split
  case isTrue htoken =>
      have hclash : Clash seen c ⟨.token, c.token⟩ := .token htoken
      exact ⟨fun heq => Except.error.inj heq ▸ hclash, fun hd => congrArg _ (hclash.unique hd)⟩
  split
  case isTrue htoken hlabel =>
      have hclash : Clash seen c ⟨.label, c.label⟩ := .label htoken hlabel
      exact ⟨fun heq => Except.error.inj heq ▸ hclash, fun hd => congrArg _ (hclash.unique hd)⟩
  case isFalse htoken hlabel =>
      refine iff_of_false (by rintro ⟨⟩) ?_
      rintro (htoken' | ⟨-, hlabel'⟩)
      · exact htoken htoken'
      · exact hlabel hlabel'

theorem exists_add_iff (h : ix.Hold seen) :
    (∃ ix', ix.add c = .ok ix') ↔ Distinct (seen ++ [c]) := by
  rw [add_eq h, distinct_concat_iff]
  split
  case isTrue htoken =>
      exact iff_of_false (by rintro ⟨_, ⟨⟩⟩) fun hnew => hnew.2.1 htoken
  split
  case isTrue htoken hlabel =>
      exact iff_of_false (by rintro ⟨_, ⟨⟩⟩) fun hnew => hnew.2.2 hlabel
  case isFalse htoken hlabel =>
      exact iff_of_true ⟨_, rfl⟩ ⟨distinct_of_hold h, htoken, hlabel⟩

/-! ## The pass -/

theorem exists_addAll_iff (h : ix.Hold seen) :
    (∃ ix', ix.addAll cs = .ok ix') ↔ Distinct (seen ++ cs) := by
  constructor
  · rintro ⟨ix', hall⟩
    exact distinct_of_hold (h.addAll_eq_ok hall)
  · intro hdistinct
    induction cs generalizing ix seen with
    | nil => exact ⟨ix, rfl⟩
    | cons c cs ih =>
        rw [List.append_cons] at hdistinct
        obtain ⟨next, hadd⟩ := (exists_add_iff h).mpr hdistinct.of_append
        rw [Indexes.addAll_cons, hadd]
        exact ih (h.add_eq_ok hadd) hdistinct

/-- The pass fails with the turn that fails. -/
theorem addAll_eq_error_iff : ix.addAll cs = .error d ↔
    ∃ before c after ix', cs = before ++ c :: after ∧ ix.addAll before = .ok ix' ∧
      ix'.add c = .error d := by
  induction cs generalizing ix with
  | nil =>
      refine iff_of_false (by rintro ⟨⟩) ?_
      rintro ⟨before, c, after, -, hcs, -⟩
      exact List.append_ne_nil_of_right_ne_nil before (List.cons_ne_nil c after) hcs.symm
  | cons c cs ih =>
      rw [Indexes.addAll_cons]
      constructor
      · intro h
        cases hadd : ix.add c with
        | error d' =>
            rw [hadd] at h
            exact ⟨[], c, cs, ix, rfl, rfl, hadd.trans h⟩
        | ok next =>
            rw [hadd] at h
            obtain ⟨before, c', after, ix', rfl, hbefore, hfail⟩ := ih.mp h
            refine ⟨c :: before, c', after, ix', rfl, ?_, hfail⟩
            rw [Indexes.addAll_cons, hadd]
            exact hbefore
      · rintro ⟨before, c', after, ix', hcs, hbefore, hfail⟩
        cases before with
        | nil =>
            obtain ⟨rfl, rfl⟩ := List.cons.inj hcs
            obtain rfl := Except.ok.inj hbefore
            rw [hfail]
            rfl
        | cons x before =>
            obtain ⟨rfl, rfl⟩ := List.cons.inj hcs
            rw [Indexes.addAll_cons] at hbefore
            obtain ⟨next, hadd, hrest⟩ := bind_eq_ok_iff.mp hbefore
            rw [hadd]
            exact ih.mpr ⟨before, c', after, ix', rfl, hrest, hfail⟩

/-! ## The registry -/

variable {r : Registry}

theorem hold_of_ofList (h : ofList cs = .ok r) : r.Hold cs := by
  rw [ofList] at h
  split at h
  case h_1 => cases h
  case h_2 ix hall =>
      obtain rfl := Except.ok.inj h
      exact Indexes.hold_empty.addAll_eq_ok hall

theorem exists_ofList_iff : (∃ r, ofList cs = .ok r) ↔ Distinct cs := by
  refine Iff.trans ?_ (exists_addAll_iff Indexes.hold_empty)
  rw [ofList]
  split
  case h_1 d hall =>
      rw [hall]
      exact iff_of_false (by rintro ⟨_, ⟨⟩⟩) (by rintro ⟨_, ⟨⟩⟩)
  case h_2 ix hall => exact iff_of_true ⟨_, rfl⟩ ⟨ix, hall⟩

theorem ofList_eq_error_iff : ofList cs = .error d ↔
    ∃ before c after, cs = before ++ c :: after ∧ Distinct before ∧ Clash before c d := by
  have hpass : ofList cs = .error d ↔ Indexes.empty.addAll cs = .error d := by
    rw [ofList]
    split
    case h_1 d' hall => rw [hall, Except.error.injEq, Except.error.injEq]
    case h_2 ix hall =>
        refine iff_of_false (by rintro ⟨⟩) fun hfail => ?_
        cases hall.symm.trans hfail
  rw [hpass, addAll_eq_error_iff]
  constructor
  · rintro ⟨before, c, after, ix, hcs, hbefore, hfail⟩
    have hix : ix.Hold before := Indexes.hold_empty.addAll_eq_ok hbefore
    exact ⟨before, c, after, hcs, distinct_of_hold hix, (add_eq_error_iff hix).mp hfail⟩
  · rintro ⟨before, c, after, hcs, hdistinct, hclash⟩
    obtain ⟨ix, hbefore⟩ := (exists_addAll_iff Indexes.hold_empty).mpr hdistinct
    have hix : ix.Hold before := Indexes.hold_empty.addAll_eq_ok hbefore
    exact ⟨before, c, after, ix, hcs, hbefore, (add_eq_error_iff hix).mpr hclash⟩

/-- The standard comparators, registered one after the other, make up the standard registry. -/
theorem ofList_standard : ofList Comparator.all = .ok standard := by
  obtain ⟨r, hr⟩ := exists_ofList_iff.mpr (distinct_of_hold standard.hold_comparators)
  have hall : standard.comparators = Comparator.all := rfl
  rw [hall] at hr
  have hhold := hold_of_ofList hr
  obtain ⟨⟨byToken, byLabel⟩, _⟩ := r
  obtain rfl : byToken = _ := hold_byToken hhold
  obtain rfl : byLabel = _ := hold_byLabel hhold
  exact hr

theorem lookup_eq_ok_iff {k : Key} {t : Text} :
    r.lookup k (.str t) = .ok c ↔ c ∈ r.comparators ∧ k.of c = t := by
  rw [lookup_str, ← find?_eq_some_iff]
  cases r.find? k t with
  | none => exact iff_of_false (by rintro ⟨⟩) (by rintro ⟨⟩)
  | some c' => rw [Except.ok.injEq, Option.some.injEq]

theorem lookup_of_unregistered {k : Key} {t : Text} (h : ∀ c ∈ r.comparators, k.of c ≠ t) :
    r.lookup k (.str t) = .error (.codec (.unknown k (.str t))) := by
  rw [lookup_str]
  cases hfind : r.find? k t with
  | none => rfl
  | some c =>
      obtain ⟨hc, hkey⟩ := find?_eq_some_iff.mp hfind
      exact absurd hkey (h c hc)

/-- A list is a registry exactly if its tokens and its labels are distinct. Both indexes then have
all of it in order, and either key leads to the other one. While they are filled they have what has
been seen. If the list is refused, the first comparator is told that shares a key with one before
it, by its token if it shares both. -/
theorem ofList_indexes (cs : List Comparator) :
    ((∃ r, ofList cs = .ok r) ↔ (cs.map (·.token)).Nodup ∧ (cs.map (·.label)).Nodup) ∧
    (∀ r, ofList cs = .ok r →
      r.byToken = (cs.map fun c => (c.token, c)) ∧ r.byLabel = (cs.map fun c => (c.label, c)) ∧
      r.size = cs.length ∧ r.comparators = cs ∧
      r.tokens = cs.map (·.token) ∧ r.labels = cs.map (·.label) ∧
      ∀ k : Key,
        (∀ t c, r.lookup k (.str t) = .ok c ↔ c ∈ cs ∧ k.of c = t) ∧
        (∀ t, t ∉ cs.map k.of → r.lookup k (.str t) = .error (.codec (.unknown k (.str t)))) ∧
        ∀ t ∈ cs.map k.of, ∀ k' : Key, ∃ c c', r.lookup k (.str t) = .ok c ∧
          r.lookup k' (.str (k'.of c)) = .ok c' ∧ k.of c' = t) ∧
    (∀ before ix, before <+: cs → Indexes.empty.addAll before = .ok ix →
      ix.byToken = (before.map fun c => (c.token, c)) ∧
      ix.byLabel = (before.map fun c => (c.label, c))) ∧
    ∀ d, ofList cs = .error d ↔ ∃ before c after, cs = before ++ c :: after ∧
      (before.map (·.token)).Nodup ∧ (before.map (·.label)).Nodup ∧
      (c.token ∈ before.map (·.token) ∧
          d.message = "Duplicate comparator token: ".toList ++ c.token ∨
        c.token ∉ before.map (·.token) ∧ c.label ∈ before.map (·.label) ∧
          d.message = "Duplicate comparator label: ".toList ++ c.label) := by
  refine ⟨exists_ofList_iff, fun r hr => ?_, fun before ix _ hbefore => ?_, fun d => ?_⟩
  · have hhold := hold_of_ofList hr
    obtain rfl := comparators_of_hold hhold
    refine ⟨hold_byToken hhold, hold_byLabel hhold, (List.length_map _).symm, rfl,
      hhold.keys .token, hhold.keys .label,
      fun k => ⟨fun t c => lookup_eq_ok_iff, fun t ht => ?_, ?_⟩⟩
    · exact lookup_of_unregistered fun c hc hkey => ht (List.mem_map.mpr ⟨c, hc, hkey⟩)
    · rintro t ht k'
      obtain ⟨c, hc, rfl⟩ := List.mem_map.mp ht
      exact ⟨c, c, lookup_eq_ok_iff.mpr ⟨hc, rfl⟩, lookup_eq_ok_iff.mpr ⟨hc, rfl⟩, rfl⟩
  · have hhold : ix.Hold before := Indexes.hold_empty.addAll_eq_ok hbefore
    exact ⟨hold_byToken hhold, hold_byLabel hhold⟩
  · simp only [ofList_eq_error_iff, clash_iff_message, Distinct, and_assoc]

/-- The last comparator has its label from the first and its token from the second. -/
theorem ofList_indexes_of_two_clashes :
    let first : Comparator := { token := "A".toList, label := "x".toList }
    let second : Comparator := { token := "B".toList, label := "y".toList }
    let third : Comparator := { token := "B".toList, label := "x".toList }
    (∃ r, ofList [first, second] = .ok r ∧ r.lookup .label (.str "y".toList) = .ok second ∧
      r.lookup .token (.str "x".toList) = .error (.codec (.unknown .token (.str "x".toList)))) ∧
    ofList [first, second, third] = .error ⟨.token, "B".toList⟩ := by
  intro first second third
  obtain ⟨hregistry, hindexes, -⟩ := ofList_indexes [first, second]
  obtain ⟨-, -, -, hduplicate⟩ := ofList_indexes [first, second, third]
  constructor
  · obtain ⟨r, hr⟩ := hregistry.mpr (by decide)
    obtain ⟨-, -, -, -, -, -, hlookup⟩ := hindexes r hr
    exact ⟨r, hr, ((hlookup .label).1 _ _).mpr (by decide), (hlookup .token).2.1 _ (by decide)⟩
  · exact (hduplicate _).mpr ⟨[first, second], third, [], rfl, by decide, by decide,
      Or.inl ⟨by decide, rfl⟩⟩

end Registry

end FilterWire
