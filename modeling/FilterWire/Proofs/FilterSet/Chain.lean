import FilterWire.FilterSet.Validation
import FilterWire.Proofs.Condition.Transmission
import FilterWire.Proofs.FilterSet.Reading
import FilterWire.Proofs.FilterSet.WrittenCall

/-!
# Calls chained by any combiners

The first joint of a chain gives the mode, and only joints that read like
the joiner of that mode cut the chain. A call after any other joint goes
to the piece of the call before it, so a chain is accepted whatever its
joints are and accounts for all its calls exactly if every joint cuts.
-/

namespace FilterWire

/-- What stands between two calls: the word of a combiner between two blanks. -/
structure Joint where
  before : Char
  mode : Mode
  after : Char
  before_blank : isBlank before = true
  after_blank : isBlank after = true

namespace Joint

def text (j : Joint) : Text :=
  j.before :: (j.mode.word ++ [j.after])

theorem joiner_infix_text_iff (j : Joint) (m : Mode) :
    m.joiner <:+: j.text ↔ j.text = m.joiner := by
  refine ⟨fun h => ?_, fun h => h ▸ List.infix_rfl⟩
  have hblank : ' ' ∉ j.mode.word := fun hmem =>
    absurd (Mode.isBlank_of_mem_word hmem) (by decide)
  rcases List.infix_cons_iff.mp h with hhead | htail
  · have hjoiner : m.joiner = ' ' :: (m.word ++ [' ']) := rfl
    rw [hjoiner, List.cons_prefix_cons] at hhead
    obtain ⟨hbefore, r, hr⟩ := hhead
    -- the words differ in their first letter
    have hmode : j.mode = m := by
      cases hm : m <;> cases hj : j.mode <;> simp_all [Mode.word]
    rw [hmode, List.append_assoc, List.append_cancel_left_eq, List.singleton_append] at hr
    rw [text, hjoiner, hmode, ← hbefore, ← (List.cons_eq_cons.mp hr).1]
  · have hlen := ((Text.cons_infix_append_iff hblank).mp htail).length_le
    simp at hlen

end Joint

namespace Call

/-- A call by the token of a comparator for other values than texts, with a single word for its
value. -/
structure Plain (call : Call) : Prop where
  name : ∃ k ∈ Registry.standard.comparators, k.isTextComparator = false ∧ k.token = call.name
  field : IsReference call.field
  value : IsWord call.value
  noNullCheck : ¬ Guard.nullCheckName <:+: call.field ∧ ¬ Guard.nullCheckName <:+: call.value

/-- A call and the calls after it, each behind its joint. -/
def chainText (first : Call) : List (Joint × Call) → Text
  | [] => first.text
  | (j, next) :: rest => first.text ++ (j.text ++ next.chainText rest)

/-- The calls of a chain that stand at the start or behind a joiner. -/
def heads (m : Mode) (first : Call) (rest : List (Joint × Call)) : List Call :=
  first :: (rest.filter fun p => p.1.text = m.joiner).map (·.2)

/-- A filter with the field and the comparator of a call, and with a query that starts with its
value. -/
def Opens (call : Call) (f : Option Condition) : Prop :=
  ∃ k ∈ Registry.standard.comparators, ∃ q, k.token = call.name ∧ call.value <+: q ∧
    f = some ⟨call.field, k.label, q⟩

/-- A filter with the field and the value of a call. -/
def IsReadAs (call : Call) (f : Option Condition) : Prop :=
  ∃ option, f = some ⟨call.field, option, call.value⟩

end Call

/-- Whether an expression is refused, or else means one filter for each of some calls, in order. -/
def Verdict.AccountsFor (calls : List Call) : Verdict → Prop
  | valid s => List.Forall₂ Call.IsReadAs calls s.filters
  | invalid _ => True

theorem Comparator.plain_of_not_isTextComparator : ∀ k ∈ Registry.standard.comparators,
    k.isTextComparator = false →
      k.codec = .plain ∧ IsWord k.token ∧ ¬ Guard.nullCheckName <:+: k.token := by
  decide

/-! ## One call -/

namespace Call

/-- A closed value is read up to some closing parenthesis of its line, its own or a later one. -/
theorem exists_value?_append {v : Text} (t : Text) (hne : v ≠ []) (hv : '\n' ∉ v) :
    ∃ q, value? (v ++ ')' :: t) = some q ∧ v <+: q ∧ (')' ∉ t → q = v) := by
  by_cases hclose : ')' ∈ t.takeWhile (· ≠ '\n')
  · obtain ⟨a, r, ha, rfl⟩ : ∃ a r, '\n' ∉ a ∧ t = a ++ ')' :: r := by
      obtain ⟨a, b, hline⟩ := List.append_of_mem hclose
      refine ⟨a, b ++ t.dropWhile (· ≠ '\n'), fun hmem => ?_, ?_⟩
      · have hin : '\n' ∈ t.takeWhile (· ≠ '\n') := hline ▸ List.mem_append_left _ hmem
        simpa using List.mem_takeWhile_imp hin
      · rw [← List.cons_append, ← List.append_assoc, ← hline, List.takeWhile_append_dropWhile]
    obtain ⟨q, hq, hprefix, -⟩ :=
      exists_value?_append r (v := v ++ ')' :: a) (by simp) (by simp [hv, ha])
    refine ⟨q, ?_, (List.prefix_append _ _).trans hprefix, fun hnone => ?_⟩
    · rwa [List.append_assoc, List.cons_append] at hq
    · exact absurd (by simp) hnone
  · exact ⟨v, value?_eq_some_iff.mpr ⟨hne, hv, t, rfl, hclose⟩, List.prefix_rfl, fun _ => rfl⟩
termination_by t.length

namespace Plain

variable {call : Call}

theorem isWord_name (h : call.Plain) : IsWord call.name := by
  obtain ⟨k, hk, htext, hname⟩ := h.name
  exact hname ▸ (Comparator.plain_of_not_isTextComparator k hk htext).2.1

theorem nullCheckName_absent (h : call.Plain) : ¬ Guard.nullCheckName <:+: call.text := by
  obtain ⟨k, hk, htext, hname⟩ := h.name
  rw [nullCheckName_infix_text_iff, not_or, not_or, ← hname]
  exact ⟨(Comparator.plain_of_not_isTextComparator k hk htext).2.2, h.noNullCheck⟩

theorem not_hasCombiner (h : call.Plain) : ¬ HasCombiner (' ' :: call.value) :=
  not_hasCombiner_cons_of_blankless h.value.blankless

theorem joiner_absent (h : call.Plain) (m : Mode) : ¬ m.joiner <:+: call.text := by
  rw [joiner_infix_text_iff h.isWord_name h.field]
  exact fun hi => h.not_hasCombiner ⟨m, ' ', ' ', by decide, by decide, hi⟩

/-- A call is read with its field and its comparator from any text that starts with it, and with
its own value if nothing comes after it. -/
theorem exists_read (h : call.Plain) : ∃ k ∈ Registry.standard.comparators,
    k.token = call.name ∧ ∀ t, ∃ q, call.value <+: q ∧ (t = [] → q = call.value) ∧
      (Condition.decode (call.text ++ t)).outcome = .ok (some ⟨call.field, k.label, q⟩) := by
  obtain ⟨k, hk, htext, hname⟩ := h.name
  refine ⟨k, hk, hname, fun t => ?_⟩
  obtain ⟨w, hw, hfield⟩ := h.field
  obtain ⟨q, hq, hprefix, hlast⟩ :=
    exists_value?_append t h.value.1 (h.value.notMem (c := '\n') (by decide))
  refine ⟨q, hprefix, fun ht => hlast (by simp [ht]), ?_⟩
  have hfind : find? (call.text ++ t) = some ⟨call.name, call.field, q⟩ := by
    have hcall : call.text ++ t =
        call.name ++ ('(' :: call.field ++ ',' :: ' ' :: (call.value ++ ')' :: t)) := by
      simp [text]
    rw [hcall, find?_word h.isWord_name, ← List.append_assoc, hfield,
      atHead?_append h.isWord_name hw (by decide), hq, Option.map_some, Option.some_or]
  have hcomparator : Condition.comparatorOf ⟨call.name, call.field, q⟩ = .ok k :=
    Condition.comparatorOf_token hk hname
  rw [Condition.outcome_decode_of_call hfind, Condition.ofCall, hcomparator]
  change Except.ok (some (Condition.mk call.field k.label (k.codec.decode q))) = _
  rw [(Comparator.plain_of_not_isTextComparator k hk htext).1, Codec.decode]

end Plain

/-! ## The pieces of a chain -/

variable {first next : Call} {rest : List (Joint × Call)} {j : Joint} {m : Mode}

theorem mode_find?_chainText (h : first.Plain) (j : Joint) (next : Call)
    (rest : List (Joint × Call)) :
    Mode.find? (first.chainText ((j, next) :: rest)) = some j.mode := by
  have htext : j.text ++ next.chainText rest =
      j.before :: (j.mode.word ++ j.after :: next.chainText rest) := by
    simp [Joint.text]
  rw [chainText, mode_find?_text_append h.isWord_name h.field,
    Mode.find?_eq_none_iff.mpr h.not_hasCombiner, Option.none_or, htext,
    Mode.find?_between j.before_blank j.after_blank]

theorem nullCheckName_absent_chainText (h : first.Plain) (hrest : ∀ p ∈ rest, p.2.Plain) :
    ¬ Guard.nullCheckName <:+: first.chainText rest := by
  induction rest generalizing first with
  | nil => exact h.nullCheckName_absent
  | cons p rest ih =>
      obtain ⟨j, next⟩ := p
      have htext : first.chainText ((j, next) :: rest) =
          first.text ++ j.before :: (j.mode.word ++ j.after :: next.chainText rest) := by
        simp [chainText, Joint.text]
      rw [htext, Text.infix_append_cons_iff (Guard.notMem_nullCheckName j.before_blank),
        Text.infix_append_cons_iff (Guard.notMem_nullCheckName j.after_blank)]
      rintro (hcall | hword | hlater)
      · exact h.nullCheckName_absent hcall
      · cases hmode : j.mode <;> rw [hmode] at hword <;> exact absurd hword (by decide)
      · exact ih (hrest _ List.mem_cons_self) (fun p hp => hrest p (List.mem_cons_of_mem _ hp))
          hlater

theorem split_text (h : first.Plain) (m : Mode) : Text.split m.joiner first.text = [first.text] :=
  Text.splitFrom_of_absent [] (h.joiner_absent m)

/-- A joint that reads like the joiner cuts the chain. -/
theorem split_chainText_of_cut (h : first.Plain) (hj : j.text = m.joiner) :
    Text.split m.joiner (first.chainText ((j, next) :: rest)) =
      first.text :: Text.split m.joiner (next.chainText rest) := by
  obtain ⟨t, ht⟩ := first.exists_text_eq_concat
  have hsplit := split_text h m
  rw [ht] at hsplit
  rw [chainText, hj, ht, Text.split_concat_append m.joiner_ne_nil
    (m.notMem_joiner (by decide) (by decide)), hsplit, List.singleton_append]

/-- Any other joint leaves the next call in the piece of the one before it. -/
theorem split_chainText_of_not_cut (h : first.Plain) (hnext : next.Plain)
    (hj : j.text ≠ m.joiner) {p : Text} {ps : List Text}
    (hp : Text.split m.joiner (next.chainText rest) = p :: ps) :
    Text.split m.joiner (first.chainText ((j, next) :: rest)) =
      (first.text ++ j.text ++ p) :: ps := by
  have hclose : ')' ∉ m.joiner := m.notMem_joiner (by decide) (by decide)
  have habsent : ¬ m.joiner <:+: first.text ++ j.text ++ next.name := by
    obtain ⟨t, ht⟩ := first.exists_text_eq_concat
    have hblank : ' ' ∉ next.name := fun hmem =>
      absurd (hnext.isWord_name.blankless _ hmem) (by decide)
    have hconcat : m.joiner = (' ' :: m.word) ++ [' '] := rfl
    rw [ht, List.append_assoc, List.append_assoc, List.singleton_append,
      Text.infix_append_cons_iff hclose, not_or]
    constructor
    · exact fun hi => h.joiner_absent m (ht ▸ List.infix_append_of_infix_left hi)
    · rw [hconcat, Text.concat_infix_append_iff hblank, ← hconcat, j.joiner_infix_text_iff]
      exact hj
  obtain ⟨z, hz⟩ : ∃ z, next.chainText rest = next.name ++ '(' :: z := by
    cases rest with
    | nil => exact ⟨_, by simp [chainText, text]; rfl⟩
    | cons p rest => exact ⟨_, by simp [chainText, text]; rfl⟩
  rw [hz] at hp
  rw [chainText, ← List.append_assoc, hz,
    Text.split_append_of_absent (m.notMem_joiner (by decide) (by decide)) habsent hp]

/-- The pieces start with the calls at the start and behind joiners, in order. -/
theorem pieces_of_chain (m : Mode) (h : first.Plain) (hrest : ∀ p ∈ rest, p.2.Plain) :
    List.Forall₂ (fun call piece => call.Plain ∧ call.text <+: piece) (first.heads m rest)
      (Text.split m.joiner (first.chainText rest)) := by
  induction rest generalizing first with
  | nil =>
      rw [chainText, split_text h]
      exact List.forall₂_cons.mpr ⟨⟨h, List.prefix_rfl⟩, List.Forall₂.nil⟩
  | cons p rest ih =>
      obtain ⟨j, next⟩ := p
      have hnext : next.Plain := hrest _ List.mem_cons_self
      have htail := ih hnext fun p hp => hrest p (List.mem_cons_of_mem _ hp)
      by_cases hj : j.text = m.joiner
      · rw [split_chainText_of_cut h hj, heads, List.filter_cons_of_pos (by simpa using hj)]
        exact List.forall₂_cons.mpr ⟨⟨h, List.prefix_rfl⟩, htail⟩
      · obtain ⟨p, ps, hp⟩ : ∃ p ps, Text.split m.joiner (next.chainText rest) = p :: ps :=
          List.exists_cons_of_ne_nil (Text.splitFrom_ne_nil _ _ _ _)
        rw [hp] at htail
        rw [split_chainText_of_not_cut h hnext hj hp, heads,
          List.filter_cons_of_neg (by simpa using hj)]
        refine List.forall₂_cons.mpr ⟨⟨h, ?_⟩, (List.forall₂_cons.mp htail).2⟩
        rw [List.append_assoc]
        exact List.prefix_append _ _

theorem split_chainText_of_cuts (h : first.Plain) (hrest : ∀ p ∈ rest, p.2.Plain)
    (hcuts : ∀ p ∈ rest, p.1.text = m.joiner) :
    Text.split m.joiner (first.chainText rest) = (first :: rest.map (·.2)).map text := by
  induction rest generalizing first with
  | nil => exact split_text h m
  | cons p rest ih =>
      obtain ⟨j, next⟩ := p
      rw [split_chainText_of_cut h (hcuts _ List.mem_cons_self),
        ih (hrest _ List.mem_cons_self) (fun p hp => hrest p (List.mem_cons_of_mem _ hp))
          fun p hp => hcuts p (List.mem_cons_of_mem _ hp)]
      rfl

end Call

namespace FilterSet

variable {ε : Type} {first next : Call} {rest : List (Joint × Call)} {j : Joint} {m : Mode}

theorem segments_chainText (m : Mode) (h : first.Plain) (hrest : ∀ p ∈ rest, p.2.Plain) :
    segments m (first.chainText rest) = Text.split m.joiner (first.chainText rest) := by
  have hpieces : List.Forall₂ (fun piece (_ : Call) => piece ≠ [] ∧ True)
      (Text.split m.joiner (first.chainText rest)) (first.heads m rest) := by
    refine List.Forall₂.flip ((Call.pieces_of_chain m h hrest).imp fun call piece hpiece => ?_)
    refine ⟨?_, trivial⟩
    rintro rfl
    exact Call.text_ne_nil (List.prefix_nil.mp hpiece.2)
  rw [segments, List.filter_eq_self]
  intro s hs
  simpa using ((List.forall₂_and_left _ _).mp hpieces).1 s hs

theorem outcome_decode_chain (strict : Bool) (h : first.Plain)
    (hrest : ∀ p ∈ (j, next) :: rest, p.2.Plain) :
    (decode strict (Guard.wrapSentinel (first.chainText ((j, next) :: rest)))).outcome =
      ((Text.split j.mode.joiner (first.chainText ((j, next) :: rest))).mapM fun s =>
        (decodeSegment strict s).outcome).map fun filters => ⟨some j.mode, false, filters⟩ := by
  have habsent : ¬ Guard.nullCheckName <:+:
      Guard.wrapSentinel (first.chainText ((j, next) :: rest)) := fun hi =>
    Call.nullCheckName_absent_chainText h hrest (Guard.nullCheckName_infix_wrapSentinel hi)
  rw [outcome_decode_of_absent habsent, Guard.stripSentinel_wrapSentinel, outcome_decodeBody,
    Call.mode_find?_chainText h, Option.getD_some, segments_chainText j.mode h hrest]

/-- The filters of a chain belong to the calls at its start and behind joiners. -/
theorem exists_filters (strict : Bool) (m : Mode) (h : first.Plain)
    (hrest : ∀ p ∈ rest, p.2.Plain) :
    ∃ filters, ((Text.split m.joiner (first.chainText rest)).mapM fun s =>
        (decodeSegment strict s).outcome) = .ok filters ∧
      List.Forall₂ Call.Opens (first.heads m rest) filters := by
  refine exists_mapM_of_forall₂ (Call.pieces_of_chain m h hrest) ?_
  rintro call piece ⟨hcall, t, rfl⟩
  obtain ⟨k, hk, hname, hread⟩ := hcall.exists_read
  obtain ⟨q, hq, -, hdecode⟩ := hread t
  exact ⟨_, outcome_decodeSegment_of_some hdecode, k, hk, q, hname, hq, rfl⟩

/-- If every joint cuts, there is a filter for each call. -/
theorem exists_filters_of_cuts (strict : Bool) (h : first.Plain) (hrest : ∀ p ∈ rest, p.2.Plain)
    (hcuts : ∀ p ∈ rest, p.1.text = m.joiner) :
    ∃ filters, ((Text.split m.joiner (first.chainText rest)).mapM fun s =>
        (decodeSegment strict s).outcome) = .ok filters ∧
      List.Forall₂ Call.IsReadAs (first :: rest.map (·.2)) filters := by
  have hplain : ∀ call ∈ first :: rest.map (·.2), call.Plain := by
    intro call hcall
    rcases List.mem_cons.mp hcall with rfl | hcall
    · exact h
    · obtain ⟨p, hp, rfl⟩ := List.mem_map.mp hcall
      exact hrest p hp
  have hpieces : List.Forall₂ (fun (call : Call) piece => call.Plain ∧ piece = call.text)
      (first :: rest.map (·.2)) ((first :: rest.map (·.2)).map Call.text) :=
    List.forall₂_map_right_iff.mpr
      (List.forall₂_same.mpr fun call hcall => ⟨hplain call hcall, rfl⟩)
  rw [Call.split_chainText_of_cuts h hrest hcuts]
  refine exists_mapM_of_forall₂ hpieces ?_
  rintro call piece ⟨hcall, rfl⟩
  obtain ⟨k, -, -, hread⟩ := hcall.exists_read
  obtain ⟨q, -, hq, hdecode⟩ := hread []
  rw [List.append_nil, hq rfl] at hdecode
  exact ⟨_, outcome_decodeSegment_of_some hdecode, k.label, rfl⟩

/-- A chain is valid with any joints. It means a filter for the call at its start and one for
each call behind a joiner of its mode, and accounts for all calls exactly if there are no other
joints. -/
theorem validate_chain (h : first.Plain) (hrest : ∀ p ∈ (j, next) :: rest, p.2.Plain) :
    ∃ s : FilterSet,
      (validate (Guard.wrapSentinel (first.chainText ((j, next) :: rest))) :
        Logged ε Verdict).outcome = .ok (.valid s) ∧
      List.Forall₂ Call.Opens (first.heads j.mode ((j, next) :: rest)) s.filters ∧
      ((Verdict.valid s).AccountsFor (first :: next :: rest.map (·.2)) ↔
        ∀ p ∈ (j, next) :: rest, p.1.text = j.mode.joiner) := by
  obtain ⟨filters, hfilters, hopens⟩ := exists_filters true j.mode h hrest
  have hdecode : (decode true (Guard.wrapSentinel (first.chainText ((j, next) :: rest)))).outcome =
      .ok ⟨some j.mode, false, filters⟩ := by
    rw [outcome_decode_chain true h hrest, hfilters]
    rfl
  refine ⟨⟨some j.mode, false, filters⟩, ?_, hopens, ?_⟩
  · simp only [validate, hdecode]
  constructor
  · intro haccounts
    have hlen := hopens.length_eq.trans (List.Forall₂.length_eq haccounts).symm
    rw [Call.heads, List.length_cons, List.length_map, List.length_cons] at hlen
    have hfilter : (((j, next) :: rest).filter fun p => p.1.text = j.mode.joiner).length =
        ((j, next) :: rest).length := by
      simpa using hlen
    intro p hp
    simpa using List.length_filter_eq_length_iff.mp hfilter p hp
  · intro hcuts
    obtain ⟨all, hall, hread⟩ := exists_filters_of_cuts true h hrest hcuts
    obtain rfl : filters = all := Except.ok.inj (hfilters.symm.trans hall)
    exact hread

/-- Three calls with two joiners of one mode. -/
theorem validate_chain_of_joiners :
    ∃ s : FilterSet,
      (validate "(GT([a], 1) OR LT([b], AND) OR EQ([a], 3)) ?: false".toList :
        Logged CodecError Verdict).outcome = .ok (.valid s) ∧
      (Verdict.valid s).AccountsFor [⟨"GT".toList, "[a]".toList, "1".toList⟩,
        ⟨"LT".toList, "[b]".toList, "AND".toList⟩, ⟨"EQ".toList, "[a]".toList, "3".toList⟩] := by
  have hfirst : Call.Plain ⟨"GT".toList, "[a]".toList, "1".toList⟩ :=
    ⟨by decide, ⟨['a'], by decide, rfl⟩, by decide, by decide⟩
  have hrest : ∀ p ∈ [(Joint.mk ' ' .or ' ' rfl rfl,
      Call.mk "LT".toList "[b]".toList "AND".toList),
      (Joint.mk ' ' .or ' ' rfl rfl, Call.mk "EQ".toList "[a]".toList "3".toList)],
      p.2.Plain := by
    rintro p (_ | ⟨_, _ | ⟨_, ⟨⟩⟩⟩)
    · exact ⟨by decide, ⟨['b'], by decide, rfl⟩, by decide, by decide⟩
    · exact ⟨by decide, ⟨['a'], by decide, rfl⟩, by decide, by decide⟩
  obtain ⟨s, hs, -, haccounts⟩ := validate_chain (ε := CodecError) hfirst hrest
  exact ⟨s, hs, haccounts.mpr (by decide)⟩

/-- Behind a tab the second call goes into the value of the first. -/
theorem validate_chain_with_tab :
    Call.Plain ⟨"GT".toList, "[a]".toList, "1".toList⟩ ∧
      Call.Plain ⟨"LT".toList, "[b]".toList, "2".toList⟩ ∧
      (validate "(GT([a], 1)\tAND LT([b], 2)) ?: false".toList :
        Logged CodecError Verdict).outcome = .ok (.valid ⟨some .and, false,
          [some ⟨"[a]".toList, "Greater than".toList, "1)\tAND LT([b], 2".toList⟩]⟩) ∧
      ¬ (Verdict.valid ⟨some .and, false,
          [some ⟨"[a]".toList, "Greater than".toList, "1)\tAND LT([b], 2".toList⟩]⟩).AccountsFor
        [⟨"GT".toList, "[a]".toList, "1".toList⟩, ⟨"LT".toList, "[b]".toList, "2".toList⟩] := by
  refine ⟨⟨by decide, ⟨['a'], by decide, rfl⟩, by decide, by decide⟩,
    ⟨by decide, ⟨['b'], by decide, rfl⟩, by decide, by decide⟩, by rfl, fun h => ?_⟩
  cases List.Forall₂.length_eq h

end FilterSet

end FilterWire
