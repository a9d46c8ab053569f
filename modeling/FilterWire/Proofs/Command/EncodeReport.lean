import FilterWire.Proofs.Command.Pipe
import FilterWire.Proofs.Draft.BreakOff

/-!
# Runs that break off

Writing a document given on the command line ends with its expression or with
a message, unless the document is unfit, its expression holds half of a
surrogate pair, or one of its integers is too long to be read.
-/

namespace FilterWire

/-! ## Expressions that cannot be printed -/

namespace Value

/-- A dictionary with half of a surrogate pair in its field or its query. -/
def HasUnpaired (v : Value) : Prop :=
  ∃ x, (v.field ConditionDraft.fieldKey = .ok x ∨ v.field ConditionDraft.queryKey = .ok x) ∧
    x.isUnpaired = true

@[simp] theorem isUnpaired_toText (v : Value) : v.toText.isUnpaired = v.isUnpaired := by
  cases v <;> rfl

@[simp] theorem isUnpaired_upperMode (v : Value) :
    (FilterDraft.upperMode v).isUnpaired = v.isUnpaired := by
  cases v <;> rfl

end Value

theorem Entry.hasUnpaired_iff {v : Value} {e : Entry} (h : ofValue v = .ok e) : v.HasUnpaired ↔
    ∃ c, e = condition c ∧ (c.field.isUnpaired = true ∨ c.query.isUnpaired = true) := by
  rcases ofValue_eq_ok h with ⟨rfl, rfl⟩ | ⟨-, field, option, query, hfield, -, hquery, rfl⟩
  · simp [Value.HasUnpaired, Value.field]
  · simp [Value.HasUnpaired, hfield, hquery, or_and_right, exists_or]

theorem Command.isWritable_eq_false_iff {d : FilterDraft} : isWritable d = false ↔
    2 ≤ d.entries.length ∧ d.mode.isUnpaired = true ∨ ∃ e ∈ d.entries, ∃ c,
      e = .condition c ∧ (c.field.isUnpaired = true ∨ c.query.isUnpaired = true) := by
  rw [isWritable, Bool.and_eq_false_iff, List.all_eq_false]
  refine or_congr (by simp [Nat.succ_le_iff]) (exists_congr fun e => and_congr_right fun _ => ?_)
  cases e with
  | condition c => simp [or_iff_not_imp_left]
  | _ => simp

namespace FilterDraft

/-- A document with an expression that holds half of a surrogate pair: in the mode, if it joins
anything, or in an entry. -/
def Unwritable (es : Entries) : Prop :=
  ∃ items, filtersOf es = .list items ∧ (∀ v ∈ items, v.IsEntry ∧ v.HasKnownOption) ∧
    (2 ≤ items.length ∧ (pick modeKey otherModeKey (.str Mode.and.word) es).isUnpaired = true ∨
      ∃ v ∈ items, v.HasUnpaired)

variable {legacy : Bool} {es : Entries}

theorem isWritable_withEntries {items : List Value} {entries : List Entry}
    (h : items.mapM Entry.ofValue = .ok entries) :
    Command.isWritable (withEntries es entries) = false ↔
      2 ≤ items.length ∧ (pick modeKey otherModeKey (.str Mode.and.word) es).isUnpaired = true ∨
        ∃ v ∈ items, v.HasUnpaired := by
  rw [Command.isWritable_eq_false_iff, withEntries, Value.isUnpaired_upperMode,
    length_of_mapM_eq_ok h]
  refine or_congr Iff.rfl ⟨?_, ?_⟩
  · rintro ⟨e, he, hunpaired⟩
    obtain ⟨v, hv, hread⟩ := exists_of_mem_mapM h he
    exact ⟨v, hv, (Entry.hasUnpaired_iff hread).mpr hunpaired⟩
  · rintro ⟨v, hv, hunpaired⟩
    obtain ⟨e, he, hread⟩ := exists_of_mapM_eq_ok h hv
    exact ⟨e, he, (Entry.hasUnpaired_iff hread).mp hunpaired⟩

/-- Of the drafts with an expression, those of unwritable documents cannot be printed. -/
theorem isWritable_eq_false_iff {d : FilterDraft} {wire : Option Text} (h : ofEntries es = .ok d)
    (hencode : (d.encode legacy).outcome = .ok wire) :
    Command.isWritable d = false ↔ Unwritable es := by
  by_cases hlist : ∃ items, filtersOf es = .list items
  · obtain ⟨items, hfilters⟩ := hlist
    have hdraft := h
    rw [ofEntries_list hfilters] at hdraft
    obtain ⟨entries, hread, rfl⟩ := map_eq_ok_iff.mp hdraft
    have hitems : ∀ v ∈ items, v.IsEntry ∧ v.HasKnownOption := by
      have hentries := Entry.exists_mapM_iff.mp ⟨_, hread⟩
      have hknown := (exists_encode_iff legacy hfilters hentries).mp
        ⟨wire, outcome_encode_eq_ok_iff.mpr ⟨_, h, hencode⟩⟩
      exact fun v hv => ⟨hentries v hv, hknown v hv⟩
    rw [isWritable_withEntries hread, Unwritable]
    constructor
    · exact fun hfault => ⟨items, hfilters, hitems, hfault⟩
    · rintro ⟨items', hfilters', -, hfault⟩
      obtain rfl := Value.list.inj (hfilters.symm.trans hfilters')
      exact hfault
  · -- the only filters that are no list and have an expression are none
    have htruth : (filtersOf es).truth = false := by
      by_contra htruth
      rw [ofEntries_unfit (Bool.not_eq_false _ ▸ htruth) fun items hitems => hlist ⟨items, hitems⟩]
        at h
      cases h
    obtain rfl := Except.ok.inj ((ofEntries_false htruth).symm.trans h)
    refine iff_of_false (by simp [Command.isWritable, withEntries]) ?_
    rintro ⟨items, hfilters, -⟩
    exact hlist ⟨items, hfilters⟩

theorem exists_encode_of_unwritable (legacy : Bool) (h : Unwritable es) :
    ∃ d wire, ofEntries es = .ok d ∧ (d.encode legacy).outcome = .ok wire := by
  obtain ⟨items, hfilters, hitems, -⟩ := h
  obtain ⟨wire, hwire⟩ := (exists_encode_iff legacy hfilters fun v hv => (hitems v hv).1).mpr
    fun v hv => (hitems v hv).2
  obtain ⟨d, hd, hencode⟩ := outcome_encode_eq_ok_iff.mp hwire
  exact ⟨d, wire, hd, hencode⟩

end FilterDraft

namespace Command

/-! ## The report on a document -/

theorem encodeEntries_of_ok (fs : FileTree) {legacy : Bool} {es : Entries} {d : FilterDraft}
    {wire : Option Text} (h : FilterDraft.ofEntries es = .ok d)
    (hencode : (d.encode legacy).outcome = .ok wire) : ∃ events, encodeEntries fs legacy es =
      Report.after events (if isWritable d then Report.print fs (echo (wire.getD "null".toList))
        else Report.crash fs .unwritable) := by
  rw [encodeEntries, h]
  refine ⟨_, congrArg _ ?_⟩
  rw [Logged.ofExcept_bind_ok, Logged.outcome_bind, hencode]
  cases hwritable : isWritable d with
  | true => simp only [bind, Except.bind, if_true, Logged.outcome_pure]
  | false => simp only [bind, Except.bind, Bool.false_eq_true, if_false, Logged.outcome_fail]

theorem encodeEntries_of_error (fs : FileTree) {legacy : Bool} {es : Entries} {e : Failure}
    (h : (Expression.encode legacy (.dict es)).outcome = .error e) :
    ∃ events, encodeEntries fs legacy es = Report.after events
      (if e.isTold then Report.fail fs e.message else Report.crash fs e) := by
  have hbreak : ∀ f : FilterDraft → Option Text → Logged Failure Text,
      (Logged.ofExcept (FilterDraft.ofEntries es) >>= fun d =>
        d.encode legacy >>= f d).outcome = .error e := by
    intro f
    cases hd : FilterDraft.ofEntries es with
    | error e' =>
        rw [FilterDraft.outcome_encode_of_ofEntries hd] at h
        rw [Except.error.inj h]
        rfl
    | ok d =>
        rw [FilterDraft.outcome_encode_of_ok hd] at h
        rw [Logged.ofExcept_bind_ok, Logged.outcome_bind, h]
        rfl
  rw [encodeEntries]
  refine ⟨_, congrArg _ ?_⟩
  rw [hbreak]
  cases e <;> rfl

/-- Without a value that has no place in it, a document has an expression or an error to tell. -/
theorem encodeEntries_told (fs : FileTree) (legacy : Bool) {es : Entries}
    (hfit : ¬ FilterDraft.Unfit es) (hwritable : ¬ FilterDraft.Unwritable es) :
    (∃ wire events, (Expression.encode legacy (.dict es)).outcome = .ok wire ∧
      encodeEntries fs legacy es =
        Report.after events (Report.print fs (echo (wire.getD "null".toList)))) ∨
      ∃ message events, encodeEntries fs legacy es =
        Report.after events (Report.fail fs message) := by
  cases hencode : (Expression.encode legacy (.dict es)).outcome with
  | error e =>
      obtain ⟨events, hreport⟩ := encodeEntries_of_error fs hencode
      cases htold : e.isTold with
      | true =>
          rw [htold] at hreport
          exact Or.inr ⟨_, events, hreport⟩
      | false => exact absurd (FilterDraft.outcome_encode_untold_iff.mp ⟨hencode, htold⟩).1 hfit
  | ok wire =>
      obtain ⟨d, hd, hdraft⟩ := FilterDraft.outcome_encode_eq_ok_iff.mp hencode
      obtain ⟨events, hreport⟩ := encodeEntries_of_ok fs hd hdraft
      have hprinted : isWritable d = true := by
        by_contra hkept
        exact hwritable ((FilterDraft.isWritable_eq_false_iff hd hdraft).mp
          (Bool.eq_false_iff.mpr hkept))
      rw [hprinted] at hreport
      exact Or.inl ⟨wire, events, rfl, hreport⟩

/-- A text that stands for itself where a source is expected. -/
def IsLiteral (t : Text) : Prop :=
  t ≠ [] ∧ t.head? ≠ some '-' ∧ t.head? ≠ some '@'

instance (t : Text) : Decidable (IsLiteral t) :=
  inferInstanceAs (Decidable (_ ∧ _ ∧ _))

/-- What the writing of a document breaks off at. -/
inductive BreaksOff (t : Text) : Failure → Prop
  | integer {rest : Text} (hread : Json.read t = .error ⟨.integerTooLong, rest⟩) :
      BreaksOff t .integerTooLong
  | unfit {es : Entries} (hread : Json.read t = .ok (.dict es)) (h : FilterDraft.Unfit es) :
      BreaksOff t .unfit
  | unwritable {es : Entries} (hread : Json.read t = .ok (.dict es))
      (h : FilterDraft.Unwritable es) : BreaksOff t .unwritable

section Literal

variable {t : Text} (ht : IsLiteral t) (input : Option Text.Bytes) (fs : FileTree)
  (given : Option Bool)

include ht

theorem runEncode_of_literal : runEncode .default input fs (.text t) given = match Json.read t with
    | .error ⟨.integerTooLong, _⟩ => Report.crash fs .integerTooLong
    | .error fault => Report.fail fs (inputLabel ++ fault.message t)
    | .ok (.dict es) => encodeEntries fs (given.getD true) es
    | .ok _ => Report.fail fs "Filter set must be a JSON object".toList := by
  obtain ⟨hne, hhyphen, hat⟩ := ht
  exact runEncode_of_text .default (source_of_head input fs hhyphen hat) hne given

theorem runEncode_breaksOff {cause : Failure} (h : BreaksOff t cause) :
    ∃ events, runEncode .default input fs (.text t) given =
      Report.after events (Report.crash fs cause) := by
  rw [runEncode_of_literal ht]
  cases h with
  | integer hread =>
      rw [hread]
      exact ⟨[], rfl⟩
  | unfit hread h =>
      rw [hread]
      exact encodeEntries_of_error fs (FilterDraft.outcome_encode_of_unfit h)
  | unwritable hread h =>
      obtain ⟨d, wire, hd, hencode⟩ :=
        FilterDraft.exists_encode_of_unwritable (given.getD true) h
      obtain ⟨events, hreport⟩ := encodeEntries_of_ok fs hd hencode
      rw [(FilterDraft.isWritable_eq_false_iff hd hencode).mpr h] at hreport
      rw [hread]
      exact ⟨events, hreport⟩

/-- What does not break off ends with an expression or with a message. -/
theorem runEncode_told (h : ∀ cause, ¬ BreaksOff t cause) :
    (∃ es wire events, Json.read t = .ok (.dict es) ∧
      (Expression.encode (given.getD true) (.dict es)).outcome = .ok wire ∧
      runEncode .default input fs (.text t) given =
        Report.after events (Report.print fs (echo (wire.getD "null".toList)))) ∨
      ∃ message events, runEncode .default input fs (.text t) given =
        Report.after events (Report.fail fs message) := by
  have hrun := runEncode_of_literal ht input fs given
  cases hread : Json.read t with
  | error fault =>
      obtain ⟨problem, rest⟩ := fault
      rw [hread] at hrun
      cases problem with
      | integerTooLong => exact absurd (.integer hread) (h .integerTooLong)
      | _ => exact Or.inr ⟨_, [], hrun⟩
  | ok v =>
      rw [hread] at hrun
      cases v with
      | dict es =>
          rcases encodeEntries_told fs (given.getD true)
              (fun hunfit => h .unfit (.unfit hread hunfit))
              fun hunwritable => h .unwritable (.unwritable hread hunwritable) with
            ⟨wire, events, hencode, hreport⟩ | ⟨message, events, hreport⟩
          · exact Or.inl ⟨es, wire, events, rfl, hencode, hrun.trans hreport⟩
          · exact Or.inr ⟨message, events, hrun.trans hreport⟩
      | _ => exact Or.inr ⟨_, [], hrun⟩

end Literal

end Command

namespace Invocation

/-- The run breaks off where the document makes it, without a word. Otherwise it ends with the
expression or with a message. This leaves an interpreter's limit on recursion out of account: a
document that is nested deeper than that (about a thousand levels) breaks the run off as well. -/
theorem encode_report {i : Invocation} {words : List Text} {t : Text} {given : Option Bool}
    (hi : i.UsesDefaults) (hwords : i.words = "encode".toList :: words)
    (hcommand : Command.ofWords "encode".toList (words.map .text) = .ok (.encode (.text t) given))
    (ht : Command.IsLiteral t) :
    (∀ cause, i.run.ending = .crash cause ↔ Command.BreaksOff t cause) ∧
      ((∃ cause, i.run.ending = .crash cause ∧ i.run.out = [] ∧ i.run.err = []) ∨
        (∃ es wire, Json.read t = .ok (.dict es) ∧
          (Expression.encode (given.getD true) (.dict es)).outcome = .ok wire ∧
          i.run.ending = .success ∧ i.run.out = Command.echo (wire.getD "null".toList) ∧
          i.run.err = []) ∨
        ∃ message, i.run.ending = .failure ∧ i.run.out = [] ∧
          i.run.err = Console.message Report.errorLabel message) := by
  obtain ⟨hending, hout, herr, -⟩ := run_of_defaults hi (by decide) hwords hcommand
  rw [Command.run] at hending hout herr
  have hcrash : ∀ cause, Command.BreaksOff t cause →
      i.run.ending = .crash cause ∧ i.run.out = [] ∧ i.run.err = [] := by
    intro cause hcause
    obtain ⟨events, hreport⟩ := Command.runEncode_breaksOff ht i.input i.files given hcause
    rw [hending, hout, herr, hreport]
    exact ⟨rfl, rfl, rfl⟩
  by_cases hbreaks : ∃ cause, Command.BreaksOff t cause
  · obtain ⟨cause, hcause⟩ := hbreaks
    refine ⟨fun cause' => ⟨fun heq => ?_, fun hcause' => (hcrash cause' hcause').1⟩,
      Or.inl ⟨cause, hcrash cause hcause⟩⟩
    obtain rfl := Ending.crash.inj ((hcrash cause hcause).1.symm.trans heq)
    exact hcause
  · have hnone : ∀ cause, ¬ Command.BreaksOff t cause := not_exists.mp hbreaks
    rcases Command.runEncode_told ht i.input i.files given hnone with
      ⟨es, wire, events, hread, hencode, hreport⟩ | ⟨message, events, hreport⟩
    · rw [hreport] at hending hout herr
      refine ⟨fun cause => iff_of_false ?_ (hnone cause),
        Or.inr (Or.inl ⟨es, wire, hread, hencode, hending, hout, herr⟩)⟩
      rw [hending]
      rintro ⟨⟩
    · rw [hreport] at hending hout herr
      refine ⟨fun cause => iff_of_false ?_ (hnone cause),
        Or.inr (Or.inr ⟨message, hending, hout, herr⟩)⟩
      rw [hending]
      rintro ⟨⟩

/-- A list for the option of the second entry breaks the run off. -/
theorem encode_report_of_collection :
    let t : Text := ("\x7b\"filters\": [\x7b\"field\": \"a\", \"option\": \"Matches\", " ++
      "\"query\": \"\"\x7d, \x7b\"field\": \"b\", \"option\": [], \"query\": \"\"\x7d]\x7d").toList
    let i : Invocation := ⟨["encode".toList, "--no-legacy".toList, t], none, none,
      ⟨[], [], ⟨['/'], []⟩, []⟩, ⟨0, 0, 0, []⟩⟩
    i.UsesDefaults ∧ i.run.ending = .crash .unfit := by
  intro t i
  have hi : i.UsesDefaults := usesDefaults_of_noFile (by rfl)
  let first : Value := .dict [(.text "field".toList, .str ['a']),
    (.text "option".toList, .str "Matches".toList), (.text "query".toList, .str [])]
  let second : Value := .dict [(.text "field".toList, .str ['b']),
    (.text "option".toList, .list []), (.text "query".toList, .str [])]
  have htextual : Json.Textual (.dict [(.text "filters".toList, .list [first, second])]) := by
    refine .dict_texts (l := [("filters".toList, .list [first, second])]) (by decide) ?_
    rw [List.forall_mem_singleton]
    refine .list fun u hu => ?_
    rcases List.mem_pair.mp hu with rfl | rfl
    · exact .dict_three (by decide) (.str _) (.str _) (.str _)
    · exact .dict_three (by decide) (.str _) (.list (by simp)) (.str _)
  have ht : Json.render ⟨none, false⟩
      (.dict [(.text "filters".toList, .list [first, second])]) = t := by
    decide
  have hread := Json.read_render (s := ⟨none, false⟩) rfl htextual
  rw [ht] at hread
  have hunfit : FilterDraft.Unfit [(.text "filters".toList, .list [first, second])] := by
    have hfilters : FilterDraft.filtersOf [(.text "filters".toList, .list [first, second])] =
        .list ([first] ++ second :: []) := rfl
    refine .option hfilters ?_ ?_ ?_
    · intro u hu
      rcases List.mem_pair.mp hu with rfl | rfl <;> exact ⟨rfl, rfl, rfl⟩
    · intro u hu
      obtain rfl := List.mem_singleton.mp hu
      exact ⟨"Matches".toList, by decide, rfl⟩
    · exact ⟨.list [], rfl, trivial⟩
  have hcommand : Command.ofWords "encode".toList (["--no-legacy".toList, t].map .text) =
      .ok (.encode (.text t) (some false)) :=
    Command.ofWords_encode (by decide) false List.mem_cons_self
  obtain ⟨hcrash, -⟩ := encode_report hi rfl hcommand (by decide)
  exact ⟨hi, (hcrash .unfit).mpr (.unfit hread hunfit)⟩

/-- Characters are no entries. -/
theorem encode_breaks_off_at_text :
    let i : Invocation := ⟨["encode".toList, "\x7b\"filters\": \"ab\"\x7d".toList], none, none,
      ⟨[], [], ⟨['/'], []⟩, []⟩, ⟨0, 0, 0, []⟩⟩
    i.UsesDefaults ∧ i.run.ending = .crash .unfit ∧ i.run.out = [] ∧ i.run.err = [] := by
  intro i
  have hi : i.UsesDefaults := usesDefaults_of_noFile (by rfl)
  have htextual : Json.Textual (.dict [(.text "filters".toList, .str "ab".toList)]) :=
    .dict_texts (l := [("filters".toList, .str "ab".toList)]) (by decide)
      (List.forall_mem_singleton.mpr (.str _))
  have ht : Json.render ⟨none, false⟩ (.dict [(.text "filters".toList, .str "ab".toList)]) =
      "\x7b\"filters\": \"ab\"\x7d".toList := by decide
  have hread := Json.read_render (s := ⟨none, false⟩) rfl htextual
  rw [ht] at hread
  have hcommand : Command.ofWords "encode".toList [.text "\x7b\"filters\": \"ab\"\x7d".toList] =
      .ok (.encode (.text "\x7b\"filters\": \"ab\"\x7d".toList) none) := by rfl
  obtain ⟨hending, hout, herr, -⟩ := run_of_defaults hi (by decide) rfl hcommand
  rw [Command.run] at hending hout herr
  obtain ⟨events, hreport⟩ := Command.runEncode_breaksOff (by decide) i.input i.files none
    (.unfit hread (.filters (by decide) (by rintro _ ⟨⟩)))
  rw [hreport] at hending hout herr
  exact ⟨hi, hending, hout, herr⟩

end Invocation

end FilterWire
