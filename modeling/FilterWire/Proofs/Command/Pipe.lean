import FilterWire.Proofs.Command.Defaults
import FilterWire.Proofs.Draft.Document
import FilterWire.Proofs.Draft.Surrogate
import FilterWire.Proofs.FilterSet.Writable
import FilterWire.Proofs.Json.RoundTrip

/-!
# From one command into the other

What the first command prints is taken by the second one for the filter set
it stands for. So the second prints the expression of the set, if it has no
holes, whatever characters the queries are made of. Only half of a surrogate
pair, which is no character, keeps the first from printing a set that it has
read.
-/

namespace FilterWire

/-! ## Documents of filter sets -/

namespace Json.Textual

theorem dict_texts {l : List (Text × Value)} (hkeys : (l.map Prod.fst).Nodup)
    (h : ∀ e ∈ l, Textual e.2) : Textual (.dict (l.map fun e => (.text e.1, e.2))) := by
  refine .dict ?_ (fun e he => ?_) fun e he => ?_
  · have hnodup : ((l.map Prod.fst).map EntryKey.text).Nodup :=
      hkeys.map fun _ _ => EntryKey.text.inj
    rw [List.map_map] at hnodup ⊢
    exact hnodup
  · obtain ⟨e', -, rfl⟩ := List.mem_map.mp he
    exact ⟨e'.1, rfl⟩
  · obtain ⟨e', he', rfl⟩ := List.mem_map.mp he
    exact h e' he'

theorem dict_three {k₁ k₂ k₃ : Text} {v₁ v₂ v₃ : Value} (hkeys : [k₁, k₂, k₃].Nodup)
    (h₁ : Textual v₁) (h₂ : Textual v₂) (h₃ : Textual v₃) :
    Textual (.dict [(.text k₁, v₁), (.text k₂, v₂), (.text k₃, v₃)]) := by
  refine dict_texts (l := [(k₁, v₁), (k₂, v₂), (k₃, v₃)]) hkeys ?_
  simp [h₁, h₂, h₃]

end Json.Textual

namespace FilterDraft

open Json (Textual)

theorem textual_entry (f : Option Condition) : Textual (Entry.ofOption f).toValue := by
  cases f with
  | none => exact .null
  | some c => exact .dict_three (by decide) (.str c.field) (.str c.option) (.str c.query)

theorem textual_document (s : FilterSet) : Textual (ofFilterSet s).toValue := by
  have hmode : Textual (ofFilterSet s).mode := by
    cases hmode : s.mode with
    | none =>
        rw [ofFilterSet, hmode]
        exact .null
    | some m =>
        rw [ofFilterSet, hmode]
        exact .str m.word
  refine .dict_three (by decide) hmode (.bool s.includesAbsent) (.list fun v hv => ?_)
  rw [ofFilterSet, List.map_map] at hv
  obtain ⟨f, -, rfl⟩ := List.mem_map.mp hv
  exact textual_entry f

/-- The document of a filter set comes back from its printed form, and with it the set. -/
theorem read_document (s : FilterSet) :
    Json.read (Json.render Json.pretty (ofFilterSet s).toValue) = .ok (ofFilterSet s).toValue :=
  Json.read_render rfl (textual_document s)

theorem escape_notMem_document (s : FilterSet) :
    '\x1b' ∉ Json.render Json.pretty (ofFilterSet s).toValue :=
  Json.control_notMem_value (by decide) (by decide) rfl (textual_document s) 0

theorem head?_ne_hyphen (s : FilterSet) :
    (Json.render Json.pretty (ofFilterSet s).toValue).head? ≠ some '-' := by
  have hhead : (Json.render Json.pretty (ofFilterSet s).toValue).head? = some '{' := rfl
  rw [hhead]
  decide

/-- Nothing in the draft of a filter set is beyond writing. -/
theorem isWritable_ofFilterSet (s : FilterSet) : Command.isWritable (ofFilterSet s) = true := by
  have hmode : (ofFilterSet s).mode.isUnpaired = false := by
    obtain ⟨mode, absent, filters⟩ := s
    cases mode <;> rfl
  rw [Command.isWritable, hmode, Bool.not_false, Bool.or_true, Bool.true_and, List.all_eq_true]
  intro e he
  obtain ⟨f, -, rfl⟩ := List.mem_map.mp he
  cases f <;> rfl

end FilterDraft

namespace Command

/-! ## The two commands -/

theorem source_of_head (input : Option Text.Bytes) (fs : FileTree) {w : Word}
    (hhyphen : w.reading.head? ≠ some '-') (hat : w.reading.head? ≠ some '@') :
    source input fs w = .ok w := by
  rw [source]
  split
  case h_1 hw =>
      rw [hw] at hhyphen
      exact absurd rfl hhyphen
  case h_2 hw =>
      rw [hw] at hat
      exact absurd rfl hat
  case h_3 => rfl

theorem ofWords_decode {w : Word} (h : w.reading.head? ≠ some '-') :
    ofWords "decode".toList [w] = .ok (.decode (some w) none none) := by
  rw [ofWords, if_pos rfl, parts, scan_argument h]
  rfl

/-- The switch for legacy mode. -/
def legacySwitch (legacy : Bool) : Switch :=
  if legacy then .legacy else .noLegacy

theorem scan_legacySwitch (legacy : Bool) (words : List Word) :
    scan [.help, .legacy, .noLegacy] true (.text (legacySwitch legacy).longName :: words) =
      (scan [.help, .legacy, .noLegacy] true words).map fun p =>
        ((legacySwitch legacy, []) :: p.1, p.2) := by
  have hoption : isOption (legacySwitch legacy).longName = true := by
    cases legacy <;> decide
  have hend : (legacySwitch legacy).longName ≠ ['-', '-'] := by
    cases legacy <;> decide
  have hword : option? [.help, .legacy, .noLegacy] (legacySwitch legacy).longName =
      some (legacySwitch legacy, none) := by
    cases legacy <;> decide
  have hvalue : (legacySwitch legacy).takesValue = false := by
    cases legacy <;> rfl
  exact scan_switch hoption hend hword hvalue words

theorem ofWords_encode {t : Text} (h : t.head? ≠ some '-') (legacy : Bool) {words : List Text}
    (hwords : words ∈ [[(legacySwitch legacy).longName, t], [t, (legacySwitch legacy).longName]]) :
    ofWords "encode".toList (words.map .text) = .ok (.encode (.text t) (some legacy)) := by
  have hscan : scan [.help, .legacy, .noLegacy] true (words.map .text) =
      .ok ([(legacySwitch legacy, [])], [.text t]) := by
    have hargument : (EntryKey.text t).reading.head? ≠ some '-' := h
    rcases List.mem_pair.mp hwords with rfl | rfl
    · rw [List.map_cons, List.map_singleton, scan_legacySwitch, scan_argument hargument]
      rfl
    · rw [List.map_cons, List.map_singleton, scan_argument hargument, scan_legacySwitch]
      rfl
  rw [ofWords, if_neg (by decide), if_pos rfl, parts, hscan]
  cases legacy <;> rfl

theorem runDecode_of_decode {input : Option Text.Bytes} {fs : FileTree} {w : Word}
    {d : FilterDraft} (hsource : source input fs w = .ok w)
    (h : (Expression.decodeDraft false (.ofKey w)).outcome = .ok d) :
    ∃ events, runDecode .default input fs (some w) none none =
      Report.after events (printDraft fs .json d) := by
  have hdecoded : (Logged.ofExcept (expression input fs (some w)) >>= fun w =>
      Expression.decodeDraft false (.ofKey w)) = Expression.decodeDraft false (.ofKey w) := by
    rw [expression, hsource, Logged.ofExcept_bind_ok]
  have hstrict : (none : Option Bool).getD Settings.default.strict.truth = false := rfl
  refine ⟨(Expression.decodeDraft false (.ofKey w)).events, ?_⟩
  rw [runDecode]
  simp only [withFormat, hstrict, hdecoded, h]
  rfl

theorem printDraft_ofFilterSet (fs : FileTree) (s : FilterSet) :
    printDraft fs .json (.ofFilterSet s) =
      Report.print fs (echoJson (FilterDraft.ofFilterSet s).toValue) := by
  rw [printDraft, if_pos (FilterDraft.isWritable_ofFilterSet s)]

theorem printDraft_of_hasUnpaired (fs : FileTree) {d : FilterDraft} (h : d.HasUnpaired) :
    printDraft fs .json d = Report.crash fs .unwritable := by
  obtain ⟨c, hc, hunpaired⟩ := h
  have hwritable : isWritable d = false := by
    rw [isWritable, Bool.and_eq_false_iff, List.all_eq_false]
    exact Or.inr ⟨_, hc, by simp [hunpaired]⟩
  rw [printDraft, hwritable, if_neg Bool.false_ne_true]

/-- The report on a filter set that is written, or cannot be. -/
def written (fs : FileTree) : Except CodecError (Option Text) → Report
  | .ok wire => Report.print fs (echo (wire.getD "null".toList))
  | .error e => Report.fail fs e.message

/-- The expression of a draft that stands for a filter set is that of the set. -/
theorem encodeEntries_of_draft {fs : FileTree} {es : Entries} {s : FilterSet}
    (h : FilterDraft.ofEntries es = .ok (FilterDraft.ofFilterSet s)) (legacy : Bool) :
    ∃ events, encodeEntries fs legacy es =
      Report.after events (written fs (FilterSet.encode legacy s).outcome) := by
  have hencoded : (Logged.ofExcept (FilterDraft.ofEntries es) >>= fun d =>
      d.encode legacy >>= fun t => if isWritable d then pure (t.getD "null".toList)
        else Logged.fail .unwritable) =
      ((FilterSet.encode legacy s).mapError .codec >>= fun t => pure (t.getD "null".toList)) := by
    rw [h, Logged.ofExcept_bind_ok, FilterDraft.encode_ofFilterSet]
    simp only [FilterDraft.isWritable_ofFilterSet, if_true]
  rw [encodeEntries, hencoded]
  refine ⟨_, congrArg _ ?_⟩
  rw [Logged.outcome_bind, Logged.outcome_mapError]
  cases (FilterSet.encode legacy s).outcome with
  | error e => rfl
  | ok wire => rfl

/-- A text that stands for itself is read as a document. -/
theorem runEncode_of_text (s : Settings) {input : Option Text.Bytes} {fs : FileTree} {t : Text}
    (hsource : source input fs (.text t) = .ok (.text t)) (hne : t ≠ []) (given : Option Bool) :
    runEncode s input fs (.text t) given = match Json.read t with
      | .error ⟨.integerTooLong, _⟩ => Report.crash fs .integerTooLong
      | .error fault => Report.fail fs (inputLabel ++ fault.message t)
      | .ok (.dict es) => encodeEntries fs (given.getD s.legacy.truth) es
      | .ok _ => Report.fail fs "Filter set must be a JSON object".toList := by
  have hnonempty : (EntryKey.text t).reading.isEmpty = false := List.isEmpty_eq_false_iff.mpr hne
  rw [runEncode, hsource]
  simp only [hnonempty, Bool.false_eq_true, if_false]
  rfl

theorem runEncode_document (input : Option Text.Bytes) (fs : FileTree) (s : FilterSet)
    (legacy : Bool) : ∃ events, runEncode .default input fs
        (.text (Json.render Json.pretty (FilterDraft.ofFilterSet s).toValue)) (some legacy) =
      Report.after events (written fs (FilterSet.encode legacy s).outcome) := by
  obtain ⟨r, hr⟩ : ∃ r, Json.render Json.pretty (FilterDraft.ofFilterSet s).toValue = '{' :: r :=
    ⟨_, rfl⟩
  have hread := FilterDraft.read_document s
  -- the brace in front is all that the choice of the source looks at
  rw [hr] at hread ⊢
  have hsource : source input fs (.text ('{' :: r)) = .ok (.text ('{' :: r)) := rfl
  rw [runEncode_of_text _ hsource (List.cons_ne_nil _ _), hread]
  exact encodeEntries_of_draft (FilterDraft.ofValue_toValue s) legacy

end Command

/-- A call whose query is a surrogate. -/
theorem Expression.decodeDraft_surrogate :
    (decodeDraft false (.ofKey (.unpaired ("(EQ([a], ".toList.map (·.toNat) ++ 0xDCFF ::
      ")) ?: false".toList.map (·.toNat))))).outcome = .ok ⟨.str "AND".toList, .bool false,
        [.condition ⟨.str "[a]".toList, .str "Is equal to".toList, .unpaired [0xDCFF]⟩]⟩ := by
  have hlossy : (FilterSet.decode false "(EQ([a], \uFFFD)) ?: false".toList).outcome =
    .ok ⟨some .and, false, [some ⟨"[a]".toList, "Is equal to".toList, ['\uFFFD']⟩]⟩ := by rfl
  have hmarked : (FilterSet.decode false ("(EQ([a], ".toList ++ Char.ofNat 0x1004FF ::
      ")) ?: false".toList)).outcome = .ok ⟨some .and, false,
    [some ⟨"[a]".toList, "Is equal to".toList, [Char.ofNat 0x1004FF]⟩]⟩ := by rfl
  exact outcome_decodeDraft_eq_ok_iff.mpr ⟨_, _, hlossy, hmarked, by rfl⟩

namespace Invocation

open Command (legacySwitch)

/-- Given the document of a filter set, in either order of the words, the second command reports on
the expression of the set. -/
theorem encode_document {j : Invocation} (hj : j.UsesDefaults) {s : FilterSet} {legacy : Bool}
    {document : Text} (hdocument : document = Json.render Json.pretty
      (FilterDraft.ofFilterSet s).toValue) {words : List Text}
    (hwords : words ∈ [[(legacySwitch legacy).longName, document],
      [document, (legacySwitch legacy).longName]]) :
    (run { j with words := "encode".toList :: words }).ending =
        (Command.written j.files (FilterSet.encode legacy s).outcome).ending ∧
      (run { j with words := "encode".toList :: words }).out =
        (Command.written j.files (FilterSet.encode legacy s).outcome).out := by
  subst hdocument
  have hcommand := Command.ofWords_encode (FilterDraft.head?_ne_hyphen s) legacy hwords
  obtain ⟨events, hreport⟩ := Command.runEncode_document j.input j.files s legacy
  obtain ⟨hending, hout, -, -⟩ := run_of_defaults
    (i := { j with words := "encode".toList :: words }) hj (by decide) rfl hcommand
  rw [hending, hout, Command.run, hreport]
  exact ⟨rfl, rfl⟩

/-- A filter set that was read from a word is printed, unless one of its queries has an unpaired
surrogate: then the run breaks off without a word, which no text brings about. What is printed is a
document from which the set comes back, and which the second command takes for it: the second prints
the expression of the set, or fails on a hole. -/
theorem pipe_lossless {w : Word} {d : FilterDraft} {i j : Invocation} (hi : i.UsesDefaults)
    (hj : j.UsesDefaults) (hhyphen : w.reading.head? ≠ some '-')
    (hat : w.reading.head? ≠ some '@') (hescape : '\x1b' ∉ w.reading)
    (hdecode : (Expression.decodeDraft false (.ofKey w)).outcome = .ok d) :
    (∀ t, w = .text t → ¬ d.HasUnpaired) ∧
    (d.HasUnpaired →
      (i.runOn [.text "decode".toList, w]).ending = .crash .unwritable ∧
      (i.runOn [.text "decode".toList, w]).ending.exitCode = 1 ∧
      (i.runOn [.text "decode".toList, w]).out = [] ∧
      (i.runOn [.text "decode".toList, w]).err = []) ∧
    (¬ d.HasUnpaired → ∃ s, (FilterSet.decode false w.reading).outcome = .ok s ∧
      d = .ofFilterSet s ∧
      ∃ document : Text,
        (i.runOn [.text "decode".toList, w]).ending.exitCode = 0 ∧
        (i.runOn [.text "decode".toList, w]).out = document ++ ['\n'] ∧
        (∃ v, Json.read document = .ok v ∧ FilterDraft.ofValue v = .ok (.ofFilterSet s)) ∧
        ∀ legacy, ∀ words ∈ [[(legacySwitch legacy).longName, document],
            [document, (legacySwitch legacy).longName]],
          (none ∉ s.filters → ∃ wire, (FilterSet.encode legacy s).outcome = .ok wire ∧
            (wire = none ↔ s.filters = []) ∧
            (run { j with words := "encode".toList :: words }).ending.exitCode = 0 ∧
            (run { j with words := "encode".toList :: words }).out =
              wire.getD "null".toList ++ ['\n']) ∧
          (none ∈ s.filters →
            (run { j with words := "encode".toList :: words }).ending.exitCode = 1)) := by
  have hsource := Command.source_of_head i.input i.files hhyphen hat
  obtain ⟨events, hreport⟩ := Command.runDecode_of_decode hsource hdecode
  obtain ⟨hending, hout, herr, -⟩ :=
    runOn_of_defaults hi (by decide) (Command.ofWords_decode hhyphen)
  refine ⟨?_, fun hunpaired => ?_, fun hpaired => ?_⟩
  · rintro t rfl
    obtain ⟨s, s', hs, hs', rfl⟩ := Expression.outcome_decodeDraft_eq_ok_iff.mp hdecode
    obtain rfl := Except.ok.inj (hs.symm.trans hs')
    rw [FilterDraft.ofReadings_self]
    exact FilterDraft.not_hasUnpaired_ofFilterSet s
  · rw [hending, hout, herr, Command.run, hreport, Command.printDraft_of_hasUnpaired _ hunpaired]
    exact ⟨rfl, rfl, rfl, rfl⟩
  · obtain ⟨s, hs, rfl⟩ := Expression.eq_ofFilterSet_of_paired hdecode hpaired
    rw [Command.printDraft_ofFilterSet] at hreport
    refine ⟨s, hs, rfl, Json.render Json.pretty (FilterDraft.ofFilterSet s).toValue, ?_, ?_,
      ⟨_, FilterDraft.read_document s, FilterDraft.ofValue_toValue s⟩, ?_⟩
    · rw [hending, Command.run, hreport]
      rfl
    · rw [hout, Command.run, hreport]
      exact Command.echo_of_absent (FilterDraft.escape_notMem_document s)
    · intro legacy words hwords
      obtain ⟨hending, hout⟩ := encode_document hj rfl hwords
      constructor
      · intro hwhole
        obtain ⟨wire, hwire, hempty, hclear⟩ := FilterSet.encode_of_decode hs hwhole legacy
        rw [hwire] at hending hout
        have hprinted : '\x1b' ∉ wire.getD "null".toList := by
          cases wire with
          | none => decide
          | some u => exact hclear hescape u rfl
        refine ⟨wire, hwire, hempty, ?_, hout.trans (Command.echo_of_absent hprinted)⟩
        rw [hending]
        rfl
      · intro hhole
        obtain ⟨e, he⟩ := FilterSet.encode_of_hole hhole legacy
        rw [hending, he]
        rfl

/-- A quote, a backslash, a bell, a line separator, an astral character, and a query that looks like
a document; a surrogate in a segment that is no call, and one in a query. -/
theorem pipe_lossless_of_odd_characters :
    let start : Invocation := ⟨[], none, none, ⟨[], [], ⟨['/'], []⟩, []⟩, ⟨0, 0, 0, []⟩⟩
    let around (before after : String) : Word := .unpaired <|
      before.toList.map (·.toNat) ++ 0xDCFF :: after.toList.map (·.toNat)
    (∃ document : Text,
      (start.runOn [.text "decode".toList, .text ("(EQ([a], \" \\ \x07 \u2028 😀) AND " ++
        "LT([b], \x7b\"filters\": [null]\x7d)) ?: false").toList]).out = document ++ ['\n'] ∧
      (run { start with words := ["encode".toList, "--no-legacy".toList, document] }).out =
        ("(EQ([a], \" \\ \x07 \u2028 😀) AND " ++
          "LT([b], \x7b\"filters\": [null]\x7d)) ?: false\n").toList) ∧
    (∃ document : Text,
      (start.runOn [.text "decode".toList, around "(EQ([a], 1) OR x" ") ?: false"]).out =
        document ++ ['\n'] ∧
      (run { start with words := ["encode".toList, "--legacy".toList, document] }).ending.exitCode =
        1) ∧
    (start.runOn [.text "decode".toList, around "(EQ([a], " ")) ?: false"]).ending =
      .crash .unwritable := by
  intro start around
  have hstart : start.UsesDefaults := usesDefaults_of_noFile (by rfl)
  refine ⟨?_, ?_, ?_⟩
  · have hs : (FilterSet.decode false ("(EQ([a], \" \\ \x07 \u2028 😀) AND " ++
        "LT([b], \x7b\"filters\": [null]\x7d)) ?: false").toList).outcome =
      .ok ⟨some .and, false,
        [some ⟨"[a]".toList, "Is equal to".toList, "\" \\ \x07 \u2028 😀".toList⟩,
          some ⟨"[b]".toList, "Less than".toList, "\x7b\"filters\": [null]\x7d".toList⟩]⟩ := by rfl
    have hdecode := Expression.outcome_decodeDraft_eq_ok_iff (w := .text _) |>.mpr
      ⟨_, _, hs, hs, rfl⟩
    obtain ⟨htext, -, hpipe⟩ :=
      pipe_lossless hstart hstart (by decide) (by decide) (by decide) hdecode
    obtain ⟨s, hs', -, document, -, hout, -, hencode⟩ := hpipe (htext _ rfl)
    obtain rfl := Except.ok.inj (hs.symm.trans hs')
    obtain ⟨wire, hwire, -, -, hwritten⟩ := (hencode false _ List.mem_cons_self).1 (by decide)
    obtain rfl := Except.ok.inj hwire
    exact ⟨document, hout, hwritten⟩
  · let s : FilterSet := ⟨some .or, false, [some ⟨"[a]".toList, "Is equal to".toList, ['1']⟩, none]⟩
    have hs : (FilterSet.decode false "(EQ([a], 1) OR x\uFFFD) ?: false".toList).outcome =
      .ok s := by rfl
    have hs' : (FilterSet.decode false ("(EQ([a], 1) OR x".toList ++ Char.ofNat 0x1004FF ::
      ") ?: false".toList)).outcome = .ok s := by rfl
    have hdecode := Expression.outcome_decodeDraft_eq_ok_iff
      (w := around "(EQ([a], 1) OR x" ") ?: false") |>.mpr ⟨s, s, hs, hs', rfl⟩
    have hpaired : ¬ (FilterDraft.ofReadings s s).HasUnpaired :=
      FilterDraft.ofReadings_self s ▸ FilterDraft.not_hasUnpaired_ofFilterSet s
    obtain ⟨-, -, hpipe⟩ := pipe_lossless hstart hstart (by decide) (by decide) (by decide) hdecode
    obtain ⟨s', hs', -, document, -, hout, -, hencode⟩ := hpipe hpaired
    obtain rfl := Except.ok.inj (hs.symm.trans hs')
    exact ⟨document, hout, (hencode true _ List.mem_cons_self).2 (by decide)⟩
  · obtain ⟨-, hcrash, -⟩ := pipe_lossless hstart hstart (by decide) (by decide) (by decide)
      Expression.decodeDraft_surrogate
    exact (hcrash ⟨_, List.mem_cons_self, rfl⟩).1

/-- What holds a surrogate is read, and then it cannot be printed. -/
theorem decode_breaks_off_at_surrogate :
    let i : Invocation := ⟨[], none, none, ⟨[], [], ⟨['/'], []⟩, []⟩, ⟨0, 0, 0, []⟩⟩
    let w : Word := .unpaired ("(EQ([a], ".toList.map (·.toNat) ++ 0xDCFF ::
      ")) ?: false".toList.map (·.toNat))
    i.UsesDefaults ∧ w.reading.head? ≠ some '-' ∧ w.reading.head? ≠ some '@' ∧
      '\x1b' ∉ w.reading ∧
      (Expression.decodeDraft false (.ofKey w)).outcome = .ok ⟨.str "AND".toList, .bool false,
        [.condition ⟨.str "[a]".toList, .str "Is equal to".toList, .unpaired [0xDCFF]⟩]⟩ ∧
      (i.runOn [.text "decode".toList, w]).ending = .crash .unwritable ∧
      (i.runOn [.text "decode".toList, w]).ending.exitCode ≠ 0 ∧
      (i.runOn [.text "decode".toList, w]).out = [] := by
  intro i w
  have hi : i.UsesDefaults := usesDefaults_of_noFile (by rfl)
  have hhyphen : w.reading.head? ≠ some '-' := by decide
  have hat : w.reading.head? ≠ some '@' := by decide
  have hsource := Command.source_of_head i.input i.files hhyphen hat
  obtain ⟨events, hreport⟩ :=
    Command.runDecode_of_decode hsource Expression.decodeDraft_surrogate
  rw [Command.printDraft_of_hasUnpaired _ ⟨_, List.mem_cons_self, rfl⟩] at hreport
  obtain ⟨hending, hout, -, -⟩ :=
    runOn_of_defaults hi (by decide) (Command.ofWords_decode hhyphen)
  rw [Command.run, hreport] at hending hout
  refine ⟨hi, hhyphen, hat, by decide, Expression.decodeDraft_surrogate, hending, ?_, hout⟩
  rw [hending]
  exact Nat.one_ne_zero

end Invocation

end FilterWire
