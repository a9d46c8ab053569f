import FilterWire.Proofs.FilterSet.Reading

/-!
# Strict and lenient reading

Both readings go through the same segments in the same order. The strict
one stops where the lenient one leaves its first hole, so what the strict
reading does can be told from the outcome and the events of the lenient one.
-/

namespace FilterWire

/-- The segment that an event tells to be left as a hole. -/
def Event.hole? : Event → Option Text
  | keptMalformed segment => some segment
  | _ => none

namespace Logged

variable {ε α β : Type}

/-- The segments that are left as holes, in order. -/
def holes (x : Logged ε α) : List Text :=
  x.events.filterMap Event.hole?

/-- The outcome if the first hole counts as an error. -/
def strictly (x : Logged CodecError α) : Except CodecError α :=
  match x.holes with
  | segment :: _ => .error (.malformed segment)
  | [] => x.outcome

/-- Nothing but holes is warned of. -/
def WarnsOfHoles (x : Logged ε α) : Prop :=
  x.warnings = x.holes.map .keptMalformed

/-! ## Holes -/

theorem holes_bind_of_ok {x : Logged ε α} {a : α} (h : x.outcome = .ok a) (f : α → Logged ε β) :
    (x >>= f).holes = x.holes ++ (f a).holes := by
  rw [holes, events_bind_of_ok h, List.filterMap_append]
  rfl

theorem holes_bind_of_error {x : Logged ε α} {e : ε} (h : x.outcome = .error e)
    (f : α → Logged ε β) : (x >>= f).holes = x.holes := by
  rw [holes, events_bind_of_error h]
  rfl

theorem WarnsOfHoles.bind {x : Logged ε α} {f : α → Logged ε β} (hx : x.WarnsOfHoles)
    (hf : ∀ a, (f a).WarnsOfHoles) : (x >>= f).WarnsOfHoles := by
  rw [WarnsOfHoles, warnings] at hx ⊢
  cases h : x.outcome with
  | error e => rw [events_bind_of_error h, holes_bind_of_error h, hx]
  | ok a =>
      have ha : (f a).events.filter (·.isWarning) = (f a).holes.map .keptMalformed := hf a
      rw [events_bind_of_ok h, holes_bind_of_ok h, List.filter_append, hx, ha, List.map_append]

theorem WarnsOfHoles.each {f : α → Logged ε β} (hf : ∀ a, (f a).WarnsOfHoles) (as : List α) :
    (Logged.each f as).WarnsOfHoles := by
  induction as with
  | nil => rfl
  | cons a as ih => exact (hf a).bind fun b => ih

/-! ## Reading strictly -/

section Strictly

theorem strictly_of_holes_eq_nil {x : Logged CodecError α} (h : x.holes = []) :
    x.strictly = x.outcome := by
  rw [strictly, h]

theorem strictly_of_holes_eq_cons {x : Logged CodecError α} {segment : Text} {rest : List Text}
    (h : x.holes = segment :: rest) : x.strictly = .error (.malformed segment) := by
  rw [strictly, h]

/-- What comes after a hole does not matter. -/
theorem strictly_bind (x : Logged CodecError α) (f : α → Logged CodecError β) :
    (x >>= f).strictly = x.strictly >>= fun a => (f a).strictly := by
  cases hx : x.holes with
  | nil =>
      rw [strictly_of_holes_eq_nil hx]
      cases h : x.outcome with
      | error e =>
          rw [strictly_of_holes_eq_nil ((holes_bind_of_error h f).trans hx), outcome_bind, h]
          rfl
      | ok a =>
          have hholes : (x >>= f).holes = (f a).holes := by
            rw [holes_bind_of_ok h, hx, List.nil_append]
          have houtcome : (x >>= f).outcome = (f a).outcome := by
            rw [outcome_bind, h]
            rfl
          rw [strictly, hholes, houtcome]
          rfl
  | cons segment rest =>
      rw [strictly_of_holes_eq_cons hx]
      cases h : x.outcome with
      | error e => exact strictly_of_holes_eq_cons ((holes_bind_of_error h f).trans hx)
      | ok a =>
          have hholes : (x >>= f).holes = segment :: (rest ++ (f a).holes) := by
            rw [holes_bind_of_ok h, hx, List.cons_append]
          exact strictly_of_holes_eq_cons hholes

theorem strictly_map (g : α → β) (x : Logged CodecError α) :
    (x.map g).strictly = x.strictly.map g := by
  have hholes : (x.map g).holes = x.holes := rfl
  rw [strictly, strictly, hholes]
  cases x.holes with
  | nil => rfl
  | cons segment rest => rfl

theorem strictly_each (f : α → Logged CodecError β) (as : List α) :
    (each f as).strictly = as.mapM fun a => (f a).strictly := by
  induction as with
  | nil => rfl
  | cons a as ih =>
      rw [List.mapM_cons, each]
      change (f a >>= fun b => (each f as).map (b :: ·)).strictly = _
      simp only [strictly_bind, strictly_map, ih]
      rfl

end Strictly

end Logged

namespace FilterSet

open Logged (WarnsOfHoles strictly_bind strictly_each strictly_of_holes_eq_nil
  strictly_of_holes_eq_cons holes_bind_of_ok)

/-! ## One segment -/

theorem events_condition (s : Text) :
    (Condition.decode s).holes = [] ∧ (Condition.decode s).WarnsOfHoles := by
  rw [Condition.decode]
  cases Call.find? s with
  | none => exact ⟨rfl, rfl⟩
  | some call =>
      dsimp only
      cases Condition.ofCall call with
      | error e => exact ⟨rfl, rfl⟩
      | ok c => exact ⟨rfl, rfl⟩

/-- A segment is read as a condition first, whatever becomes of one that holds no call. -/
theorem decodeSegment_eq_bind (strict : Bool) (s : Text) :
    decodeSegment strict s = Condition.decode s >>= (fun f => match f with
      | some c => pure (some c)
      | none =>
        if strict then Logged.fail (.malformed s)
        else Logged.note (.keptMalformed s) >>= fun _ => pure none) := rfl

theorem outcome_decodeSegment_strict (s : Text) :
    (decodeSegment true s).outcome = (decodeSegment false s).strictly := by
  rw [decodeSegment_eq_bind, decodeSegment_eq_bind, strictly_bind, Logged.outcome_bind,
    strictly_of_holes_eq_nil (events_condition s).1]
  cases (Condition.decode s).outcome with
  | error e => rfl
  | ok f => cases f <;> rfl

theorem holes_decodeSegment {s : Text} {f : Option Condition}
    (h : (Condition.decode s).outcome = .ok f) :
    (decodeSegment false s).holes = if f.isNone then [s] else [] := by
  rw [decodeSegment_eq_bind, holes_bind_of_ok h, (events_condition s).1]
  cases f <;> rfl

theorem warnsOfHoles_decodeSegment (s : Text) : (decodeSegment false s).WarnsOfHoles := by
  rw [decodeSegment_eq_bind]
  apply (events_condition s).2.bind
  intro f
  cases f <;> rfl

theorem unknown_of_condition {s : Text} {e : CodecError}
    (h : (Condition.decode s).outcome = .error e) : ∃ key name, e = .unknown key name := by
  rw [Condition.decode] at h
  cases hfind : Call.find? s with
  | none =>
      rw [hfind] at h
      cases h
  | some call =>
      rw [hfind] at h
      simp only [Logged.outcome_bind, Logged.outcome_ofExcept, Condition.ofCall,
        Condition.comparatorOf] at h
      split at h
      · cases h
      · split at h
        · cases h
        · obtain rfl := Except.error.inj h
          exact ⟨_, _, rfl⟩

/-! ## All segments -/

/-- The segments at whose places there is nothing. -/
def holesAmong (ss : List Text) (fs : List (Option Condition)) : List Text :=
  ((ss.zip fs).filter fun p => p.2.isNone).map Prod.fst

theorem holesAmong_cons (s : Text) (ss : List Text) (f : Option Condition)
    (fs : List (Option Condition)) :
    holesAmong (s :: ss) (f :: fs) = (if f.isNone then [s] else []) ++ holesAmong ss fs := by
  cases f <;> rfl

theorem length_holesAmong {ss : List Text} {fs : List (Option Condition)}
    (h : ss.length = fs.length) : (holesAmong ss fs).length = fs.countP (·.isNone) := by
  induction ss generalizing fs with
  | nil =>
      obtain rfl := List.length_eq_zero_iff.mp h.symm
      rfl
  | cons s ss ih =>
      cases fs with
      | nil => cases h
      | cons f fs =>
          rw [holesAmong_cons, List.length_append, ih (Nat.succ.inj h), List.countP_cons]
          cases f with
          | none => exact Nat.add_comm _ _
          | some c => exact Nat.zero_add _

theorem holes_each_decodeSegment {ss : List Text} {fs : List (Option Condition)}
    (h : (ss.mapM fun s => (Condition.decode s).outcome) = .ok fs) :
    (Logged.each (decodeSegment false) ss).holes = holesAmong ss fs := by
  induction ss generalizing fs with
  | nil =>
      obtain rfl := Except.ok.inj h
      rfl
  | cons s ss ih =>
      obtain ⟨f, rest, hf, hrest, rfl⟩ := mapM_cons_eq_ok_iff.mp h
      have hsegment : (decodeSegment false s).outcome = .ok f := by
        rw [outcome_decodeSegment_lenient, hf]
      change (decodeSegment false s >>= fun f =>
        (Logged.each (decodeSegment false) ss).map (f :: ·)).holes = _
      rw [holes_bind_of_ok hsegment, holes_decodeSegment hf, holesAmong_cons, ← ih hrest]
      rfl

/-- The event after the last segment tells of no hole. -/
theorem decodeBody_eq_bind (strict absent : Bool) (body : Text) :
    decodeBody strict absent body =
      Logged.each (decodeSegment strict) (segments ((Mode.find? body).getD .and) body) >>=
        fun filters => Logged.note (.decoded filters.length ((Mode.find? body).getD .and) absent) >>=
          fun _ => pure ⟨some ((Mode.find? body).getD .and), absent, filters⟩ := rfl

theorem outcome_decodeBody_strict (absent : Bool) (body : Text) :
    (decodeBody true absent body).outcome = (decodeBody false absent body).strictly := by
  rw [decodeBody_eq_bind, decodeBody_eq_bind, strictly_bind, strictly_each, Logged.outcome_bind,
    Logged.outcome_each]
  simp only [outcome_decodeSegment_strict]
  rfl

/-- A lenient reading that gets through fills one place for each segment. -/
theorem decodeBody_lenient {absent : Bool} {body : Text} {s : FilterSet}
    (h : (decodeBody false absent body).outcome = .ok s) :
    ((segments ((Mode.find? body).getD .and) body).mapM
        fun piece => (Condition.decode piece).outcome) = .ok s.filters ∧
      (decodeBody false absent body).holes =
        holesAmong (segments ((Mode.find? body).getD .and) body) s.filters := by
  have heach : (Logged.each (decodeSegment false)
      (segments ((Mode.find? body).getD .and) body)).outcome =
        (segments ((Mode.find? body).getD .and) body).mapM
          fun piece => (Condition.decode piece).outcome := by
    simp only [Logged.outcome_each, outcome_decodeSegment_lenient]
  rw [decodeBody_eq_bind, Logged.outcome_bind, heach] at h
  cases hread : (segments ((Mode.find? body).getD .and) body).mapM
      fun piece => (Condition.decode piece).outcome with
  | error e =>
      rw [hread] at h
      cases h
  | ok filters =>
      rw [hread] at h heach
      obtain rfl := Except.ok.inj h
      refine ⟨rfl, ?_⟩
      rw [decodeBody_eq_bind, holes_bind_of_ok heach, holes_each_decodeSegment hread]
      exact List.append_nil _

theorem warnsOfHoles_decodeBody (absent : Bool) (body : Text) :
    (decodeBody false absent body).WarnsOfHoles := by
  rw [decodeBody_eq_bind]
  apply (WarnsOfHoles.each warnsOfHoles_decodeSegment _).bind
  exact fun filters => rfl

theorem unknown_of_decodeBody {absent : Bool} {body : Text} {e : CodecError}
    (h : (decodeBody false absent body).outcome = .error e) :
    ∃ key name, e = .unknown key name := by
  rw [outcome_decodeBody] at h
  cases hfilters : (segments ((Mode.find? body).getD .and) body).mapM
      fun s => (decodeSegment false s).outcome with
  | error e' =>
      rw [hfilters] at h
      obtain rfl := Except.error.inj h
      obtain ⟨s, -, hs⟩ := exists_of_mapM_eq_error hfilters
      rw [outcome_decodeSegment_lenient] at hs
      exact unknown_of_condition hs
  | ok filters =>
      rw [hfilters] at h
      cases h

/-! ## Expressions -/

/-- The segments of an expression; one whose parentheses do not fit has none. -/
def pieces (t : Text) : List Text :=
  match unwrap t.trim with
  | .ok (_, body) => segments ((Mode.find? body).getD .and) body
  | .error _ => []

/-- The strict reading is the lenient one up to its first hole. -/
theorem outcome_decode_strict (t : Text) :
    (decode true t).outcome = (decode false t).strictly := by
  rcases decode_cases t with ⟨-, hdecode⟩ | ⟨e, -, hdecode⟩ | ⟨absent, body, -, hdecode⟩
  · rw [hdecode, hdecode]
    rfl
  · rw [hdecode, hdecode]
    rfl
  · rw [hdecode, hdecode]
    exact outcome_decodeBody_strict absent body

theorem warnsOfHoles_decode (t : Text) : (decode false t).WarnsOfHoles := by
  rcases decode_cases t with ⟨-, hdecode⟩ | ⟨e, -, hdecode⟩ | ⟨absent, body, -, hdecode⟩
  · rw [hdecode]
    rfl
  · rw [hdecode]
    rfl
  · rw [hdecode]
    exact warnsOfHoles_decodeBody absent body

theorem decode_lenient {t : Text} {s : FilterSet} (h : (decode false t).outcome = .ok s) :
    ((pieces t).mapM fun piece => (Condition.decode piece).outcome) = .ok s.filters ∧
      (decode false t).holes = holesAmong (pieces t) s.filters := by
  rcases decode_cases t with ⟨hblank, hdecode⟩ | ⟨e, -, hdecode⟩ | ⟨absent, body, hunwrap, hdecode⟩
  · rw [hdecode] at h ⊢
    obtain rfl := Except.ok.inj h
    have hpieces : pieces t = [] := by
      rw [pieces, hblank]
      rfl
    rw [hpieces]
    exact ⟨rfl, rfl⟩
  · rw [hdecode] at h
    cases h
  · rw [hdecode] at h ⊢
    rw [pieces, hunwrap]
    exact decodeBody_lenient h

/-- Parentheses are looked at before any segment is read. -/
theorem unknown_or_holes_eq_nil {t : Text} {e : CodecError}
    (h : (decode false t).outcome = .error e) :
    (∃ key name, e = .unknown key name) ∨ (decode false t).holes = [] := by
  rcases decode_cases t with ⟨-, hdecode⟩ | ⟨e', -, hdecode⟩ | ⟨absent, body, -, hdecode⟩
  · rw [hdecode] at h
    cases h
  · rw [hdecode]
    exact Or.inr rfl
  · rw [hdecode] at h
    exact Or.inl (unknown_of_decodeBody h)

theorem outcome_decode_strict_of_unwarned {t : Text} (h : (decode false t).warnings = []) :
    (decode true t).outcome = (decode false t).outcome := by
  have hholes : (decode false t).holes = [] :=
    List.map_eq_nil_iff.mp ((warnsOfHoles_decode t).symm.trans h)
  rw [outcome_decode_strict, strictly_of_holes_eq_nil hholes]

theorem outcome_decode_strict_of_warned {t : Text} (h : (decode false t).warnings ≠ []) :
    ∃ segment, (decode false t).warnings.head? = some (.keptMalformed segment) ∧
      (decode true t).outcome = .error (.malformed segment) := by
  have hwarnings : (decode false t).warnings = (decode false t).holes.map .keptMalformed :=
    warnsOfHoles_decode t
  cases hholes : (decode false t).holes with
  | nil => exact absurd (by rw [hwarnings, hholes]; rfl) h
  | cons segment rest =>
      refine ⟨segment, ?_, ?_⟩
      · rw [hwarnings, hholes]
        rfl
      · rw [outcome_decode_strict, strictly_of_holes_eq_cons hholes]

/-- A reading that gets through warns of each of its holes, in order. -/
theorem warnings_decode_lenient {t : Text} {s : FilterSet} (h : (decode false t).outcome = .ok s) :
    (decode false t).warnings = (holesAmong (pieces t) s.filters).map .keptMalformed ∧
      (decode false t).warnings.length = s.malformedCount := by
  obtain ⟨hread, hholes⟩ := decode_lenient h
  have hwarnings : (decode false t).warnings = (decode false t).holes.map .keptMalformed :=
    warnsOfHoles_decode t
  refine ⟨by rw [hwarnings, hholes], ?_⟩
  rw [hwarnings, hholes, List.length_map, length_holesAmong (length_of_mapM_eq_ok hread).symm]
  rfl

theorem outcome_decode_strict_eq_ok_iff {t : Text} {s : FilterSet} :
    (decode true t).outcome = .ok s ↔
      (decode false t).outcome = .ok s ∧ s.malformedCount = 0 := by
  constructor
  · intro h
    by_cases hwarnings : (decode false t).warnings = []
    · have hlenient : (decode false t).outcome = .ok s := by
        rw [← outcome_decode_strict_of_unwarned hwarnings, h]
      refine ⟨hlenient, ?_⟩
      rw [← (warnings_decode_lenient hlenient).2, hwarnings]
      rfl
    · obtain ⟨segment, -, hrefused⟩ := outcome_decode_strict_of_warned hwarnings
      rw [h] at hrefused
      cases hrefused
  · rintro ⟨h, hcount⟩
    have hwarnings : (decode false t).warnings = [] := by
      rw [← List.length_eq_zero_iff, (warnings_decode_lenient h).2, hcount]
    rw [outcome_decode_strict_of_unwarned hwarnings, h]

/-- The strict reading can be told from the lenient one: it gives the same filter set if that has
no hole, it refuses the first segment that is warned of, and otherwise it fails in the same way.
Parentheses fail before any warning. -/
theorem decode_strict_of_lenient (t : Text) :
    (∀ s, (decode true t).outcome = .ok s ↔
      (decode false t).outcome = .ok s ∧ s.malformedCount = 0) ∧
    (∀ s, (decode false t).outcome = .ok s →
      ((pieces t).mapM fun piece => (Condition.decode piece).outcome) = .ok s.filters ∧
      (decode false t).warnings =
        (((pieces t).zip s.filters).filter (·.2.isNone)).map (.keptMalformed ·.1) ∧
      (decode false t).warnings.length = s.malformedCount ∧
      (s.malformedCount ≠ 0 →
        ∃ segment, (decode false t).warnings.head? = some (.keptMalformed segment) ∧
          (decode true t).outcome = .error (.malformed segment))) ∧
    (∀ e, (∃ start text, e = .noOpening start text) ∨ (∃ opening text, e = .unclosed opening text) →
      (decode false t).outcome = .error e → (decode true t).outcome = .error e) ∧
    (∀ key name, (decode false t).outcome = .error (.unknown key name) →
      ((decode false t).warnings = [] → (decode true t).outcome = .error (.unknown key name)) ∧
      ((decode false t).warnings ≠ [] →
        ∃ segment, (decode false t).warnings.head? = some (.keptMalformed segment) ∧
          (decode true t).outcome = .error (.malformed segment))) := by
  refine ⟨fun s => outcome_decode_strict_eq_ok_iff, ?_, ?_, ?_⟩
  · intro s h
    obtain ⟨hwarnings, hcount⟩ := warnings_decode_lenient h
    refine ⟨(decode_lenient h).1, by rw [hwarnings, holesAmong, List.map_map]; rfl, hcount, ?_⟩
    intro hne
    apply outcome_decode_strict_of_warned
    intro hnil
    rw [hnil] at hcount
    exact hne hcount.symm
  · intro e he h
    have hholes : (decode false t).holes = [] := by
      rcases unknown_or_holes_eq_nil h with ⟨key, name, rfl⟩ | hholes
      · rcases he with ⟨_, _, he⟩ | ⟨_, _, he⟩ <;> cases he
      · exact hholes
    rw [outcome_decode_strict, strictly_of_holes_eq_nil hholes, h]
  · intro key name h
    refine ⟨fun hwarnings => ?_, outcome_decode_strict_of_warned⟩
    rw [outcome_decode_strict_of_unwarned hwarnings, h]

/-- A segment that is no call stands before a call that nobody knows. -/
theorem decode_strict_of_hole_before_unknown :
    (decode false "(GT([a], 1) OR x OR NEAR([b], 2)) ?: false".toList).outcome =
        .error (.unknown .token (.str "NEAR".toList)) ∧
      (decode true "(GT([a], 1) OR x OR NEAR([b], 2)) ?: false".toList).outcome =
        .error (.malformed "x".toList) := by
  have hlenient : (decode false "(GT([a], 1) OR x OR NEAR([b], 2)) ?: false".toList).outcome =
      .error (.unknown .token (.str "NEAR".toList)) := by rfl
  have hwarnings : (decode false "(GT([a], 1) OR x OR NEAR([b], 2)) ?: false".toList).warnings =
      [.keptMalformed "x".toList] := by rfl
  obtain ⟨-, -, -, hunknown⟩ :=
    decode_strict_of_lenient "(GT([a], 1) OR x OR NEAR([b], 2)) ?: false".toList
  obtain ⟨segment, hfirst, hstrict⟩ := (hunknown _ _ hlenient).2 (by rw [hwarnings]; decide)
  rw [hwarnings] at hfirst
  obtain rfl := Event.keptMalformed.inj (Option.some.inj hfirst)
  exact ⟨hlenient, hstrict⟩

end FilterSet

end FilterWire
