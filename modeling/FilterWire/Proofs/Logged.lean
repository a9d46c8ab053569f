import FilterWire.Log
import Mathlib.Data.List.Forall2

/-!
# Outcomes of logged computations

Apart from its events a logged computation is an ordinary one: outcomes
are bound as such, and one computation for each element is a `mapM`.
-/

namespace FilterWire.Logged

variable {ε δ α β γ : Type}

@[simp] theorem outcome_pure (a : α) : (Pure.pure a : Logged ε α).outcome = .ok a := rfl

@[simp] theorem outcome_fail (e : ε) : (fail e : Logged ε α).outcome = .error e := rfl

@[simp] theorem outcome_note (e : Event) : (note e : Logged ε Unit).outcome = .ok () := rfl

@[simp] theorem outcome_ofExcept (x : Except ε α) : (ofExcept x).outcome = x := rfl

@[simp] theorem outcome_map (f : α → β) (x : Logged ε α) :
    (x.map f).outcome = x.outcome.map f := rfl

@[simp] theorem outcome_mapError (f : ε → δ) (x : Logged ε α) :
    (x.mapError f).outcome = x.outcome.mapError f := rfl

@[simp] theorem outcome_bind (x : Logged ε α) (f : α → Logged ε β) :
    (x >>= f).outcome = x.outcome >>= fun a => (f a).outcome := by
  obtain ⟨events, outcome⟩ := x
  cases outcome <;> rfl

theorem each_cons (f : α → Logged ε β) (a : α) (as : List α) :
    each f (a :: as) = f a >>= fun b => (each f as).map (b :: ·) := rfl

@[simp] theorem outcome_each (f : α → Logged ε β) (as : List α) :
    (each f as).outcome = as.mapM fun a => (f a).outcome := by
  induction as with
  | nil => rfl
  | cons a as ih =>
      rw [List.mapM_cons, each_cons]
      simp only [outcome_bind, outcome_map, ih]
      rfl

/-! ## Events -/

theorem events_bind_of_ok {x : Logged ε α} {a : α} (h : x.outcome = .ok a) (f : α → Logged ε β) :
    (x >>= f).events = x.events ++ (f a).events := by
  obtain ⟨events, outcome⟩ := x
  cases h
  rfl

theorem events_bind_of_error {x : Logged ε α} {e : ε} (h : x.outcome = .error e)
    (f : α → Logged ε β) : (x >>= f).events = x.events := by
  obtain ⟨events, outcome⟩ := x
  cases h
  rfl

/-- What notes nothing adds no events. -/
theorem events_bind_of_silent {f : α → Logged ε β} (hf : ∀ a, (f a).events = [])
    (x : Logged ε α) : (x >>= f).events = x.events := by
  cases h : x.outcome with
  | error e => exact events_bind_of_error h f
  | ok a => rw [events_bind_of_ok h, hf, List.append_nil]

/-- Elements that succeed leave their events, one after the other, before those of the rest. -/
theorem events_each_append {f : α → Logged ε β} {before : List α}
    (h : ∀ a ∈ before, ∃ b, (f a).outcome = .ok b) (as : List α) :
    (each f (before ++ as)).events =
      before.flatMap (fun a => (f a).events) ++ (each f as).events := by
  induction before with
  | nil => rfl
  | cons a before ih =>
      obtain ⟨⟨b, hb⟩, hbefore⟩ := List.forall_mem_cons.mp h
      have hrest : ((each f (before ++ as)).map (b :: ·)).events =
          before.flatMap (fun a => (f a).events) ++ (each f as).events := ih hbefore
      rw [List.cons_append, each_cons, events_bind_of_ok hb, hrest, List.flatMap_cons,
        List.append_assoc]

/-! ## Computations with other errors -/

theorem ofExcept_bind_ok (a : α) (f : α → Logged ε β) : (ofExcept (.ok a) >>= f) = f a := rfl

/-- What comes next only has to agree on a value that is reached. -/
theorem bind_congr {x : Logged ε α} {f g : α → Logged ε β}
    (h : ∀ a, x.outcome = .ok a → f a = g a) : x >>= f = x >>= g := by
  obtain ⟨events, outcome⟩ := x
  cases outcome with
  | error e => rfl
  | ok a =>
      have ha := h a rfl
      change Logged.mk _ _ = Logged.mk _ _
      rw [ha]

theorem mapError_bind (g : ε → δ) (x : Logged ε α) (f : α → Logged ε β) :
    (x >>= f).mapError g = x.mapError g >>= fun a => (f a).mapError g := by
  obtain ⟨events, outcome⟩ := x
  cases outcome <;> rfl

theorem mapError_map (g : ε → δ) (f : α → β) (x : Logged ε α) :
    (x.map f).mapError g = (x.mapError g).map f := by
  obtain ⟨events, outcome⟩ := x
  cases outcome <;> rfl

theorem mapError_each (g : ε → δ) (f : α → Logged ε β) (as : List α) :
    (each f as).mapError g = each (fun a => (f a).mapError g) as := by
  induction as with
  | nil => rfl
  | cons a as ih => simp only [each_cons, mapError_bind, mapError_map, ih]

theorem each_map (f : β → Logged ε γ) (g : α → β) (as : List α) :
    each f (as.map g) = each (fun a => f (g a)) as := by
  induction as with
  | nil => rfl
  | cons a as ih => rw [List.map_cons, each_cons, each_cons, ih]

/-- Elements that are computed alike, one by one, are computed alike together. -/
theorem each_congr {f : α → Logged ε β} {g : γ → Logged ε β} {as : List α} {cs : List γ}
    (h : List.Forall₂ (fun a c => f a = g c) as cs) : each f as = each g cs := by
  induction h with
  | nil => rfl
  | cons hhead _ ih => rw [each_cons, each_cons, hhead, ih]

end FilterWire.Logged

namespace FilterWire

/-! ## One outcome for each element -/

section Elementwise

variable {ε δ α β γ : Type} {f : α → Except ε β} {as : List α} {bs : List β}

theorem map_eq_ok_iff {x : Except ε α} {g : α → β} {b : β} :
    x.map g = .ok b ↔ ∃ a, x = .ok a ∧ g a = b := by
  cases x with
  | error e => simp [Except.map]
  | ok a => simp [Except.map]

theorem bind_eq_ok_iff {x : Except ε α} {g : α → Except ε β} {b : β} :
    x >>= g = .ok b ↔ ∃ a, x = .ok a ∧ g a = .ok b := by
  cases x with
  | error e => exact iff_of_false (by rintro ⟨⟩) (by rintro ⟨a, ⟨⟩, -⟩)
  | ok a => exact ⟨fun h => ⟨a, rfl, h⟩, by rintro ⟨a', ⟨⟩, h⟩; exact h⟩

theorem exists_eq_error_iff {x : Except ε α} : (∃ e, x = .error e) ↔ ¬ ∃ a, x = .ok a := by
  cases x with
  | error e => exact iff_of_true ⟨e, rfl⟩ (by rintro ⟨a, ⟨⟩⟩)
  | ok a => exact iff_of_false (by rintro ⟨e, ⟨⟩⟩) (not_not.mpr ⟨a, rfl⟩)

theorem mapError_eq_ok_iff {x : Except ε α} {g : ε → δ} {a : α} :
    x.mapError g = .ok a ↔ x = .ok a := by
  cases x with
  | error e => simp [Except.mapError]
  | ok a' => simp [Except.mapError]

theorem mapM_cons_eq_ok_iff {a : α} : (a :: as).mapM f = .ok bs ↔
    ∃ b rest, f a = .ok b ∧ as.mapM f = .ok rest ∧ bs = b :: rest := by
  rw [List.mapM_cons]
  cases f a with
  | error e =>
      refine iff_of_false (fun h => by cases h) ?_
      rintro ⟨b, rest, hb, -⟩
      cases hb
  | ok b =>
      cases as.mapM f with
      | error e =>
          refine iff_of_false (fun h => by cases h) ?_
          rintro ⟨b', rest, -, hrest, -⟩
          cases hrest
      | ok rest =>
          constructor
          · intro h
            obtain rfl := Except.ok.inj h
            exact ⟨b, rest, rfl, rfl, rfl⟩
          · rintro ⟨b', rest', hb, hrest, rfl⟩
            cases hb
            cases hrest
            rfl

theorem exists_mapM_eq_ok (h : ∀ a ∈ as, ∃ b, f a = .ok b) : ∃ bs, as.mapM f = .ok bs := by
  induction as with
  | nil => exact ⟨[], rfl⟩
  | cons a as ih =>
      obtain ⟨b, hb⟩ := h a List.mem_cons_self
      obtain ⟨rest, hrest⟩ := ih fun x hx => h x (List.mem_cons_of_mem a hx)
      exact ⟨b :: rest, mapM_cons_eq_ok_iff.mpr ⟨b, rest, hb, hrest, rfl⟩⟩

theorem length_of_mapM_eq_ok (h : as.mapM f = .ok bs) : bs.length = as.length := by
  induction as generalizing bs with
  | nil =>
      obtain rfl := Except.ok.inj h
      rfl
  | cons a as ih =>
      obtain ⟨b, rest, -, hrest, rfl⟩ := mapM_cons_eq_ok_iff.mp h
      rw [List.length_cons, List.length_cons, ih hrest]

theorem eq_nil_iff_of_mapM_eq_ok (h : as.mapM f = .ok bs) : bs = [] ↔ as = [] := by
  rw [← List.length_eq_zero_iff, ← List.length_eq_zero_iff, length_of_mapM_eq_ok h]

theorem exists_of_mapM_eq_ok (h : as.mapM f = .ok bs) {a : α} (ha : a ∈ as) :
    ∃ b ∈ bs, f a = .ok b := by
  induction as generalizing bs with
  | nil => cases ha
  | cons a' as ih =>
      obtain ⟨b, rest, hhead, hrest, rfl⟩ := mapM_cons_eq_ok_iff.mp h
      rcases List.mem_cons.mp ha with rfl | ha
      · exact ⟨b, List.mem_cons_self, hhead⟩
      · obtain ⟨x, hx, hfx⟩ := ih hrest ha
        exact ⟨x, List.mem_cons_of_mem b hx, hfx⟩

theorem exists_mapM_eq_ok_iff : (∃ bs, as.mapM f = .ok bs) ↔ ∀ a ∈ as, ∃ b, f a = .ok b := by
  refine ⟨?_, exists_mapM_eq_ok⟩
  rintro ⟨bs, h⟩ a ha
  obtain ⟨b, -, hb⟩ := exists_of_mapM_eq_ok h ha
  exact ⟨b, hb⟩

theorem exists_of_mem_mapM (h : as.mapM f = .ok bs) {b : β} (hb : b ∈ bs) :
    ∃ a ∈ as, f a = .ok b := by
  induction as generalizing bs with
  | nil =>
      obtain rfl := Except.ok.inj h
      cases hb
  | cons a as ih =>
      obtain ⟨b', rest, hhead, hrest, rfl⟩ := mapM_cons_eq_ok_iff.mp h
      rcases List.mem_cons.mp hb with rfl | hb
      · exact ⟨a, List.mem_cons_self, hhead⟩
      · obtain ⟨x, hx, hfx⟩ := ih hrest hb
        exact ⟨x, List.mem_cons_of_mem a hx, hfx⟩

/-- A pass fails at the first element that fails. -/
theorem mapM_eq_error_iff {e : ε} : as.mapM f = .error e ↔
    ∃ before a after, as = before ++ a :: after ∧ (∀ x ∈ before, ∃ b, f x = .ok b) ∧
      f a = .error e := by
  induction as with
  | nil => simp [pure, Except.pure]
  | cons a as ih =>
      constructor
      · intro h
        rw [List.mapM_cons] at h
        cases ha : f a with
        | error e' =>
            rw [ha] at h
            obtain rfl := Except.error.inj h
            exact ⟨[], a, as, rfl, by simp, ha⟩
        | ok b =>
            have hrest : as.mapM f = .error e := by
              rw [ha] at h
              cases hrest : as.mapM f with
              | error e' =>
                  rw [hrest] at h
                  exact congrArg Except.error (Except.error.inj h)
              | ok rest =>
                  rw [hrest] at h
                  cases h
            obtain ⟨before, a', after, rfl, hbefore, ha'⟩ := ih.mp hrest
            exact ⟨a :: before, a', after, rfl,
              List.forall_mem_cons.mpr ⟨⟨b, ha⟩, hbefore⟩, ha'⟩
      · rintro ⟨before, a', after, htext, hbefore, ha'⟩
        cases before with
        | nil =>
            obtain ⟨rfl, rfl⟩ := List.cons_eq_cons.mp htext
            rw [List.mapM_cons, ha']
            rfl
        | cons x before =>
            obtain ⟨rfl, rfl⟩ := List.cons_eq_cons.mp htext
            obtain ⟨⟨b, hb⟩, hbefore⟩ := List.forall_mem_cons.mp hbefore
            rw [List.mapM_cons, hb, ih.mpr ⟨before, a', after, rfl, hbefore, ha'⟩]
            rfl

theorem exists_of_mapM_eq_error {e : ε} (h : as.mapM f = .error e) :
    ∃ a ∈ as, f a = .error e := by
  obtain ⟨before, a, after, rfl, -, ha⟩ := mapM_eq_error_iff.mp h
  exact ⟨a, List.mem_append_right before List.mem_cons_self, ha⟩

/-- Two computations for each element, one pass or two. -/
theorem mapM_bind_of_mapM {g : β → Except ε γ} (h : as.mapM f = .ok bs) :
    (as.mapM fun a => f a >>= g) = bs.mapM g := by
  induction as generalizing bs with
  | nil =>
      obtain rfl := Except.ok.inj h
      rfl
  | cons a as ih =>
      obtain ⟨b, rest, hhead, hrest, rfl⟩ := mapM_cons_eq_ok_iff.mp h
      rw [List.mapM_cons, List.mapM_cons, ih hrest, hhead]
      rfl

/-- Elements that correspond to some others have outcomes that correspond to them. -/
theorem exists_mapM_of_forall₂ {ds : List γ} {R : γ → α → Prop} {S : γ → β → Prop}
    (h : List.Forall₂ R ds as) (hf : ∀ d a, R d a → ∃ b, f a = .ok b ∧ S d b) :
    ∃ bs, as.mapM f = .ok bs ∧ List.Forall₂ S ds bs := by
  induction h with
  | nil => exact ⟨[], rfl, List.Forall₂.nil⟩
  | cons hhead htail ih =>
      obtain ⟨b, hb, hS⟩ := hf _ _ hhead
      obtain ⟨bs, hbs, hrest⟩ := ih
      exact ⟨b :: bs, mapM_cons_eq_ok_iff.mpr ⟨b, bs, hb, hbs, rfl⟩, List.Forall₂.cons hS hrest⟩

theorem mapM_eq_ok_map {g : α → β} (h : ∀ a ∈ as, f a = .ok (g a)) :
    as.mapM f = .ok (as.map g) := by
  induction as with
  | nil => rfl
  | cons a as ih =>
      have hrest := ih fun x hx => h x (List.mem_cons_of_mem a hx)
      exact mapM_cons_eq_ok_iff.mpr ⟨g a, as.map g, h a List.mem_cons_self, hrest, rfl⟩

end Elementwise

end FilterWire
