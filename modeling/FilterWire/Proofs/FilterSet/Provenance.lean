import FilterWire.Proofs.Condition.Transmission
import FilterWire.Proofs.FilterSet.Combiner
import FilterWire.Proofs.FilterSet.Strictness
import FilterWire.Proofs.Text.InOrder

/-!
# Where conditions come from

Whatever an expression looks like, each condition that is read from it is
spelled out in it. The calls of different conditions do not overlap and
stand in the order of the conditions.
-/

namespace FilterWire

namespace Call

/-- The token that a call stands for. -/
def token (call : Call) : Text :=
  if call.name = Comparator.sharedName then (Comparator.ofSharedName call.value).token
  else call.name

theorem find?_token_of_comparatorOf {call : Call} {k : Comparator}
    (h : Condition.comparatorOf call = .ok k) :
    Registry.standard.find? .token call.token = some k := by
  rw [Condition.comparatorOf] at h
  rw [token]
  by_cases hshared : call.name = Comparator.sharedName
  · rw [if_pos hshared] at h ⊢
    obtain rfl := Except.ok.inj h
    exact Registry.find?_eq_some_iff.mpr ⟨Comparator.ofSharedName_mem call.value, rfl⟩
  · rw [if_neg hshared] at h ⊢
    cases hfind : Registry.standard.find? .token call.name with
    | none =>
        rw [hfind] at h
        cases h
    | some k' =>
        rw [hfind] at h
        rw [Except.ok.inj h]

/-- A call says what a condition says: the field, the comparator by its token, and the query
inside the value. -/
structure Says (call : Call) (c : Condition) : Prop where
  wellFormed : call.WellFormed
  field : c.field = call.field
  meaning : ∃ k, Registry.standard.find? .token call.token = some k ∧ c.option = k.label ∧
    c.query = k.codec.decode call.value
  query : c.query <:+: call.value

end Call

namespace Condition

/-- A slice is one call, with some blank after the comma, that says what the condition says. -/
def SpelledBy (c : Condition) (slice : Text) : Prop :=
  ∃ (call : Call) (b : Char), isBlank b = true ∧ slice = call.spelled b ∧ call.Says c

theorem exists_spelledBy_of_decode {t : Text} {c : Condition}
    (h : (decode t).outcome = .ok (some c)) : ∃ slice, slice <:+: t ∧ c.SpelledBy slice := by
  obtain ⟨call, k, hfind, hk, rfl⟩ := exists_call_of_decode h
  obtain ⟨hcall, b, hb, hslice⟩ := Call.spelled_of_find? hfind
  have hquery : k.codec.decode call.value <:+: call.value := k.codec.decode_infix_self call.value
  have htoken := Call.find?_token_of_comparatorOf hk
  exact ⟨call.spelled b, hslice, call, b, hb, rfl, hcall, rfl, ⟨k, htoken, rfl, rfl⟩, hquery⟩

end Condition

namespace FilterSet

/-- The conditions of a filter set in order, without its holes. -/
def conditions (s : FilterSet) : List Condition :=
  s.filters.filterMap id

/-- Each piece that is read as a condition holds the call of that condition. -/
theorem exists_slices_of_mapM {pieces : List Text} {fs : List (Option Condition)} {t : Text}
    (hpieces : Text.InOrder pieces t)
    (h : (pieces.mapM fun piece => (Condition.decode piece).outcome) = .ok fs) :
    ∃ slices, Text.InOrder slices t ∧
      List.Forall₂ Condition.SpelledBy (fs.filterMap id) slices := by
  induction pieces generalizing fs t with
  | nil =>
      obtain rfl := Except.ok.inj h
      exact ⟨[], trivial, List.Forall₂.nil⟩
  | cons piece pieces ih =>
      obtain ⟨f, rest, hpiece, hrest, rfl⟩ := mapM_cons_eq_ok_iff.mp h
      cases f with
      | none =>
          rw [List.filterMap_cons_none rfl]
          exact ih hpieces.tail hrest
      | some c =>
          obtain ⟨slice, hslice, hspelled⟩ := Condition.exists_spelledBy_of_decode hpiece
          obtain ⟨gap, r, rfl, hlater⟩ := hpieces
          obtain ⟨slices, hslices, hall⟩ := ih hlater hrest
          have horder : Text.InOrder (slice :: slices) (gap ++ (piece ++ r)) :=
            Text.InOrder.cons_of_infix hslice hslices gap
          exact ⟨slice :: slices, horder, List.Forall₂.cons hspelled hall⟩

/-- The segments of an expression stand in it in order, whatever is cut away around them. -/
theorem inOrder_pieces (t : Text) : Text.InOrder (pieces t) t := by
  rw [pieces]
  cases hunwrap : unwrap t.trim with
  | error e => trivial
  | ok p =>
      have hbody : p.2 <:+: t := (infix_of_unwrap hunwrap).trans t.trim_infix_self
      have hsplit := Text.inOrder_split (Mode.joiner_ne_nil ((Mode.find? p.2).getD .and)) p.2
      exact (hsplit.filter _).widen hbody

/-- Reading invents nothing: the calls of the conditions that are read stand in the text as slices
that do not overlap, in the order of the conditions. -/
theorem conditions_inOrder {t : Text} {s : FilterSet} (h : (decode false t).outcome = .ok s) :
    ∃ slices, Text.InOrder slices t ∧ List.Forall₂ Condition.SpelledBy s.conditions slices :=
  exists_slices_of_mapM (inOrder_pieces t) (decode_lenient h).1

/-- A guard that is none, a call inside a group, a segment without a call, and a call in a value. -/
theorem conditions_inOrder_of_loose_text :
    ∃ slices, Text.InOrder slices
        ("IS_NULL( OR f(x GT([a],\t1) y AND EQ(LT([b], (2))) AND  AND no AND " ++
          "MATCHES([c], [^EQ([d], 3))) z").toList ∧
      List.Forall₂ Condition.SpelledBy
        [⟨"[a]".toList, "Greater than".toList, "1".toList⟩,
          ⟨"[b]".toList, "Less than".toList, "(2))".toList⟩,
          ⟨"[c]".toList, "Matches".toList, "[^EQ([d], 3)".toList⟩] slices :=
  @conditions_inOrder _ ⟨some .and, true,
    [some ⟨"[a]".toList, "Greater than".toList, "1".toList⟩,
      some ⟨"[b]".toList, "Less than".toList, "(2))".toList⟩, none,
      some ⟨"[c]".toList, "Matches".toList, "[^EQ([d], 3)".toList⟩]⟩ (by rfl)

end FilterSet

end FilterWire
