import FilterWire.FilterSet.Codec
import FilterWire.Proofs.Condition.Transmission

/-!
# Writing call by call

What is written for an entry is a call and never empty, so an expression
is there exactly if there are calls.
-/

namespace FilterWire

theorem Condition.ne_nil_of_encode {legacy : Bool} {c : Condition} {t : Text}
    (h : (encode legacy c).outcome = .ok t) : t ≠ [] := by
  cases hfind : Registry.standard.find? .label c.option with
  | none =>
      rw [encode, hfind] at h
      cases h
  | some k =>
      obtain ⟨hk, hlabel⟩ := Registry.find?_eq_some_iff.mp hfind
      rw [outcome_encode hk hlabel] at h
      obtain rfl := Except.ok.inj h
      exact Call.text_ne_nil

namespace FilterSet

variable {legacy absent : Bool} {s : FilterSet} {joiner : Text} {fields calls : List Text}

theorem ne_nil_of_encodeEntry {f : Option Condition} {t : Text}
    (h : (encodeEntry legacy f).outcome = .ok t) : t ≠ [] := by
  cases f with
  | none => cases h
  | some c => exact Condition.ne_nil_of_encode h

theorem assemble_eq_none_iff (hcalls : ∀ t ∈ calls, t ≠ []) :
    assemble joiner absent fields calls = none ↔ calls = [] := by
  have hjoined : joiner.intercalate calls = [] ↔ calls = [] := Text.intercalate_eq_nil_iff hcalls
  rw [← hjoined, assemble]
  simp

theorem assemble_of_calls (hne : calls ≠ []) (hcalls : ∀ t ∈ calls, t ≠ []) :
    assemble joiner absent fields calls = some (if absent
      then Guard.wrapNullChecks (Guard.wrapSentinel (joiner.intercalate calls)) fields
      else Guard.wrapSentinel (joiner.intercalate calls)) := by
  have hjoined : joiner.intercalate calls ≠ [] := (Text.intercalate_eq_nil_iff hcalls).not.mpr hne
  rw [assemble, if_neg (by simpa using hjoined)]

theorem outcome_encode_of_calls
    (h : (s.filters.mapM fun f => (encodeEntry legacy f).outcome) = .ok calls) :
    (encode legacy s).outcome =
      .ok (assemble (s.mode.getD .and).joiner s.includesAbsent s.fields calls) := by
  rw [encode, Logged.outcome_bind, Logged.outcome_each, h]
  rfl

end FilterSet

end FilterWire
