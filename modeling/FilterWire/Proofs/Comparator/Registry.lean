import FilterWire.Comparator.Registry
import Mathlib.Data.List.Nodup

/-!
# Looking up comparators

Both indexes of a registry hold the same comparators, and no two of these
share a key of either kind. So a look-up in either index by the key of a
listed comparator finds that comparator and no other.
-/

namespace FilterWire

/-- Without equal keys a look-up finds what is listed. -/
theorem Dictionary.lookup_eq_some_iff {κ α : Type} [BEq κ] [LawfulBEq κ] {d : Dictionary κ α}
    {k : κ} {v : α} (h : d.keys.Nodup) : d.lookup k = some v ↔ (k, v) ∈ d := by
  rw [List.lookup_eq_some_iff]
  constructor
  · rintro ⟨before, after, rfl, -⟩
    exact List.mem_append_right before List.mem_cons_self
  · intro hmem
    obtain ⟨before, after, rfl⟩ := List.append_of_mem hmem
    refine ⟨before, after, rfl, fun p hp => ?_⟩
    rw [keys, List.map_append, List.map_cons] at h
    have hdisjoint := (List.nodup_append.mp h).2.2
    rw [bne_iff_ne]
    exact (hdisjoint p.1 (List.mem_map_of_mem hp) k List.mem_cons_self).symm

namespace Registry

variable {r : Registry} {k : Key} {cs : List Comparator} {t : Text}

theorem comparators_of_hold (h : r.Hold cs) : r.comparators = cs := by
  have htokens : r.byToken = cs.map fun c => (c.token, c) := h.entries .token
  rw [comparators, htokens, Dictionary.values, List.map_map]
  exact List.map_id cs

theorem hold_comparators (r : Registry) : r.Hold r.comparators := by
  obtain ⟨cs, h⟩ := r.consistent
  rwa [comparators_of_hold h]

theorem keys_nodup (r : Registry) (k : Key) : (r.comparators.map k.of).Nodup :=
  r.hold_comparators.nodup k

theorem mem_labels_iff : t ∈ r.labels ↔ ∃ c ∈ r.comparators, c.label = t := by
  have hlabels : r.labels = r.comparators.map (·.label) := r.hold_comparators.keys .label
  rw [hlabels, List.mem_map]

theorem eq_of_key_eq {c d : Comparator} (hc : c ∈ r.comparators) (hd : d ∈ r.comparators)
    (h : k.of c = k.of d) : c = d :=
  List.inj_on_of_nodup_map (r.keys_nodup k) hc hd h

theorem find?_eq_some_iff {c : Comparator} :
    r.find? k t = some c ↔ c ∈ r.comparators ∧ k.of c = t := by
  have hnodup : (r.under k).keys.Nodup := by
    rw [r.hold_comparators.keys]
    exact r.keys_nodup k
  rw [find?, Dictionary.lookup_eq_some_iff hnodup, r.hold_comparators.entries, List.mem_map]
  simp only [Prod.mk.injEq]
  constructor
  · rintro ⟨c, hc, rfl, rfl⟩
    exact ⟨hc, rfl⟩
  · rintro ⟨hc, rfl⟩
    exact ⟨c, hc, rfl, rfl⟩

end Registry

end FilterWire
