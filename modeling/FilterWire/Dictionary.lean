/-!
# Dictionaries

Entries by key, in the order in which the keys came in.
-/

namespace FilterWire

abbrev Dictionary (κ α : Type) := List (κ × α)

namespace Dictionary

variable {κ α : Type} [DecidableEq κ]

def keys (d : Dictionary κ α) : List κ :=
  d.map (·.1)

def values (d : Dictionary κ α) : List α :=
  d.map (·.2)

/-- Sets a key: an old entry keeps its place and takes the new value. -/
def set (k : κ) (v : α) : Dictionary κ α → Dictionary κ α
  | [] => [(k, v)]
  | (k', v') :: r => if k' = k then (k, v) :: r else (k', v') :: set k v r

/-- A key that is not there yet goes to the end. -/
theorem set_of_absent {k : κ} {v : α} {d : Dictionary κ α} (h : k ∉ d.keys) :
    d.set k v = d ++ [(k, v)] := by
  induction d with
  | nil => rfl
  | cons e d ih =>
      obtain ⟨k', v'⟩ := e
      rw [keys, List.map_cons, List.mem_cons, not_or] at h
      rw [set, if_neg (Ne.symm h.1), ih h.2, List.cons_append]

end Dictionary

end FilterWire
