import FilterWire.Comparator.Definition
import FilterWire.Dictionary

/-!
# Registries

A registry finds comparators by their tokens and by their labels, in one index each.  Both indexes
are filled together, one comparator after the other.
-/

namespace FilterWire

/-- The two ways to name a comparator. -/
inductive Key
  | token
  | label
  deriving DecidableEq

structure Duplicate where
  key : Key
  text : Text
  deriving DecidableEq

namespace Key

def of (k : Key) (c : Comparator) : Text :=
  match k with
  | token => c.token
  | label => c.label

def word : Key → Text
  | token => "token".toList
  | label => "label".toList

end Key

def Duplicate.message (d : Duplicate) : Text :=
  "Duplicate comparator ".toList ++ d.key.word ++ ": ".toList ++ d.text

/-- Comparators under their tokens, and comparators under their labels. -/
structure Indexes where
  byToken : Dictionary Text Comparator
  byLabel : Dictionary Text Comparator

namespace Indexes

def empty : Indexes := ⟨[], []⟩

def under (ix : Indexes) : Key → Dictionary Text Comparator
  | .token => ix.byToken
  | .label => ix.byLabel

/-- Puts a comparator into both indexes.  It is refused if its token is there already, or else if
its label is. -/
def add (ix : Indexes) (c : Comparator) : Except Duplicate Indexes :=
  if c.token ∈ ix.byToken.keys then .error ⟨.token, c.token⟩
  else if c.label ∈ ix.byLabel.keys then .error ⟨.label, c.label⟩
  else .ok ⟨ix.byToken.set c.token c, ix.byLabel.set c.label c⟩

/-- Both indexes have exactly the given comparators, in their order, and no key stands for two. -/
structure Hold (ix : Indexes) (cs : List Comparator) : Prop where
  entries : ∀ k, ix.under k = cs.map fun c => (k.of c, c)
  nodup : ∀ k : Key, (cs.map k.of).Nodup

variable {ix ix' : Indexes} {cs seen : List Comparator} {c : Comparator}

theorem hold_empty : empty.Hold [] where
  entries k := by cases k <;> rfl
  nodup _ := List.nodup_nil

theorem Hold.keys (h : ix.Hold cs) (k : Key) : (ix.under k).keys = cs.map k.of := by
  rw [h.entries, Dictionary.keys, List.map_map]
  rfl

/-- What is added comes last in both indexes. -/
theorem Hold.add_eq_ok (h : ix.Hold cs) (hadd : ix.add c = .ok ix') : ix'.Hold (cs ++ [c]) := by
  have htokens : ix.byToken.keys = cs.map (·.token) := h.keys .token
  have hlabels : ix.byLabel.keys = cs.map (·.label) := h.keys .label
  rw [add] at hadd
  split at hadd
  · cases hadd
  split at hadd
  · cases hadd
  rename_i htoken hlabel
  obtain rfl := Except.ok.inj hadd
  have hfresh : ∀ k : Key, k.of c ∉ cs.map k.of := by
    rintro (_ | _)
    · exact htokens ▸ htoken
    · exact hlabels ▸ hlabel
  refine ⟨fun k => ?_, fun k => ?_⟩
  · rw [List.map_append, List.map_singleton, ← h.entries k]
    cases k with
    | token => exact Dictionary.set_of_absent htoken
    | label => exact Dictionary.set_of_absent hlabel
  · rw [List.map_append, List.map_singleton, List.nodup_append]
    refine ⟨h.nodup k, by simp, ?_⟩
    rintro x hx y hy rfl
    rw [List.mem_singleton] at hy
    exact hfresh k (hy ▸ hx)

/-- Adds comparators in order, up to the first that is refused. -/
def addAll (ix : Indexes) (cs : List Comparator) : Except Duplicate Indexes :=
  cs.foldlM add ix

theorem addAll_cons (ix : Indexes) (c : Comparator) (cs : List Comparator) :
    ix.addAll (c :: cs) = (ix.add c).bind fun ix => ix.addAll cs :=
  List.foldlM_cons

/-- After each turn the indexes hold what has been seen. -/
theorem Hold.addAll_eq_ok (h : ix.Hold seen) (hall : ix.addAll cs = .ok ix') :
    ix'.Hold (seen ++ cs) := by
  induction cs generalizing ix seen with
  | nil =>
      obtain rfl := Except.ok.inj hall
      rwa [List.append_nil]
  | cons c cs ih =>
      rw [addAll_cons] at hall
      cases hadd : ix.add c with
      | error d =>
          rw [hadd] at hall
          cases hall
      | ok next =>
          rw [hadd] at hall
          rw [List.append_cons]
          exact ih (h.add_eq_ok hadd) hall

end Indexes

/-- Indexes that hold the same comparators, with pairwise different tokens and pairwise different
labels. -/
structure Registry extends Indexes where
  consistent : ∃ cs, toIndexes.Hold cs

namespace Registry

/-- A registry of the given comparators, unless a token or a label occurs twice. -/
def ofList (cs : List Comparator) : Except Duplicate Registry :=
  match h : Indexes.empty.addAll cs with
  | .error d => .error d
  | .ok ix => .ok ⟨ix, cs, Indexes.hold_empty.addAll_eq_ok h⟩

/-- The comparators in order, as the tokens lead to them. -/
def comparators (r : Registry) : List Comparator :=
  r.byToken.values

def size (r : Registry) : Nat :=
  r.byToken.length

def tokens (r : Registry) : List Text :=
  r.byToken.keys

def labels (r : Registry) : List Text :=
  r.byLabel.keys

def find? (r : Registry) (k : Key) (t : Text) : Option Comparator :=
  (r.under k).lookup t

end Registry

end FilterWire
