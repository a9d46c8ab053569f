import FilterWire.Text.Surrogate
import Mathlib.Data.List.Basic

/-!
# Upper case twice

The image of a character under the case tables is its own upper case, so
upper case applied again changes nothing. The code points that have images
and the images themselves, as two sets of bits, have no bit in common.
-/

namespace FilterWire

namespace CaseRun

/-- Whether a code point is one of those that a run maps. -/
def Holds (r : CaseRun) (n : Nat) : Prop :=
  r.first ≤ n ∧ n ≤ r.last ∧ (n - r.first) % r.step = 0

def image (r : CaseRun) (n : Nat) : Nat :=
  (n + r.distance).toNat

theorem exists_of_find? {n m : Nat} {rs : List CaseRun} (h : find? n rs = some m) :
    ∃ r ∈ rs, r.Holds n ∧ m = r.image n := by
  induction rs with
  | nil => cases h
  | cons r rs ih =>
      rw [find?] at h
      split at h
      case isTrue hr => exact ⟨r, List.mem_cons_self, hr, (Option.some.inj h).symm⟩
      case isFalse =>
          obtain ⟨s, hs, hn⟩ := ih h
          exact ⟨s, List.mem_cons_of_mem r hs, hn⟩

theorem find?_eq_none {n : Nat} {rs : List CaseRun} (h : ∀ r ∈ rs, ¬ r.Holds n) :
    find? n rs = none := by
  induction rs with
  | nil => rfl
  | cons r rs ih =>
      have hr : ¬ (r.first ≤ n ∧ n ≤ r.last ∧ (n - r.first) % r.step = 0) :=
        h r List.mem_cons_self
      rw [find?, if_neg hr]
      exact ih fun s hs => h s (List.mem_cons_of_mem r hs)

def members (r : CaseRun) : List Nat :=
  (List.range ((r.last - r.first) / r.step + 1)).map fun k => r.first + r.step * k

theorem Holds.mem_members {r : CaseRun} {n : Nat} (h : r.Holds n) : n ∈ r.members := by
  obtain ⟨hfirst, hlast, hstep⟩ := h
  have hplace : r.first + r.step * ((n - r.first) / r.step) = n := by
    have hdiv := Nat.div_add_mod (n - r.first) r.step
    omega
  have hcount : (n - r.first) / r.step ≤ (r.last - r.first) / r.step :=
    Nat.div_le_div_right (Nat.sub_le_sub_right hlast r.first)
  exact List.mem_map.mpr ⟨_, List.mem_range.mpr (Nat.lt_succ_of_le hcount), hplace⟩

end CaseRun

/-! ## Sets of code points as bits -/

def mask (ns : List Nat) : Nat :=
  ns.foldr (fun n bits => 1 <<< n ||| bits) 0

theorem testBit_mask {n : Nat} {ns : List Nat} (h : n ∈ ns) : (mask ns).testBit n = true := by
  induction ns with
  | nil => cases h
  | cons m ns ih =>
      rw [mask, List.foldr_cons, Nat.testBit_or, Bool.or_eq_true]
      rcases List.mem_cons.mp h with rfl | h
      · exact Or.inl (by rw [Nat.one_shiftLeft, Nat.testBit_two_pow_self])
      · exact Or.inr (ih h)

/-- The bits of all rows. They are not put into one row, which would be a deep term. -/
def rowMask (rows : List (List Nat)) : Nat :=
  rows.foldr (fun ns bits => mask ns ||| bits) 0

theorem testBit_rowMask {n : Nat} {ns : List Nat} {rows : List (List Nat)} (hrow : ns ∈ rows)
    (hn : n ∈ ns) : (rowMask rows).testBit n = true := by
  induction rows with
  | nil => cases hrow
  | cons ms rows ih =>
      rw [rowMask, List.foldr_cons, Nat.testBit_or, Bool.or_eq_true]
      rcases List.mem_cons.mp hrow with rfl | hrow
      · exact Or.inl (testBit_mask hn)
      · exact Or.inr (ih hrow)

/-! ## The tables -/

/-- The code points with an upper case of their own, row by row. -/
def mappedRows : List (List Nat) :=
  upperRuns.map (·.members) ++ upperExpansions.map fun e => [e.1]

/-- The images under the tables, row by row, and the null character. -/
def imageRows : List (List Nat) :=
  [0] :: upperRuns.map (fun r => r.members.map r.image) ++ upperExpansions.map Prod.snd

/-- Whether a code point has no upper case other than itself. -/
def IsUpper (n : Nat) : Prop :=
  ∀ ns ∈ mappedRows, n ∉ ns

theorem rows_disjoint : rowMask mappedRows &&& rowMask imageRows = 0 := by
  decide +kernel

theorem isUpper_of_mem_imageRows {n : Nat} {ns : List Nat} (hrow : ns ∈ imageRows) (hn : n ∈ ns) :
    IsUpper n := by
  intro ms hms hm
  have hboth : (rowMask mappedRows &&& rowMask imageRows).testBit n = true := by
    rw [Nat.testBit_and, testBit_rowMask hms hm, testBit_rowMask hrow hn, Bool.and_self]
  rw [rows_disjoint, Nat.zero_testBit] at hboth
  cases hboth

theorem isUpper_image {r : CaseRun} {n : Nat} (hr : r ∈ upperRuns) (hn : r.Holds n) :
    IsUpper (r.image n) := by
  have hrow : r.members.map r.image ∈ imageRows :=
    List.mem_append_left _ (List.mem_cons_of_mem _ (List.mem_map_of_mem hr))
  exact isUpper_of_mem_imageRows hrow (List.mem_map_of_mem hn.mem_members)

theorem isUpper_of_mem_expansion {e : Nat × List Nat} (he : e ∈ upperExpansions) {n : Nat}
    (hn : n ∈ e.2) : IsUpper n :=
  isUpper_of_mem_imageRows (List.mem_append_right _ (List.mem_map_of_mem he)) hn

theorem isUpper_zero : IsUpper 0 :=
  isUpper_of_mem_imageRows List.mem_cons_self List.mem_cons_self

/-! ## Characters and texts -/

theorem upperChar_of_isUpper {c : Char} (h : IsUpper c.toNat) : upperChar c = [c] := by
  have hruns : ∀ r ∈ upperRuns, ¬ r.Holds c.toNat := fun r hr hn =>
    h r.members (List.mem_append_left _ (List.mem_map_of_mem hr)) hn.mem_members
  have hlower : ¬ ('a' ≤ c ∧ c ≤ 'z') := by
    rintro ⟨hlow, hhigh⟩
    exact hruns ⟨0x61, 0x7A, 1, -32⟩ List.mem_cons_self ⟨hlow, hhigh, Nat.mod_one _⟩
  have hlookup : upperExpansions.lookup c.toNat = none := by
    rw [List.lookup_eq_none_iff]
    intro e he
    have hkey := h [e.1] (List.mem_append_right _ (List.mem_map_of_mem he))
    rw [bne_iff_ne]
    intro heq
    exact hkey (List.mem_singleton.mpr heq)
  rw [upperChar, if_neg hlower, hlookup, CaseRun.find?_eq_none hruns]
  exact ite_self _

/-- A character is its own upper case, or one of the tables has its upper case. -/
theorem upperChar_cases (c : Char) : upperChar c = [c] ∨
    (∃ r ∈ upperRuns, r.Holds c.toNat ∧ upperChar c = [Char.ofNat (r.image c.toNat)]) ∨
      ∃ e ∈ upperExpansions, upperChar c = e.2.map Char.ofNat := by
  rw [upperChar]
  split
  case isTrue =>
      split
      case isTrue hlower =>
          have himage : c.toNat - 32 = CaseRun.image ⟨0x61, 0x7A, 1, -32⟩ c.toNat := by
            simp only [CaseRun.image]
            omega
          rw [himage]
          exact Or.inr (Or.inl ⟨_, List.mem_cons_self, ⟨hlower.1, hlower.2, Nat.mod_one _⟩, rfl⟩)
      case isFalse => exact Or.inl rfl
  case isFalse =>
      split
      case h_1 image hlookup =>
          obtain ⟨before, after, htable, -⟩ := List.lookup_eq_some_iff.mp hlookup
          refine Or.inr (Or.inr ⟨(c.toNat, image), ?_, rfl⟩)
          rw [htable]
          exact List.mem_append_right before List.mem_cons_self
      case h_2 =>
          split
          case h_1 n hfind =>
              obtain ⟨r, hr, hn, rfl⟩ := CaseRun.exists_of_find? hfind
              exact Or.inr (Or.inl ⟨r, hr, hn, rfl⟩)
          case h_2 => exact Or.inl rfl

/-- A number that is no code point stands for the null character, which has no upper case. -/
theorem upperChar_ofNat {n : Nat} (h : IsUpper n) : upperChar (Char.ofNat n) = [Char.ofNat n] := by
  apply upperChar_of_isUpper
  by_cases hn : n.isValidChar
  · rw [Char.ofNat, dif_pos hn]
    exact h
  · rw [Char.ofNat, dif_neg hn]
    exact isUpper_zero

theorem upperChar_of_mem_upperChar {c x : Char} (h : x ∈ upperChar c) : upperChar x = [x] := by
  rcases upperChar_cases c with hself | ⟨r, hr, hn, himage⟩ | ⟨e, he, himage⟩
  · rw [hself] at h
    obtain rfl := List.mem_singleton.mp h
    exact hself
  · rw [himage] at h
    obtain rfl := List.mem_singleton.mp h
    exact upperChar_ofNat (isUpper_image hr hn)
  · rw [himage] at h
    obtain ⟨n, hn, rfl⟩ := List.mem_map.mp h
    exact upperChar_ofNat (isUpper_of_mem_expansion he hn)

namespace Text

theorem upper_upper (t : Text) : t.upper.upper = t.upper := by
  rw [upper, upper, List.flatMap_assoc]
  refine List.flatMap_congr fun c _ => ?_
  rw [List.flatMap_congr fun x hx => upperChar_of_mem_upperChar hx]
  exact List.flatMap_singleton' _

theorem upperCodes_upperCodes (codes : List Nat) :
    upperCodes (upperCodes codes) = upperCodes codes := by
  rw [upperCodes, upperCodes, List.flatMap_assoc]
  refine List.flatMap_congr fun n _ => ?_
  have hfixed : ∀ m ∈ if isSurrogate n then [n] else (upperChar (Char.ofNat n)).map (·.toNat),
      (if isSurrogate m then [m] else (upperChar (Char.ofNat m)).map (·.toNat)) = [m] := by
    intro m hm
    by_cases hn : isSurrogate n = true
    · rw [if_pos hn] at hm
      obtain rfl := List.mem_singleton.mp hm
      exact if_pos hn
    · rw [if_neg hn] at hm
      obtain ⟨x, hx, rfl⟩ := List.mem_map.mp hm
      rw [isSurrogate_toNat, if_neg Bool.false_ne_true, Char.ofNat_toNat,
        upperChar_of_mem_upperChar hx]
      rfl
  rw [List.flatMap_congr hfixed]
  exact List.flatMap_singleton' _

end Text

end FilterWire
