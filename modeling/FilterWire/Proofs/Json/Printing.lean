import FilterWire.Json.Printer
import FilterWire.Json.Reader
import FilterWire.Proofs.Text.Occurrence
import Mathlib.Tactic.SplitIfs

/-!
# Printed documents

The printed form of a document is made of brackets, commas, white space and
the printed forms of its parts. Control characters are escaped, so none of
them is printed but for the white space of the layout.
-/

namespace FilterWire.Json

/-! ## Layout -/

/-- White space between the parts of a document. -/
def IsGap (t : Text) : Prop :=
  ∀ c ∈ t, isSpace c = true

theorem Style.isGap_newline (s : Style) (level : Nat) : IsGap (s.newline level) := by
  rw [newline]
  cases s.indent with
  | none => exact fun c hc => by cases hc
  | some width =>
      intro c hc
      rcases List.mem_cons.mp hc with rfl | hc
      · rfl
      · rw [List.eq_of_mem_replicate hc]
        rfl

/-- Some items between brackets stand apart by commas and white space. -/
theorem Style.exists_block (s : Style) (level : Nat) (opening closing : Char) (item : Text)
    (items : List Text) : ∃ first between last, IsGap first ∧ IsGap between ∧ IsGap last ∧
      s.block level opening closing (item :: items) =
        opening :: (first ++ ((',' :: between).intercalate (item :: items) ++
          (last ++ [closing]))) := by
  refine ⟨s.newline (level + 1), if s.indent.isSome then s.newline (level + 1) else [' '],
    s.newline level, s.isGap_newline _, ?_, s.isGap_newline _, ?_⟩
  · split
    · exact s.isGap_newline _
    · intro c hc
      rw [List.mem_singleton.mp hc]
      rfl
  · rw [block, if_neg (by exact Bool.false_ne_true)]
    simp only [List.cons_append, List.append_assoc]

theorem Style.block_nil (s : Style) (level : Nat) (opening closing : Char) :
    s.block level opening closing [] = [opening, closing] := rfl

theorem Style.valueItems_eq_map (s : Style) (level : Nat) (items : List Value) :
    s.valueItems level items = items.map (s.value level) := by
  induction items with
  | nil => rfl
  | cons v items ih => rw [valueItems, ih, List.map_cons]

theorem Style.valueEntries_eq_map (s : Style) (level : Nat) (entries : Entries) :
    s.valueEntries level entries =
      entries.map fun e => s.key e.1 ++ ':' :: ' ' :: s.value level e.2 := by
  induction entries with
  | nil => rfl
  | cons e entries ih => rw [valueEntries, ih, List.map_cons]

/-! ## Documents -/

/-- A document of texts, truth values and nulls, without equal keys in a dictionary. -/
inductive Textual : Value → Prop
  | null : Textual .null
  | bool (b : Bool) : Textual (.bool b)
  | str (t : Text) : Textual (.str t)
  | list {items : List Value} (h : ∀ v ∈ items, Textual v) : Textual (.list items)
  | dict {es : Entries} (hkeys : (es.map Prod.fst).Nodup) (htexts : ∀ e ∈ es, ∃ k, e.1 = .text k)
      (h : ∀ e ∈ es, Textual e.2) : Textual (.dict es)

/-! ## Printed characters -/

/-- Whether a text holds no control characters at all. -/
def isPrinted (t : Text) : Bool :=
  t.all fun c => 0x20 ≤ c.toNat

theorem isPrinted_unitEscape : ∀ n < 0x20, isPrinted (unitEscape n) = true := by
  decide

section Printed

variable {s : Style} {x : Char} (hx : x.toNat < 0x20)
include hx

theorem control_notMem {t : Text} (ht : isPrinted t = true) : x ∉ t := by
  intro hmem
  have hle : 0x20 ≤ x.toNat := of_decide_eq_true (List.all_eq_true.mp ht x hmem)
  omega

theorem control_notMem_escapeChar (c : Char) : x ∉ escapeChar false c := by
  rw [escapeChar]
  split_ifs with hquote hbackslash hline hreturn htab hfeed hback hcontrol
  · exact control_notMem hx (by decide)
  · exact control_notMem hx (by decide)
  · exact control_notMem hx (by decide)
  · exact control_notMem hx (by decide)
  · exact control_notMem hx (by decide)
  · exact control_notMem hx (by decide)
  · exact control_notMem hx (by decide)
  · exact control_notMem hx (isPrinted_unitEscape c.toNat hcontrol)
  · contradiction
  · exact control_notMem hx (by simpa [isPrinted] using hcontrol)

theorem control_notMem_text (hs : s.asciiOnly = false) (t : Text) : x ∉ s.text t := by
  have hquote : x ∉ ['"'] := control_notMem hx (by decide)
  rw [Style.text, hs]
  intro hmem
  rcases List.mem_append.mp hmem with hmem | hmem
  · rcases List.mem_cons.mp hmem with rfl | hmem
    · exact hquote List.mem_cons_self
    · obtain ⟨c, -, hc⟩ := List.mem_flatMap.mp hmem
      exact control_notMem_escapeChar hx c hc
  · exact hquote hmem

variable (hspace : isSpace x = false)
include hspace

theorem control_notMem_block (level : Nat) {opening closing : Char}
    (hopening : 0x20 ≤ opening.toNat) (hclosing : 0x20 ≤ closing.toNat) {ts : List Text}
    (h : ∀ t ∈ ts, x ∉ t) : x ∉ s.block level opening closing ts := by
  have hbrackets : x ≠ opening ∧ x ≠ closing :=
    ⟨by rintro rfl; omega, by rintro rfl; omega⟩
  cases ts with
  | nil => simpa [Style.block_nil] using hbrackets
  | cons t ts =>
      obtain ⟨first, between, last, hfirst, hbetween, hlast, hblock⟩ :=
        s.exists_block level opening closing t ts
      have hgap : ∀ gap, IsGap gap → x ∉ gap := by
        intro gap hgap hmem
        rw [hgap x hmem] at hspace
        cases hspace
      have hcomma : x ∉ ',' :: between := by
        rintro (_ | ⟨_, hmem⟩)
        · exact absurd hx (by decide)
        · exact hgap between hbetween hmem
      have hitems := Text.notMem_intercalate hcomma h
      rw [hblock]
      simp [hbrackets, hgap first hfirst, hgap last hlast, hitems]

/-- No control characters are printed but white space. -/
theorem control_notMem_value (hs : s.asciiOnly = false) {v : Value} (h : Textual v) (level : Nat) :
    x ∉ s.value level v := by
  induction h generalizing level with
  | null =>
      have hword : x ∉ "null".toList := control_notMem hx (by decide)
      exact hword
  | bool b =>
      have hwords : x ∉ "true".toList ∧ x ∉ "false".toList :=
        ⟨control_notMem hx (by decide), control_notMem hx (by decide)⟩
      cases b with
      | false => exact hwords.2
      | true => exact hwords.1
  | str t => exact control_notMem_text hx hs t
  | @list items h ih =>
      rw [Style.value, Style.valueItems_eq_map]
      apply control_notMem_block hx hspace level (by decide) (by decide)
      intro t ht
      obtain ⟨v, hv, rfl⟩ := List.mem_map.mp ht
      exact ih v hv (level + 1)
  | @dict es hkeys htexts h ih =>
      rw [Style.value, Style.valueEntries_eq_map]
      apply control_notMem_block hx hspace level (by decide) (by decide)
      intro t ht
      obtain ⟨e, he, rfl⟩ := List.mem_map.mp ht
      obtain ⟨k, hk⟩ := htexts e he
      have hkey : x ∉ s.key e.1 := by
        rw [hk]
        exact control_notMem_text hx hs k
      have hcolon : x ∉ [':', ' '] := control_notMem hx (by decide)
      simpa [hkey, ih e he (level + 1)] using hcolon

end Printed

end FilterWire.Json
