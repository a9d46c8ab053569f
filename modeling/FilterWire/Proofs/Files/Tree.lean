import FilterWire.Files.Tree
import FilterWire.Proofs.Logged

/-!
# Changes to file trees

A tree keeps its directories and its files when directories are created, and when a file is written
it keeps all other files. A path that leads somewhere leads there in every tree that keeps the
directories.
-/

namespace FilterWire

theorem lookup_filter_ne {α β : Type} [BEq α] [LawfulBEq α] {k k' : α} (h : k' ≠ k)
    (entries : List (α × β)) : (entries.filter fun e => e.1 != k).lookup k' = entries.lookup k' := by
  induction entries with
  | nil => rfl
  | cons e entries ih =>
      obtain ⟨key, value⟩ := e
      by_cases hkey : key = k
      · have hne : (k' == key) = false := by simpa [hkey] using h
        rw [List.filter_cons_of_neg (by simp [hkey]), List.lookup_cons, hne, ih]
      · rw [List.filter_cons_of_pos (by simpa using hkey), List.lookup_cons, List.lookup_cons, ih]

namespace FileTree

variable {fs fs' fs'' : FileTree} {l l' start : Location} {n : Node} {p : Path}
  {name : Text} {names : List Text}

/-! ## One node -/

theorem get?_set_self (h : l ≠ []) : (fs.set l n).get? l = some n := by
  rw [get?, if_neg (by simpa using h), set, List.lookup_cons_self]

theorem get?_set_of_ne (h : l' ≠ l) : (fs.set l n).get? l' = fs.get? l' := by
  have hne : (l' == l) = false := by simpa using h
  rw [get?, get?, set, List.lookup_cons, hne, lookup_filter_ne h]

/-! ## Frames -/

/-- Apart from some locations both trees hold the same files, no directory is lost, and paths start
from the same places. -/
structure AgreesExcept (changed : List Location) (fs fs' : FileTree) : Prop where
  file : ∀ l ∉ changed, ∀ bytes, fs'.get? l = some (.file bytes) ↔ fs.get? l = some (.file bytes)
  directory : ∀ l, fs.get? l = some .directory → fs'.get? l = some .directory
  current : fs'.current = fs.current
  home : fs'.home = fs.home
  homes : fs'.homes = fs.homes

namespace AgreesExcept

variable {changed : List Location}

theorem refl (fs : FileTree) : AgreesExcept changed fs fs :=
  ⟨fun _ _ _ => Iff.rfl, fun _ h => h, rfl, rfl, rfl⟩

theorem trans (h : AgreesExcept changed fs fs') (h' : AgreesExcept changed fs' fs'') :
    AgreesExcept changed fs fs'' where
  file l hl bytes := (h'.file l hl bytes).trans (h.file l hl bytes)
  directory l hl := h'.directory l (h.directory l hl)
  current := h'.current.trans h.current
  home := h'.home.trans h.home
  homes := h'.homes.trans h.homes

theorem mono {more : List Location} (h : AgreesExcept changed fs fs') (hsub : changed ⊆ more) :
    AgreesExcept more fs fs' :=
  { h with file := fun l hl => h.file l fun hmem => hl (hsub hmem) }

theorem origin_eq (h : AgreesExcept changed fs fs') (p : Path) : fs'.origin p = fs.origin p := by
  rw [origin, origin, h.current]

theorem expand_eq (h : AgreesExcept changed fs fs') (p : Path) : fs'.expand p = fs.expand p := by
  have hhome : fs'.homeOf? = fs.homeOf? := by
    funext user
    rw [homeOf?, homeOf?, h.home, h.homes]
  rw [expand, expand, hhome]

end AgreesExcept

theorem agreesExcept_set_file (h : fs.get? l ≠ some .directory) (bytes : Text.Bytes) :
    AgreesExcept [l] fs (fs.set l (.file bytes)) where
  file l' hl' bytes' := by rw [get?_set_of_ne fun heq => hl' (List.mem_singleton.mpr heq)]
  directory l' hl' := by
    have hne : l' ≠ l := by
      rintro rfl
      exact h hl'
    rw [get?_set_of_ne hne, hl']
  current := rfl
  home := rfl
  homes := rfl

theorem agreesExcept_set_directory (h : fs.get? l = none) :
    AgreesExcept [] fs (fs.set l .directory) := by
  have hl : l ≠ [] := by
    rintro rfl
    cases h
  have hother : ∀ l' node, fs.get? l' = some node → (fs.set l .directory).get? l' = some node := by
    intro l' node hl'
    have hne : l' ≠ l := by
      rintro rfl
      rw [h] at hl'
      cases hl'
    rw [get?_set_of_ne hne, hl']
  refine ⟨fun l' _ bytes => ⟨fun hl' => ?_, hother l' _⟩, fun l' => hother l' _, rfl, rfl, rfl⟩
  by_cases hne : l' = l
  · rw [hne, get?_set_self hl] at hl'
    cases hl'
  · rwa [get?_set_of_ne hne] at hl'

/-! ## Walks -/

theorem walk_cons_eq_ok_iff : fs.walk start (name :: names) = .ok l ↔
    fs.get? start = some .directory ∧ name.encodeUtf8.length ≤ maxNameBytes ∧
      fs.walk (if name = ['.', '.'] then start.dropLast else start ++ [name]) names = .ok l := by
  rw [walk]
  cases hstart : fs.get? start with
  | none => simp
  | some node =>
      cases node with
      | file bytes => simp
      | directory =>
          by_cases hname : name = ['.', '.']
          · have hshort : name.encodeUtf8.length ≤ maxNameBytes := by
              rw [hname]
              decide
            simp [hname, hname ▸ hshort]
          · by_cases hlong : maxNameBytes < name.encodeUtf8.length
            · simp [hname, hlong, Nat.not_le.mpr hlong]
            · simp [hname, hlong, Nat.not_lt.mp hlong]

/-- A walk ends where its names lead by themselves. -/
theorem foldl_of_walk (h : fs.walk start names = .ok l) :
    names.foldl (fun l name => if name = ['.', '.'] then l.dropLast else l ++ [name]) start = l := by
  induction names generalizing start with
  | nil => exact Except.ok.inj h
  | cons name names ih => exact ih (walk_cons_eq_ok_iff.mp h).2.2

theorem walk_of_directories (h : fs.walk start names = .ok l)
    (hkept : ∀ l, fs.get? l = some .directory → fs'.get? l = some .directory) :
    fs'.walk start names = .ok l := by
  induction names generalizing start with
  | nil => exact h
  | cons name names ih =>
      obtain ⟨hstart, hname, hrest⟩ := walk_cons_eq_ok_iff.mp h
      exact walk_cons_eq_ok_iff.mpr ⟨hkept _ hstart, hname, ih hrest⟩

/-! ## Paths -/

theorem locateUsable_eq_ok_iff : fs.locateUsable p = .ok l ↔
    isUsable p = true ∧ p.text.encodeUtf8.length < maxPathBytes ∧
      fs.walk (fs.origin p) p.names = .ok l := by
  rw [locateUsable, locate]
  by_cases husable : isUsable p
  · rw [if_neg (by simp [husable]), mapError_eq_ok_iff]
    by_cases hlong : maxPathBytes ≤ p.text.encodeUtf8.length
    · simp [hlong, Nat.not_lt.mpr hlong]
    · simp [hlong, Nat.not_le.mp hlong, husable]
  · simp [husable]

theorem find?_of_locateUsable (h : fs.locateUsable p = .ok l) : fs.find? p = .ok (fs.get? l) := by
  obtain ⟨husable, hshort, hwalk⟩ := locateUsable_eq_ok_iff.mp h
  rw [find?, if_neg (by simp [husable]), locate, if_neg (Nat.not_le.mpr hshort), hwalk]

theorem resolve_of_locateUsable (h : fs.locateUsable p = .ok l) : fs.resolve p = l :=
  foldl_of_walk (locateUsable_eq_ok_iff.mp h).2.2

theorem readText_of_locateUsable {bytes : Text.Bytes} {t : Text} (h : fs.locateUsable p = .ok l)
    (hl : fs.get? l = some (.file bytes)) (ht : Text.ofBytes? bytes = some t) :
    fs.readText p = .ok t := by
  have hread : fs.read p = .ok bytes := bind_eq_ok_iff.mpr ⟨l, h, by rw [hl]⟩
  exact bind_eq_ok_iff.mpr ⟨bytes, hread, by rw [ht]⟩

theorem AgreesExcept.locateUsable {changed : List Location} (h : AgreesExcept changed fs fs')
    (hp : fs.locateUsable p = .ok l) : fs'.locateUsable p = .ok l := by
  obtain ⟨husable, hshort, hwalk⟩ := locateUsable_eq_ok_iff.mp hp
  refine locateUsable_eq_ok_iff.mpr ⟨husable, hshort, ?_⟩
  rw [h.origin_eq]
  exact walk_of_directories hwalk h.directory

/-- With a home directory in the place of its tilde a path leads to a location, where a node may
stand or not. -/
def Leads (fs : FileTree) (p : Path) (l : Location) : Prop :=
  ∃ q, fs.expand p = .ok q ∧ fs.locateUsable q = .ok l

/-! ## Writing -/

theorem agreesExcept_of_descend {start : Location} (h : descend fs start names = .ok fs') :
    AgreesExcept [] fs fs' := by
  induction names generalizing fs start with
  | nil =>
      obtain rfl := Except.ok.inj h
      exact .refl fs
  | cons name names ih =>
      rw [descend] at h
      split at h
      case isTrue => exact ih h
      case isFalse =>
          split at h
          case isTrue => cases h
          case isFalse =>
              dsimp only at h
              cases hnode : fs.get? (start ++ [name]) with
              | none =>
                  rw [hnode] at h
                  exact (agreesExcept_set_directory hnode).trans (ih h)
              | some node =>
                  rw [hnode] at h
                  cases node with
                  | directory => exact ih h
                  | file bytes => cases h

theorem agreesExcept_of_makeDirectory (h : fs.makeDirectory p = .ok fs') :
    AgreesExcept [] fs fs' := by
  rw [makeDirectory] at h
  split at h
  case isTrue => cases h
  case isFalse => exact agreesExcept_of_descend (mapError_eq_ok_iff.mp h)

theorem writeText_eq_ok_iff {t : Text} : fs.writeText p t = .ok fs' ↔
    ∃ l, fs.locateUsable p = .ok l ∧ fs.get? l ≠ some .directory ∧
      fs' = fs.set l (.file t.encodeUtf8) := by
  rw [writeText, modify, bind_eq_ok_iff]
  refine exists_congr fun l => and_congr_right fun _ => ?_
  cases fs.get? l with
  | none => simp [eq_comm]
  | some node =>
      cases node with
      | directory => simp
      | file bytes => simp [eq_comm]

end FileTree

end FilterWire
