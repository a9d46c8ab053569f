import FilterWire.Text.Surrogate

/-!
# Keys of dictionaries

A key is a text, or a row of code points that is none.  Keys are compared by what they spell, so
keys with different surrogates stay apart.
-/

namespace FilterWire

inductive EntryKey
  | text (t : Text)
  | unpaired (codes : List Nat)
  deriving DecidableEq

namespace EntryKey

instance : Coe Text EntryKey := ⟨text⟩

def ofCodes (codes : List Nat) : EntryKey :=
  match Text.ofCodes? codes with
  | some t => text t
  | none => unpaired codes

/-- The text, with the replacement character for each surrogate. -/
def reading : EntryKey → Text
  | text t => t
  | unpaired codes => Text.ofCodesLossy codes

/-- The text, with a private character for each surrogate. -/
def marked : EntryKey → Text
  | text t => t
  | unpaired codes => Text.ofCodesMarked codes

def codes : EntryKey → List Nat
  | text t => t.map (·.toNat)
  | unpaired codes => codes

/-- The key that is read in these two ways. -/
def ofReadings (other marked : EntryKey) : EntryKey :=
  ofCodes (List.zipWith Text.codeOf other.codes marked.codes)

def quoted : EntryKey → Text
  | text t => t.quoted
  | unpaired codes => Text.quotedCodes codes

end EntryKey

end FilterWire
