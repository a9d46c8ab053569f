import FilterWire.Text.Case
import FilterWire.Text.Quoted

/-!
# Unpaired surrogates

A document can spell a row of code points in which half of a surrogate pair stands alone, and a word
of a command line can be such a row.  It is no text: it can be quoted and compared, but not written.
-/

namespace FilterWire

def isSurrogate (n : Nat) : Bool :=
  0xD800 ≤ n ∧ n < 0xE000

theorem isSurrogate_toNat (c : Char) : isSurrogate c.toNat = false := by
  have hvalid : c.toNat < 0xD800 ∨ 0xDFFF < c.toNat ∧ c.toNat < 0x110000 := c.valid
  rw [isSurrogate, decide_eq_false_iff_not]
  omega

namespace Text

/-- The text of some code points, if there is no surrogate among them. -/
def ofCodes? (codes : List Nat) : Option Text :=
  if codes.any isSurrogate then none else some (codes.map Char.ofNat)

/-- One code point between the given quotes; a surrogate is shown by number. -/
def quoteCode (quote : Char) (n : Nat) : Text :=
  if isSurrogate n then escapeCode n else quoteChar quote (Char.ofNat n)

def quotedCodes (codes : List Nat) : Text :=
  let quote := quoteFor (codes.map Char.ofNat)
  quote :: codes.flatMap (quoteCode quote) ++ [quote]

/-- The upper case of some code points, of which surrogates have none. -/
def upperCodes (codes : List Nat) : List Nat :=
  codes.flatMap fun n => if isSurrogate n then [n] else (upperChar (Char.ofNat n)).map (·.toNat)

/-- The character for a code point, with the same one for all surrogates. -/
def lossyChar (n : Nat) : Char :=
  if isSurrogate n then Char.ofNat 0xFFFD else Char.ofNat n

/-- The character for a code point, with a private one for each surrogate. -/
def markedChar (n : Nat) : Char :=
  if isSurrogate n then Char.ofNat (n - 0xD800 + 0x100000) else Char.ofNat n

/-- The replacement character in the place of each surrogate: which ones they were is lost. -/
def ofCodesLossy (codes : List Nat) : Text :=
  codes.map lossyChar

/-- A private character in the place of each surrogate. -/
def ofCodesMarked (codes : List Nat) : Text :=
  codes.map markedChar

/-- Another private character in the place of each surrogate. -/
def ofCodesRemarked (codes : List Nat) : Text :=
  codes.map fun n => if isSurrogate n then Char.ofNat (n - 0xD800 + 0xF0000) else Char.ofNat n

/-- The code point that is marked in one reading and not in the other one: where they differ, there
is a surrogate. -/
def codeOf (other marked : Nat) : Nat :=
  if other = marked then other else marked - 0x100000 + 0xD800

end Text

end FilterWire
