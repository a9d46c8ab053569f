import FilterWire.Text.CaseTable

/-!
# Upper and lower case

Full case mapping of texts.  A capital sigma goes to its final form after a letter that no letter
follows, where the case-ignorable characters in between do not count.
-/

namespace FilterWire

/-- The upper case of a character, which may be several characters. -/
def upperChar (c : Char) : Text :=
  if c.toNat < 0x80 then
    if 'a' ≤ c ∧ c ≤ 'z' then [Char.ofNat (c.toNat - 32)] else [c]
  else match upperExpansions.lookup c.toNat with
    | some image => image.map Char.ofNat
    | none => match CaseRun.find? c.toNat upperRuns with
      | some n => [Char.ofNat n]
      | none => [c]

/-- The lower case of a character on its own; only the dotted capital I has two characters. -/
def lowerChar (c : Char) : Text :=
  if c.toNat < 0x80 then
    if 'A' ≤ c ∧ c ≤ 'Z' then [Char.ofNat (c.toNat + 32)] else [c]
  else if c.toNat = 0x130 then ['i', Char.ofNat 0x307]
  else match CaseRun.find? c.toNat lowerRuns with
    | some n => [Char.ofNat n]
    | none => [c]

def isCaseIgnorable (c : Char) : Bool :=
  inRanges caseIgnorableRanges c.toNat

def isCased (c : Char) : Bool :=
  inRanges casedRanges c.toNat

/-- Whether the nearest character that counts is a cased letter. -/
def casedNext (t : Text) : Bool :=
  match t.dropWhile isCaseIgnorable with
  | [] => false
  | c :: _ => isCased c

namespace Text

def upper (t : Text) : Text :=
  t.flatMap upperChar

/-- `passed` holds, backwards, the characters before the ones still to map. -/
def lowerFrom (passed : Text) : Text → Text
  | [] => []
  | c :: r =>
    let image :=
      if c = 'Σ' then (if casedNext passed && !casedNext r then ['ς'] else ['σ'])
      else lowerChar c
    image ++ lowerFrom (c :: passed) r

def lower (t : Text) : Text :=
  lowerFrom [] t

end Text

end FilterWire
