/-!
# Texts

A text is a list of characters, so every length and position counts characters.  Searching, cutting
and splitting at a fixed text take its leftmost occurrence.
-/

namespace FilterWire

/-- A text, character by character. -/
abbrev Text := List Char

/-- Whether a number lies in one of some ascending closed ranges. -/
def inRanges : List (Nat × Nat) → Nat → Bool
  | [], _ => false
  | (first, last) :: rs, n => if n < first then false else n ≤ last || inRanges rs n

namespace Text

def occursIn (part : Text) : Text → Bool
  | [] => part.isEmpty
  | c :: r => part.isPrefixOf (c :: r) || occursIn part r

/-- What follows a fixed opening, if a text starts with it. -/
def after? (opening t : Text) : Option Text :=
  if opening.isPrefixOf t then some (t.drop opening.length) else none

/-- What precedes a fixed ending, if a text ends with it. -/
def before? (ending t : Text) : Option Text :=
  if ending.isSuffixOf t then some (t.take (t.length - ending.length)) else none

/-- `before` holds, backwards, what has been passed on the way to the separator. -/
def cutFrom (sep before : Text) : Text → Option (Text × Text)
  | [] => if sep.isEmpty then some (before.reverse, []) else none
  | c :: r =>
    if sep.isPrefixOf (c :: r) then some (before.reverse, (c :: r).drop sep.length)
    else cutFrom sep (c :: before) r

/-- The texts on both sides of the leftmost occurrence of a separator. -/
def cut? (sep t : Text) : Option (Text × Text) :=
  cutFrom sep [] t

/-- `piece` holds, backwards, the piece being read; `skip` counts the characters of a separator
that are still to be passed. -/
def splitFrom (sep : Text) : (skip : Nat) → (piece : Text) → Text → List Text
  | _, piece, [] => [piece.reverse]
  | skip + 1, piece, _ :: r => splitFrom sep skip piece r
  | 0, piece, c :: r =>
    if sep.isPrefixOf (c :: r) then piece.reverse :: splitFrom sep (sep.length - 1) [] r
    else splitFrom sep 0 (c :: piece) r

/-- The pieces of a text between the leftmost non-overlapping occurrences of a separator. -/
def split (sep t : Text) : List Text :=
  splitFrom sep 0 [] t

def lines (t : Text) : List Text :=
  split ['\n'] t

def ofNat (n : Nat) : Text :=
  Nat.toDigits 10 n

def ofInt : Int → Text
  | .ofNat n => ofNat n
  | .negSucc n => '-' :: ofNat (n + 1)

/-- At least `width` digits, filled up with zeros on the left. -/
def padDigits (width : Nat) (digits : Text) : Text :=
  List.replicate (width - digits.length) '0' ++ digits

/-- Lower-case hexadecimal notation in at least `width` digits. -/
def ofHex (width n : Nat) : Text :=
  padDigits width (Nat.toDigits 16 n)

/-- The value of a hexadecimal digit of either case. -/
def hexDigit? (c : Char) : Option Nat :=
  if '0' ≤ c ∧ c ≤ '9' then some (c.toNat - '0'.toNat)
  else if 'a' ≤ c ∧ c ≤ 'f' then some (c.toNat - 'a'.toNat + 10)
  else if 'A' ≤ c ∧ c ≤ 'F' then some (c.toNat - 'A'.toNat + 10)
  else none

def isDigit (c : Char) : Bool :=
  '0' ≤ c ∧ c ≤ '9'

/-- The number that a row of decimal digits denotes. -/
def toNat (digits : Text) : Nat :=
  digits.foldl (fun n d => 10 * n + (d.toNat - '0'.toNat)) 0

end Text

end FilterWire
