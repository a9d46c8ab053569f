/-!
# Shortest decimals

The decimal with the fewest digits that reads back as a given binary number, and among those the
nearest one; a tie goes to the even digit.  All comparisons are exact, on natural numbers.
-/

namespace FilterWire

/-- The positive number `mantissa · 2 ^ exponent`, with half the gap to its lower neighbour if
`narrowBelow`. -/
structure Binary where
  mantissa : Nat
  exponent : Int
  narrowBelow : Bool

/-- The number `digits · 10 ^ exponent`. -/
structure Decimal where
  digits : Nat
  exponent : Int

def twoTo (n : Nat) : Nat :=
  Nat.pow 2 n

def tenTo (n : Nat) : Nat :=
  Nat.pow 10 n

namespace Binary

/-- The parts of a finite double, given by its bits without the sign. -/
def ofBits (bits : Nat) : Binary :=
  let fraction : Nat := bits % twoTo 52
  let biased : Nat := bits / twoTo 52 % twoTo 11
  if biased = 0 then ⟨fraction, -1074, false⟩
  else ⟨twoTo 52 + fraction, (biased : Int) - 1075, fraction = 0 ∧ 1 < biased⟩

/-- Four times the number over a power of ten, as a fraction: quarters of the last binary place
keep the ends of the rounding interval whole. -/
def scale (b : Binary) (tens : Int) : Nat × Nat :=
  (twoTo b.exponent.toNat * tenTo (-tens).toNat,
    4 * twoTo (-b.exponent).toNat * tenTo tens.toNat)

/-- The least `j` up to a bound with `den ≤ num · 10 ^ j`. -/
def leadingZeros (num den : Nat) : Nat → Nat
  | 0 => 0
  | bound + 1 => if den ≤ num then 0 else leadingZeros (10 * num) den bound + 1

def leadingExponent (b : Binary) : Int :=
  let num := b.mantissa * twoTo b.exponent.toNat
  let den := twoTo (-b.exponent).toNat
  if den ≤ num then ((Nat.toDigits 10 (num / den)).length : Int) - 1
  else -(leadingZeros num den 400 : Int)

/-- The nearer of the two neighbours with the given last place that read back. -/
def onGrid? (b : Binary) (tens : Int) : Option Decimal :=
  let (unit, den) := b.scale tens
  let value := 4 * b.mantissa * unit
  let low := (4 * b.mantissa - if b.narrowBelow then 1 else 2) * unit
  let high := (4 * b.mantissa + 2) * unit
  let readsBack (n : Nat) : Bool :=
    if b.mantissa % 2 = 0 then low ≤ n * den ∧ n * den ≤ high
    else low < n * den ∧ n * den < high
  let below := value / den
  let above := below + 1
  let nearerBelow := value - below * den
  let nearerAbove := above * den - value
  match readsBack below, readsBack above with
  | true, true =>
    if nearerBelow < nearerAbove ∨ (nearerBelow = nearerAbove ∧ below % 2 = 0) then
      some ⟨below, tens⟩
    else some ⟨above, tens⟩
  | true, false => some ⟨below, tens⟩
  | false, true => some ⟨above, tens⟩
  | false, false => none

/-- The first grid with a decimal that reads back, from coarse to fine. -/
def firstGrid (b : Binary) (tens : Int) : Nat → Decimal
  | 0 => ⟨0, 0⟩
  | finer + 1 => match b.onGrid? tens with
    | some d => d
    | none => firstGrid b (tens - 1) finer

def shortest (b : Binary) : Decimal :=
  b.firstGrid b.leadingExponent 18

end Binary

end FilterWire
