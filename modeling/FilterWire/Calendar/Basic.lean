import FilterWire.Text.Basic

/-!
# Dates and times of day

Dates of the Gregorian calendar and times of day, with their parts and their plain forms.
-/

namespace FilterWire

structure Date where
  year : Nat
  month : Nat
  day : Nat

structure Clock where
  hour : Nat
  minute : Nat
  second : Nat
  micro : Nat

namespace Date

def isLeap (year : Nat) : Bool :=
  year % 4 = 0 ∧ (year % 100 ≠ 0 ∨ year % 400 = 0)

def daysIn (year month : Nat) : Nat :=
  if month = 2 then (if isLeap year then 29 else 28)
  else if month = 4 ∨ month = 6 ∨ month = 9 ∨ month = 11 then 30
  else 31

/-- Year 1 is the first year of the calendar. -/
def isValid (d : Date) : Bool :=
  1 ≤ d.year ∧ 1 ≤ d.month ∧ d.month ≤ 12 ∧ 1 ≤ d.day ∧ d.day ≤ daysIn d.year d.month

/-- The number of a day in its year, from one on. -/
def yearDay (d : Date) : Nat :=
  (List.range (d.month - 1)).foldl (fun n m => n + daysIn d.year (m + 1)) d.day

/-- The date of a day, counted from the beginning of 1970.  The count is taken in years that end
with February and in cycles of 400 such years. -/
def ofDay (n : Int) : Date :=
  let fromMarch := n + 719468
  let cycle := (fromMarch / 146097).toNat
  let inCycle := (fromMarch % 146097).toNat
  let year := (inCycle - inCycle / 1460 + inCycle / 36524 - inCycle / 146096) / 365
  let inYear := inCycle - (365 * year + year / 4 - year / 100)
  let month := (5 * inYear + 2) / 153
  let day := inYear - (153 * month + 2) / 5 + 1
  if month < 10 then ⟨400 * cycle + year, month + 3, day⟩
  else ⟨400 * cycle + year + 1, month - 9, day⟩

def text (d : Date) : Text :=
  Text.padDigits 4 (Text.ofNat d.year) ++ '-' :: Text.padDigits 2 (Text.ofNat d.month) ++
    '-' :: Text.padDigits 2 (Text.ofNat d.day)

def parts (d : Date) : List Text :=
  [d.year, d.month, d.day].map Text.ofNat

end Date

namespace Clock

/-- Microseconds are written only if there are some. -/
def text (c : Clock) : Text :=
  Text.padDigits 2 (Text.ofNat c.hour) ++ ':' :: Text.padDigits 2 (Text.ofNat c.minute) ++
    ':' :: Text.padDigits 2 (Text.ofNat c.second) ++
    (if c.micro = 0 then [] else '.' :: Text.padDigits 6 (Text.ofNat c.micro))

/-- Zero seconds and microseconds at the end are left out. -/
def parts (c : Clock) : List Text :=
  (if c.micro ≠ 0 then [c.hour, c.minute, c.second, c.micro]
   else if c.second ≠ 0 then [c.hour, c.minute, c.second]
   else [c.hour, c.minute]).map Text.ofNat

end Clock

end FilterWire
