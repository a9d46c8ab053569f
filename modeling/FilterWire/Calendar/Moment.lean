import FilterWire.Calendar.Basic

/-!
# Moments

A point in time, together with the zone whose calendar and clock show it.
-/

namespace FilterWire

/-- The seconds count from the beginning of 1970 in universal time; `offset` says how many seconds
the zone is ahead of it. -/
structure Moment where
  seconds : Int
  micro : Nat := 0
  offset : Int := 0
  zone : Text := "UTC".toList

namespace Moment

/-- The same point in time, shown by universal time. -/
def universal (m : Moment) : Moment :=
  { m with offset := 0, zone := "UTC".toList }

def day (m : Moment) : Int :=
  (m.seconds + m.offset) / 86400

def date (m : Moment) : Date :=
  Date.ofDay m.day

def clock (m : Moment) : Clock :=
  let second := ((m.seconds + m.offset) % 86400).toNat
  ⟨second / 3600, second / 60 % 60, second % 60, m.micro⟩

/-- The day of the week, from Monday as zero. -/
def weekday (m : Moment) : Nat :=
  ((m.day + 3) % 7).toNat

/-- The offset in hours and minutes, and in seconds if there are some. -/
def offsetText (separator : Text) (m : Moment) : Text :=
  let size := m.offset.natAbs
  let parts := [size / 3600, size / 60 % 60] ++ (if size % 60 = 0 then [] else [size % 60])
  (if m.offset < 0 then '-' else '+') ::
    separator.intercalate (parts.map fun n => Text.padDigits 2 (Text.ofNat n))

/-- The year and the number of the week that hold a date: weeks begin on Monday, and a week belongs
to the year that holds its Thursday. -/
def week (m : Moment) : Nat × Nat :=
  let thursday := Date.ofDay (m.day + 3 - m.weekday)
  (thursday.year, (thursday.yearDay - 1) / 7 + 1)

end Moment

end FilterWire
