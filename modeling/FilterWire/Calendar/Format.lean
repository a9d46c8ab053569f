import FilterWire.Calendar.Moment

/-!
# Formats of moments

Writing a moment by a format.  A format is written in tokens, letters that are repeated as often as
the part of the moment has places, or in directives, a percent sign and a letter; one percent sign
makes all of it directives.  What is neither stands for itself.
-/

namespace FilterWire

def weekdayNames : List Text :=
  ["Monday", "Tuesday", "Wednesday", "Thursday", "Friday", "Saturday", "Sunday"].map String.toList

def monthNames : List Text :=
  ["January", "February", "March", "April", "May", "June", "July", "August", "September",
    "October", "November", "December"].map String.toList

namespace Moment

def places (width n : Nat) : Text :=
  Text.padDigits width (Text.ofNat n)

def columns (n : Nat) : Text :=
  List.replicate (2 - (Text.ofNat n).length) ' ' ++ Text.ofNat n

def weekdayName (m : Moment) : Text :=
  (weekdayNames[m.weekday]?).getD []

def monthName (m : Moment) : Text :=
  (monthNames[m.date.month - 1]?).getD []

def halfDayHour (m : Moment) : Nat :=
  (m.clock.hour + 11) % 12 + 1

def halfDay (m : Moment) : Text :=
  if m.clock.hour < 12 then "AM".toList else "PM".toList

/-! ### Tokens -/

def tokenLengths : Char → List Nat
  | 'H' | 'h' | 'm' | 's' | 'Z' => [2, 1]
  | 'S' => [6, 5, 4, 3, 2, 1]
  | 'Y' => [4, 2]
  | 'M' | 'D' => [4, 3, 2, 1]
  | 'd' => [4, 3, 1]
  | 'z' => [2]
  | 'A' | 'E' | 'Q' | 'X' | 'x' => [1]
  | _ => []

def tokenLength : Text → Nat
  | [] => 0
  | c :: r =>
    ((tokenLengths c).find? fun n => (List.replicate n c).isPrefixOf (c :: r)).getD 0

def token (m : Moment) (c : Char) (n : Nat) : Text :=
  match c with
  | 'Y' => if n = 4 then places 4 m.date.year else places 2 (m.date.year % 100)
  | 'Q' => Text.ofNat ((m.date.month - 1) / 3 + 1)
  | 'M' =>
    if n = 4 then m.monthName else if n = 3 then m.monthName.take 3 else places n m.date.month
  | 'D' =>
    if n = 4 then places 3 m.date.yearDay
    else if n = 3 then Text.ofNat m.date.yearDay
    else places n m.date.day
  | 'd' =>
    if n = 4 then m.weekdayName
    else if n = 3 then m.weekdayName.take 3
    else Text.ofNat m.weekday
  | 'E' => Text.ofNat (m.weekday + 1)
  | 'H' => places n m.clock.hour
  | 'h' => places n m.halfDayHour
  | 'm' => places n m.clock.minute
  | 's' => places n m.clock.second
  | 'S' => (places 6 m.micro).take n
  | 'A' => m.halfDay
  | 'Z' => m.offsetText (if n = 1 then [':'] else [])
  | 'z' => m.zone
  | 'X' => Text.ofInt m.seconds
  | 'x' => Text.ofInt (1000000 * m.seconds + m.micro)
  | _ => List.replicate n c

def universalMark : Text := "!UTC".toList

/-- What stands between square brackets, and the rest, if brackets keep it as it is: one token, the
mark of universal time, or nothing.  The text begins after the opening bracket. -/
def bracketed? (t : Text) : Option (Text × Text) :=
  let n := if universalMark.isPrefixOf t then universalMark.length else tokenLength t
  match t.drop n with
  | ']' :: r => some (t.take n, r)
  | _ => none

def tokensFrom (m : Moment) : (fuel : Nat) → Text → Text
  | 0, t => t
  | _, [] => []
  | fuel + 1, c :: r =>
    match if c = '[' then bracketed? r else none with
    | some (kept, r) => kept ++ tokensFrom m fuel r
    | none =>
      match tokenLength (c :: r) with
      | 0 => c :: tokensFrom m fuel r
      | n + 1 => m.token c (n + 1) ++ tokensFrom m fuel (r.drop n)

def tokens (m : Moment) (format : Text) : Text :=
  m.tokensFrom format.length format

/-! ### Directives -/

/-- The number of the week in the year, if weeks begin on the given day of the week; days before the
first such day are in week zero. -/
def weekFrom (first : Nat) (m : Moment) : Nat :=
  (m.date.yearDay + 6 - (m.weekday + 7 - first) % 7) / 7

def dateSlashes (m : Moment) : Text :=
  places 2 m.date.month ++ '/' :: places 2 m.date.day ++ '/' :: places 2 (m.date.year % 100)

def hourMinute (m : Moment) : Text :=
  places 2 m.clock.hour ++ ':' :: places 2 m.clock.minute

def timeOfDay (m : Moment) : Text :=
  m.hourMinute ++ ':' :: places 2 m.clock.second

def directive? (m : Moment) : Char → Option Text
  | 'a' => some (m.weekdayName.take 3)
  | 'A' => some m.weekdayName
  | 'b' | 'h' => some (m.monthName.take 3)
  | 'B' => some m.monthName
  | 'c' => some (m.weekdayName.take 3 ++ ' ' :: m.monthName.take 3 ++ ' ' :: columns m.date.day ++
      ' ' :: m.timeOfDay ++ ' ' :: Text.ofNat m.date.year)
  | 'C' => some (places 2 (m.date.year / 100))
  | 'd' => some (places 2 m.date.day)
  | 'D' | 'x' => some m.dateSlashes
  | 'e' => some (columns m.date.day)
  | 'f' => some (places 6 m.micro)
  | 'F' => some m.date.text
  | 'g' => some (places 2 (m.week.1 % 100))
  | 'G' => some (Text.ofNat m.week.1)
  | 'H' => some (places 2 m.clock.hour)
  | 'I' => some (places 2 m.halfDayHour)
  | 'j' => some (places 3 m.date.yearDay)
  | 'k' => some (columns m.clock.hour)
  | 'l' => some (columns m.halfDayHour)
  | 'm' => some (places 2 m.date.month)
  | 'M' => some (places 2 m.clock.minute)
  | 'n' => some ['\n']
  | 'p' => some m.halfDay
  | 'P' => some (m.halfDay.map Char.toLower)
  | 'r' => some (places 2 m.halfDayHour ++ ':' :: places 2 m.clock.minute ++ ':' ::
      places 2 m.clock.second ++ ' ' :: m.halfDay)
  | 'R' => some m.hourMinute
  | 's' => some (Text.ofInt m.seconds)
  | 'S' => some (places 2 m.clock.second)
  | 't' => some ['\t']
  | 'T' | 'X' => some m.timeOfDay
  | 'u' => some (Text.ofNat (m.weekday + 1))
  | 'U' => some (places 2 (m.weekFrom 6))
  | 'V' => some (places 2 m.week.2)
  | 'w' => some (Text.ofNat ((m.weekday + 1) % 7))
  | 'W' => some (places 2 (m.weekFrom 0))
  | 'y' => some (places 2 (m.date.year % 100))
  | 'Y' => some (Text.ofNat m.date.year)
  | 'z' => some (m.offsetText [])
  | 'Z' => some m.zone
  | '%' => some ['%']
  | _ => none

/-- A moment by a format in directives; a letter that is no directive stays with its sign. -/
def directives (m : Moment) : Text → Text
  | '%' :: c :: r => (m.directive? c).getD ['%', c] ++ directives m r
  | c :: r => c :: directives m r
  | [] => []

/-! ### Formats -/

def fullFormat : Text := "%Y-%m-%dT%H:%M:%S.%f%z".toList

/-- The tokens for fractions of a second end with the microsecond; a longer one is refused. -/
def overlongFraction : Text := List.replicate 7 'S'

def format? (m : Moment) (format : Text) : Option Text :=
  let (m, format) := match Text.before? universalMark format with
    | some t => (m.universal, t)
    | none => (m, format)
  let format := if format.isEmpty then fullFormat else format
  if format.contains '%' then some (m.directives format)
  else if overlongFraction.occursIn format then none
  else some (m.tokens format)

end Moment

end FilterWire
