import FilterWire.Calendar.Basic

/-!
# Calendar stamps

Dates, times of day and their combinations, with a plain form and a form that names the parts.
-/

namespace FilterWire

/-- A date, a time of day, or both; the offset from universal time is in minutes. -/
inductive Stamp
  | date (d : Date)
  | clock (c : Clock)
  | moment (d : Date) (c : Clock) (offset : Option Int)

namespace Stamp

def offsetText (minutes : Int) : Text :=
  let size := minutes.natAbs
  (if minutes < 0 then '-' else '+') :: Text.padDigits 2 (Text.ofNat (size / 60)) ++
    ':' :: Text.padDigits 2 (Text.ofNat (size % 60))

def text : Stamp → Text
  | date d => d.text
  | clock c => c.text
  | moment d c offset => d.text ++ ' ' :: c.text ++ (offset.map offsetText).getD []

/-- An offset by name: negative ones count back from the day before. -/
def offsetName (minutes : Int) : Text :=
  if minutes = 0 then "datetime.timezone.utc".toList
  else
    let days := if minutes < 0 then "days=-1, ".toList else []
    "datetime.timezone(datetime.timedelta(".toList ++ days ++ "seconds=".toList ++
      Text.ofInt (minutes % 1440 * 60) ++ "))".toList

def call (name : Text) (parts : List Text) : Text :=
  name ++ '(' :: [',', ' '].intercalate parts ++ [')']

def quoted : Stamp → Text
  | date d => call "datetime.date".toList d.parts
  | clock c => call "datetime.time".toList c.parts
  | moment d c offset =>
    let zone := match offset with
      | none => []
      | some minutes => ["tzinfo=".toList ++ offsetName minutes]
    call "datetime.datetime".toList (d.parts ++ c.parts ++ zone)

end Stamp

end FilterWire
