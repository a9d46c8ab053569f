import FilterWire.Decimal.Shortest
import FilterWire.Text.Basic

/-!
# Number formats

Writing a floating-point number: which decimals are written by position, and how an exponent looks.
-/

namespace FilterWire

/-- The choices of a number format. -/
structure NumberFormat where
  /-- The least exponent of a first digit that is written by position. -/
  least : Int
  /-- The greatest exponent of a first digit that is written by position. -/
  greatest : Int
  /-- The least number of digits in an exponent. -/
  exponentWidth : Nat
  infinity : Text
  notANumber : Text

namespace NumberFormat

def positional (digits : Text) (places : Int) : Text :=
  if places ≤ 0 then
    '0' :: '.' :: List.replicate (-places).toNat '0' ++ digits
  else
    let whole := digits.take places.toNat
    let rest := digits.drop places.toNat
    whole ++ List.replicate (places.toNat - whole.length) '0' ++
      '.' :: (if rest.isEmpty then ['0'] else rest)

/-- One digit, the others after a point, and the exponent with its sign. -/
def scientific (f : NumberFormat) (digits : Text) (exponent : Int) : Text :=
  let rest := digits.drop 1
  let sign := if exponent < 0 then '-' else '+'
  digits.take 1 ++ (if rest.isEmpty then [] else '.' :: rest) ++
    'e' :: sign :: Text.padDigits f.exponentWidth (Text.ofNat exponent.natAbs)

def decimal (f : NumberFormat) (d : Decimal) : Text :=
  let all := Text.ofNat d.digits
  let digits := (all.reverse.dropWhile (· = '0')).reverse
  let exponent := d.exponent + all.length - 1
  if f.least ≤ exponent ∧ exponent ≤ f.greatest then positional digits (exponent + 1)
  else f.scientific digits exponent

def float (f : NumberFormat) (x : Float) : Text :=
  let bits := x.toBits.toNat
  let magnitude := bits % twoTo 63
  let sign : Text := if bits < twoTo 63 then [] else ['-']
  if 0x7FF * twoTo 52 < magnitude then f.notANumber
  else if magnitude = 0x7FF * twoTo 52 then sign ++ f.infinity
  else if magnitude = 0 then sign ++ ['0', '.', '0']
  else sign ++ f.decimal (Binary.ofBits magnitude).shortest

end NumberFormat

end FilterWire
