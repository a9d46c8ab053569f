import FilterWire.Decimal.Format
import FilterWire.Dictionary
import FilterWire.Value.EntryKey
import FilterWire.Value.Stamp

/-!
# Values

Loosely typed values, as documents and settings bring them.  A value has a truth, a plain form for
use inside other texts, and a quoted form in which texts stand between quotes.
-/

namespace FilterWire

/-- `unpaired` is a text that holds half of a surrogate pair: it can be quoted but not written. -/
inductive Value
  | null
  | bool (b : Bool)
  | int (n : Int)
  | float (x : Float)
  | str (t : Text)
  | unpaired (codes : List Nat)
  | list (items : List Value)
  | dict (entries : List (EntryKey × Value))
  | stamp (s : Stamp)

namespace Value

/-- Null, zero and everything empty are false. -/
def truth : Value → Bool
  | null => false
  | bool b => b
  | int n => n != 0
  | float x => !(x == 0)
  | str t => !t.isEmpty
  | unpaired codes => !codes.isEmpty
  | list items => !items.isEmpty
  | dict entries => !entries.isEmpty
  | stamp _ => true

/-- Floating-point numbers are written by position from 10^-4 to below 10^16. -/
def floatFormat : NumberFormat where
  least := -4
  greatest := 15
  exponentWidth := 2
  infinity := ['i', 'n', 'f']
  notANumber := ['n', 'a', 'n']

def comma : Text := [',', ' ']

mutual

/-- The form in which texts stand between quotes. -/
def quoted : Value → Text
  | null => ['N', 'o', 'n', 'e']
  | bool true => ['T', 'r', 'u', 'e']
  | bool false => ['F', 'a', 'l', 's', 'e']
  | int n => Text.ofInt n
  | float x => floatFormat.float x
  | str t => t.quoted
  | unpaired codes => Text.quotedCodes codes
  | list items => '[' :: comma.intercalate (quotedItems items) ++ [']']
  | dict entries => '{' :: comma.intercalate (quotedEntries entries) ++ ['}']
  | stamp s => s.quoted

def quotedItems : List Value → List Text
  | [] => []
  | v :: r => quoted v :: quotedItems r

def quotedEntries : List (EntryKey × Value) → List Text
  | [] => []
  | (k, v) :: r => (k.quoted ++ ':' :: ' ' :: quoted v) :: quotedEntries r

end

/-- The plain form: a text stands for itself.  Of unpaired surrogates only the places are kept,
where U+FFFD stands; `isUnpaired` tells whether this happens. -/
def display : Value → Text
  | str t => t
  | unpaired codes => Text.ofCodesLossy codes
  | stamp s => s.text
  | v => v.quoted

/-- The text of a code point sequence, or the sequence itself if a surrogate stays unpaired. -/
def ofCodes (codes : List Nat) : Value :=
  match Text.ofCodes? codes with
  | some t => str t
  | none => unpaired codes

def ofKey : EntryKey → Value
  | .text t => str t
  | .unpaired codes => unpaired codes

mutual

/-- The value of a document that is read in these two ways. -/
def ofReadings : Value → Value → Value
  | str t, str t' => ofKey (.ofReadings t t')
  | unpaired codes, unpaired codes' => ofKey (.ofReadings (.unpaired codes) (.unpaired codes'))
  | list items, list items' => list (ofItemReadings items items')
  | dict entries, dict entries' => dict (ofEntryReadings entries entries')
  | v, _ => v

def ofItemReadings : List Value → List Value → List Value
  | v :: r, v' :: r' => ofReadings v v' :: ofItemReadings r r'
  | _, _ => []

def ofEntryReadings : List (EntryKey × Value) → List (EntryKey × Value) → List (EntryKey × Value)
  | (k, v) :: r, (k', v') :: r' => (.ofReadings k k', ofReadings v v') :: ofEntryReadings r r'
  | _, _ => []

end

def ofOption (f : α → Value) : Option α → Value
  | none => null
  | some a => f a

/-- Whether the value is a text that cannot be written. -/
def isUnpaired : Value → Bool
  | unpaired _ => true
  | _ => false

def valueAt? (k : Text) (entries : List (EntryKey × Value)) : Option Value :=
  entries.lookup (.text k)

/-- Sets a key among the entries of a document. -/
def setKey (k : EntryKey) (v : Value) (es : Dictionary EntryKey Value) :
    Dictionary EntryKey Value :=
  es.set k v

end Value

/-- The entries of a dictionary in order. -/
abbrev Entries := Dictionary EntryKey Value

end FilterWire
