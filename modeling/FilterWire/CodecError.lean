import FilterWire.Comparator.Registry
import FilterWire.Value.Basic

/-!
# Errors of the codec

Why a wire expression cannot be read, or a filter set cannot be written.
-/

namespace FilterWire

inductive CodecError
  /-- A segment is not a call. -/
  | malformed (segment : Text)
  /-- No comparator goes by a token or label. -/
  | unknown (key : Key) (name : Value)
  /-- No group opens from a position on. -/
  | noOpening (start : Value) (text : Text)
  /-- The group that opens at a position does not close. -/
  | unclosed (opening : Nat) (text : Text)

namespace CodecError

def message : CodecError → Text
  | malformed segment => "Malformed condition: ".toList ++ segment.quoted
  | unknown key name =>
    "Unknown comparator ".toList ++ key.word ++ ": ".toList ++ name.quoted
  | noOpening start text =>
    "No opening parenthesis after index ".toList ++ start.display ++ ": ".toList ++ text.quoted
  | unclosed opening text =>
    "Unclosed parenthesis at index ".toList ++ Text.ofNat opening ++ ": ".toList ++ text.quoted

end CodecError

end FilterWire
