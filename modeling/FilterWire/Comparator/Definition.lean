import FilterWire.Text.Basic

/-!
# Comparators

A comparator has a wire token, a label shown to users, and a codec for its values.  Some text
comparators share the wire name `MATCHES` and are told apart by brackets around the value.
-/

namespace FilterWire

/-- How the value of a comparator is written on the wire. -/
inductive Codec
  | plain
  | bracketed (opening closing : Text)
  deriving DecidableEq

namespace Codec

def encode : Codec → Text → Text
  | plain, t => t
  | bracketed opening closing, t => opening ++ t ++ closing

/-- Each bracket is taken off where it stands; a missing one is not missed. -/
def decode : Codec → Text → Text
  | plain, t => t
  | bracketed opening closing, t =>
    let t := (Text.after? opening t).getD t
    (Text.before? closing t).getD t

end Codec

namespace Comparator

/-- The wire name that the bracketed comparators share. -/
def sharedName : Text := ['M', 'A', 'T', 'C', 'H', 'E', 'S']

/-- The mark of a text comparator's token. -/
def textMark : Text := ['S', 'T', 'R', 'I', 'N', 'G', '_']

end Comparator

/-- A comparator; without a wire name of its own it goes by its token. -/
structure Comparator where
  token : Text
  label : Text
  codec : Codec := .plain
  wireName : Option Text := none
  deriving DecidableEq

namespace Comparator

/-- An empty wire name counts as none. -/
def callName (c : Comparator) : Text :=
  match c.wireName with
  | some (x :: r) => x :: r
  | _ => c.token

/-- Whether the value's brackets tell the comparator. -/
def isTextPattern (c : Comparator) : Bool :=
  c.wireName = some sharedName

def isTextComparator (c : Comparator) : Bool :=
  textMark.occursIn c.token

/-- The name in a call.  In legacy mode every text comparator goes by the shared name, so those
without brackets cannot be told apart again. -/
def nameFor (c : Comparator) (legacy : Bool) : Text :=
  if c.isTextPattern || (legacy && c.isTextComparator) then sharedName else c.token

/-- Whether the name in a call hides the comparator. -/
def isLossy (c : Comparator) (legacy : Bool) : Bool :=
  c.nameFor legacy != c.callName

end Comparator

end FilterWire
