import FilterWire.Call
import FilterWire.CodecError
import FilterWire.Comparator.Standard
import FilterWire.Log

/-!
# Conditions on the wire

Reading a condition from a call and writing it as one.
-/

namespace FilterWire.Condition

/-- The comparator that a call names. -/
def comparatorOf (call : Call) : Except CodecError Comparator :=
  if call.name = Comparator.sharedName then .ok (Comparator.ofSharedName call.value)
  else match Registry.standard.find? .token call.name with
    | some c => .ok c
    | none => .error (.unknown .token (.str call.name))

def ofCall (call : Call) : Except CodecError Condition := do
  let c ← comparatorOf call
  .ok ⟨call.field, c.label, c.codec.decode call.value⟩

/-- The condition in a text, or nothing if the text holds no call. -/
def decode (t : Text) : Logged CodecError (Option Condition) :=
  match Call.find? t with
  | none => do
    Logged.note (.notACondition t)
    pure none
  | some call => do
    let c ← Logged.ofExcept (ofCall call)
    pure (some c)

/-- The condition in a text that has to hold one. -/
def parse (t : Text) : Logged CodecError Condition := do
  match ← decode t with
  | some c => pure c
  | none => Logged.fail (.malformed t)

/-- The call for a condition with a known comparator. -/
def toCall (legacy : Bool) (comparator : Comparator) (c : Condition) : Call :=
  ⟨comparator.nameFor legacy, c.field, comparator.codec.encode c.query⟩

/-- Writes a condition as a call, with a warning if the call hides the comparator. -/
def encode (legacy : Bool) (c : Condition) : Logged CodecError Text :=
  match Registry.standard.find? .label c.option with
  | none => Logged.fail (.unknown .label (.str c.option))
  | some comparator => do
    if comparator.isLossy legacy then
      Logged.note (.sentAs comparator.token (comparator.nameFor legacy))
    pure (toCall legacy comparator c).text

end FilterWire.Condition
