import FilterWire.Text.Basic

/-!
# UTF-8

The bytes of a text, the text of bytes, and the line ends of a text that comes from outside.
-/

namespace FilterWire.Text

abbrev Bytes := List UInt8

def encodeUtf8 (t : Text) : Bytes :=
  t.flatMap String.utf8EncodeChar

/-- A byte that continues a character. -/
def isContinuation (b : UInt8) : Bool :=
  0x80 ≤ b ∧ b < 0xC0

def bits (b : UInt8) : Nat :=
  b.toNat - 0x80

/-- The text of well-formed bytes: every character in its shortest form and no surrogates.
`passed` holds, backwards, what has been decoded. -/
def decodeUtf8From (passed : Text) : Bytes → Option Text
  | [] => some passed.reverse
  | a :: r =>
    if a < 0x80 then decodeUtf8From (Char.ofNat a.toNat :: passed) r
    else match r with
      | [] => none
      | b :: r =>
        if !isContinuation b then none
        else if 0xC2 ≤ a ∧ a < 0xE0 then
          decodeUtf8From (Char.ofNat ((a.toNat - 0xC0) * 64 + bits b) :: passed) r
        else match r with
          | [] => none
          | c :: r =>
            if !isContinuation c then none
            else if (a = 0xE0 ∧ 0xA0 ≤ b) ∨ (0xE1 ≤ a ∧ a < 0xED) ∨ (a = 0xED ∧ b < 0xA0) ∨
                (0xEE ≤ a ∧ a < 0xF0) then
              let n := ((a.toNat - 0xE0) * 64 + bits b) * 64 + bits c
              decodeUtf8From (Char.ofNat n :: passed) r
            else match r with
              | [] => none
              | d :: r =>
                if !isContinuation d then none
                else if (a = 0xF0 ∧ 0x90 ≤ b) ∨ (0xF1 ≤ a ∧ a < 0xF4) ∨ (a = 0xF4 ∧ b < 0x90) then
                  let n := (((a.toNat - 0xF0) * 64 + bits b) * 64 + bits c) * 64 + bits d
                  decodeUtf8From (Char.ofNat n :: passed) r
                else none

def decodeUtf8? (bytes : Bytes) : Option Text :=
  decodeUtf8From [] bytes

/-- Line ends of any kind become line feeds; `passed` holds, backwards, what has been read. -/
def normalLinesFrom (passed : Text) : Text → Text
  | [] => passed.reverse
  | '\r' :: '\n' :: r => normalLinesFrom ('\n' :: passed) r
  | '\r' :: r => normalLinesFrom ('\n' :: passed) r
  | c :: r => normalLinesFrom (c :: passed) r

def normalLines (t : Text) : Text :=
  normalLinesFrom [] t

def ofBytes? (bytes : Bytes) : Option Text :=
  (decodeUtf8? bytes).map normalLines

end FilterWire.Text
