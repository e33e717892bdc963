/-!
# Decoding UTF-8

Bytes to characters, with the place and the kind of the first fault. A fault covers the bytes
that belong to the character that could not be read: the lead byte and the continuation bytes
that were still acceptable after it.
-/

namespace AgentPackage.Text.Utf8

/-- What is wrong with the bytes of a fault. -/
inductive Problem where
  /-- No character starts with this byte. -/
  | invalidStart
  /-- A byte that should continue the character does not. -/
  | invalidContinuation
  /-- The bytes end inside the character. -/
  | unexpectedEnd
  deriving DecidableEq, Repr

/-- The first place where bytes are not UTF-8. -/
structure Fault where
  /-- What is wrong. -/
  problem : Problem
  /-- The offset of the first byte at fault. -/
  start : Nat
  /-- How many bytes are at fault, at least one. -/
  length : Nat
  /-- The first byte at fault. -/
  lead : UInt8
  deriving DecidableEq, Repr

/-- The wording of a problem. -/
def Problem.message : Problem → String
  | .invalidStart => "invalid start byte"
  | .invalidContinuation => "invalid continuation byte"
  | .unexpectedEnd => "unexpected end of data"

/-- Two lower-case hexadecimal digits of a byte. -/
def hexByte (b : UInt8) : String :=
  String.ofList [Nat.digitChar (b.toNat / 16), Nat.digitChar (b.toNat % 16)]

/-- The wording of a fault: one byte is shown with its value, several by their offsets. -/
def Fault.message (f : Fault) : String :=
  let place :=
    if f.length == 1 then "byte 0x" ++ hexByte f.lead ++ " in position " ++ toString f.start
    else "bytes in position " ++ toString f.start ++ "-" ++ toString (f.start + f.length - 1)
  "'utf-8' codec can't decode " ++ place ++ ": " ++ f.problem.message

/-- What a lead byte announces: the bits it contributes, the bounds of the byte after it and
the number of continuation bytes. -/
structure Lead where
  /-- The leading bits of the character. -/
  bits : Nat
  /-- The least value of the first continuation byte. -/
  low : Nat
  /-- The greatest value of the first continuation byte. -/
  high : Nat
  /-- The number of continuation bytes. -/
  owed : Nat

/-- The character class of a lead byte above ASCII, if any character starts with it. -/
def lead? (b : UInt8) : Option Lead :=
  let n := b.toNat
  if 0xC2 ≤ n && n ≤ 0xDF then some ⟨n - 0xC0, 0x80, 0xBF, 1⟩
  else if n == 0xE0 then some ⟨0, 0xA0, 0xBF, 2⟩
  else if n == 0xED then some ⟨0xD, 0x80, 0x9F, 2⟩
  else if 0xE1 ≤ n && n ≤ 0xEF then some ⟨n - 0xE0, 0x80, 0xBF, 2⟩
  else if n == 0xF0 then some ⟨0, 0x90, 0xBF, 3⟩
  else if 0xF1 ≤ n && n ≤ 0xF3 then some ⟨n - 0xF0, 0x80, 0xBF, 3⟩
  else if n == 0xF4 then some ⟨4, 0x80, 0x8F, 3⟩
  else none

/-- Where the decoder stands: between characters, or inside one. -/
inductive State where
  /-- Between characters. -/
  | between
  /-- Inside a character that started at `start` with byte `lead`: `value` holds the bits read
  from `taken` bytes, `owed + 1` bytes are to come, the next one between `low` and `high`. -/
  | inside (start : Nat) (lead : UInt8) (taken value low high owed : Nat)

/-- Decodes `bytes`, the first of which has offset `offset`; `acc` holds the characters read so
far, latest first. -/
def decodeFrom (acc : List Char) (offset : Nat) : State → List UInt8 → Except Fault (List Char)
  | .between, [] => .ok acc.reverse
  | .inside start lead taken _ _ _ _, [] => .error ⟨.unexpectedEnd, start, taken, lead⟩
  | .between, b :: bytes =>
    if b.toNat < 0x80 then decodeFrom (Char.ofNat b.toNat :: acc) (offset + 1) .between bytes
    else match lead? b with
      | none => .error ⟨.invalidStart, offset, 1, b⟩
      | some l => decodeFrom acc (offset + 1)
          (.inside offset b 1 l.bits l.low l.high (l.owed - 1)) bytes
  | .inside start lead taken value low high owed, b :: bytes =>
    if low ≤ b.toNat && b.toNat ≤ high then
      let value := value * 64 + (b.toNat - 0x80)
      match owed with
      | 0 => decodeFrom (Char.ofNat value :: acc) (offset + 1) .between bytes
      | owed + 1 => decodeFrom acc (offset + 1)
          (.inside start lead (taken + 1) value 0x80 0xBF owed) bytes
    else .error ⟨.invalidContinuation, start, taken, lead⟩

/-- The characters that `bytes` encode, or the first fault. -/
def decode (bytes : List UInt8) : Except Fault (List Char) :=
  decodeFrom [] 0 .between bytes

end AgentPackage.Text.Utf8
