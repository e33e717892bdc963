/-!
# Base 64

Decoding of binary data written in the alphabet of 64 characters. Characters outside the
alphabet are passed over; padding ends the data once it completes a group of four.
-/

namespace AgentPackage.Text.Base64

/-- Why a text is no binary data. -/
inductive Problem where
  /-- The last group lacks its padding. -/
  | incorrectPadding
  /-- The last group has a single character; `count` is the number of characters up to it. -/
  | loneCharacter (count : Nat)
  deriving DecidableEq, Repr

/-- The wording of a problem. -/
def Problem.message : Problem → String
  | .incorrectPadding => "Incorrect padding"
  | .loneCharacter count =>
    "Invalid base64-encoded string: number of data characters (" ++ toString count ++
      ") cannot be 1 more than a multiple of 4"

/-- The six bits that a character of the alphabet stands for. -/
def sextet? (c : Char) : Option Nat :=
  if 'A' ≤ c && c ≤ 'Z' then some (c.toNat - 'A'.toNat)
  else if 'a' ≤ c && c ≤ 'z' then some (c.toNat - 'a'.toNat + 26)
  else if '0' ≤ c && c ≤ '9' then some (c.toNat - '0'.toNat + 52)
  else if c == '+' then some 62
  else if c == '/' then some 63
  else none

/-- Decodes characters. `acc` holds the bytes read so far, latest first, `group` the number of
characters read of the present group, `left` the bits of the last of them that are not yet part
of a byte, and `pads` the number of padding characters in a row before. -/
def decodeFrom (acc : List UInt8) (group left pads : Nat) :
    List Char → Except Problem (List UInt8)
  | [] =>
    if group == 0 then .ok acc.reverse
    else if group == 1 then .error (.loneCharacter (acc.length / 3 * 4 + 1))
    else .error .incorrectPadding
  | c :: cs =>
    if c == '=' then
      if 2 ≤ group then
        if 4 ≤ group + (pads + 1) then .ok acc.reverse
        else decodeFrom acc group left (pads + 1) cs
      else decodeFrom acc group left pads cs
    else match sextet? c with
      | none => decodeFrom acc group left pads cs
      | some n =>
        match group with
        | 0 => decodeFrom acc 1 n 0 cs
        | 1 => decodeFrom ((left * 4 + n / 16).toUInt8 :: acc) 2 (n % 16) 0 cs
        | 2 => decodeFrom ((left * 16 + n / 4).toUInt8 :: acc) 3 (n % 4) 0 cs
        | _ => decodeFrom ((left * 64 + n).toUInt8 :: acc) 0 0 0 cs

/-- The binary data that characters denote. -/
def decode (cs : List Char) : Except Problem (List UInt8) :=
  decodeFrom [] 0 0 0 cs

end AgentPackage.Text.Base64
