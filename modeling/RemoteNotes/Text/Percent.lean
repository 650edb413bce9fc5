import RemoteNotes.Text.Utf8

/-!
# Percent-encoding

Octets that a place in a URL does not admit are written as `%` and two hexadecimal digits.
The places differ only in the octets they keep.
-/

namespace RemoteNotes.Text.Percent

open Utf8 (Octets)

def upperHexDigit (n : Nat) : Char :=
  Char.ofNat (if n < 10 then 0x30 + n else 0x37 + n)

def encodeOctet (b : UInt8) : List Char :=
  ['%', upperHexDigit (b.toNat / 16), upperHexDigit (b.toNat % 16)]

/-- Writes the octets that `keep` admits as they are and all others by number. -/
def encodeOctets (keep : UInt8 → Bool) (bs : Octets) : List Char :=
  bs.flatMap fun b => if keep b then [Char.ofNat b.toNat] else encodeOctet b

def encode (keep : UInt8 → Bool) (s : String) : String :=
  String.ofList (encodeOctets keep (Utf8.ofString s))

def isAsciiAlnum (b : UInt8) : Bool :=
  (0x30 ≤ b && b ≤ 0x39) || (0x41 ≤ b && b ≤ 0x5A) || (0x61 ≤ b && b ≤ 0x7A)

/-- Kept in a path segment that is to hold any text: letters, digits and `-._~`. -/
def isUnreserved (b : UInt8) : Bool :=
  isAsciiAlnum b || b == 0x2D || b == 0x2E || b == 0x5F || b == 0x7E

/-- Kept in a form: letters, digits and `*-._`. -/
def isFormSafe (b : UInt8) : Bool :=
  isAsciiAlnum b || b == 0x2A || b == 0x2D || b == 0x2E || b == 0x5F

/-- The form of a text in a query: a space becomes a plus sign. -/
def formEncode (s : String) : String :=
  String.ofList ((Utf8.ofString s).flatMap fun b =>
    if b == 0x20 then ['+'] else if isFormSafe b then [Char.ofNat b.toNat] else encodeOctet b)

def formEncodePairs (pairs : List (String × String)) : String :=
  String.intercalate "&" (pairs.map fun (name, value) => formEncode name ++ "=" ++ formEncode value)

def hexValue? (c : Char) : Option Nat :=
  if c.isDigit then some (c.toNat - 0x30)
  else if 'a' ≤ c ∧ c ≤ 'f' then some (c.toNat - 0x57)
  else if 'A' ≤ c ∧ c ≤ 'F' then some (c.toNat - 0x37)
  else none

/-- The octets of a percent-encoded text. A `%` without two digits stands for itself. -/
def decode : List Char → Octets
  | [] => []
  | c :: cs =>
    if c = '%' then
      match cs with
      | hi :: lo :: rest =>
        match hexValue? hi, hexValue? lo with
        | some h, some l => UInt8.ofNat (h * 16 + l) :: decode rest
        | _, _ => 0x25 :: decode (hi :: lo :: rest)
      | rest => 0x25 :: decode rest
    else String.utf8EncodeChar c ++ decode cs
termination_by cs => cs.length

end RemoteNotes.Text.Percent
