import CardGateway.Text.Utf8

/-!
# Percent-encoding

Bytes that may not stand in a part of a URL are written as `%` and two digits. Each part has its own
set of such bytes; bytes past ASCII are in all of them.
-/

namespace CardGateway.Url.Percent

open CardGateway.Text

abbrev EncodeSet := Char → Bool

def controls : EncodeSet := fun c => c.toNat < 0x20 || 0x7E < c.toNat

def fragment : EncodeSet := fun c =>
  controls c || c == ' ' || c == '"' || c == '<' || c == '>' || c.toNat == 0x60

def path : EncodeSet := fun c =>
  fragment c || c == '#' || c == '?' || c.toNat == 0x7B || c.toNat == 0x7D

def userinfo : EncodeSet := fun c =>
  path c || c == '/' || c == ':' || c == ';' || c == '=' || c == '@' || c == '[' || c == '\\' ||
    c == ']' || c == '^' || c == '|'

def query : EncodeSet := fun c =>
  controls c || c == ' ' || c == '"' || c == '#' || c == '<' || c == '>'

def specialQuery : EncodeSet := fun c => query c || c == '\''

def hexDigit (n : Nat) : Char :=
  if n < 10 then Char.ofNat (48 + n) else Char.ofNat (55 + n)

def encodeByte (b : UInt8) : List Char :=
  ['%', hexDigit (b.toNat / 16), hexDigit (b.toNat % 16)]

def encode (set : EncodeSet) (text : List Char) : List Char :=
  text.flatMap fun c => if set c then (Utf8.encodeChar c).flatMap encodeByte else [c]

def hexValue (b : UInt8) : Option UInt8 :=
  if 0x30 ≤ b && b ≤ 0x39 then some (b - 0x30)
  else if 0x41 ≤ b && b ≤ 0x46 then some (b - 0x37)
  else if 0x61 ≤ b && b ≤ 0x66 then some (b - 0x57)
  else none

/-- A percent sign without two digits stands for itself. -/
def decode : Bytes → Bytes
  | 0x25 :: a :: b :: rest =>
      match hexValue a, hexValue b with
      | some high, some low => (high * 16 + low) :: decode rest
      | _, _ => 0x25 :: decode (a :: b :: rest)
  | b :: rest => b :: decode rest
  | [] => []

end CardGateway.Url.Percent
