/-!
# UTF-8

Texts as bytes. `scan` reads a byte sequence left to right and reports each character, and `none` for
each longest ill-formed piece; the strict and the lossy reading are both read off it.
-/

namespace CardGateway

abbrev Bytes := List UInt8

namespace Text.Utf8

/-- A character whose lead byte is read: the bytes still to come after the next one, the range of the
next one, and the bits so far. -/
structure Pending where
  left : Nat
  low : UInt8
  high : UInt8
  bits : Nat

inductive Lead where
  | char (c : Char)
  | pending (p : Pending)
  | bad

/-- The ranges of the second byte exclude overlong forms, surrogates and values past U+10FFFF. -/
def lead (b : UInt8) : Lead :=
  if b < 0x80 then .char (Char.ofNat b.toNat)
  else if b < 0xC2 then .bad
  else if b < 0xE0 then .pending ⟨0, 0x80, 0xBF, b.toNat % 32⟩
  else if b == 0xE0 then .pending ⟨1, 0xA0, 0xBF, 0⟩
  else if b == 0xED then .pending ⟨1, 0x80, 0x9F, 13⟩
  else if b < 0xF0 then .pending ⟨1, 0x80, 0xBF, b.toNat % 16⟩
  else if b == 0xF0 then .pending ⟨2, 0x90, 0xBF, 0⟩
  else if b < 0xF4 then .pending ⟨2, 0x80, 0xBF, b.toNat % 8⟩
  else if b == 0xF4 then .pending ⟨2, 0x80, 0x8F, 4⟩
  else .bad

def scan : Option Pending → Bytes → List (Option Char)
  | none, [] => []
  | some _, [] => [none]
  | none, b :: rest =>
      match lead b with
      | .char c => some c :: scan none rest
      | .pending p => scan (some p) rest
      | .bad => none :: scan none rest
  | some p, b :: rest =>
      if p.low ≤ b && b ≤ p.high then
        let bits := p.bits * 64 + b.toNat % 64
        match p.left with
        | 0 => some (Char.ofNat bits) :: scan none rest
        | left + 1 => scan (some ⟨left, 0x80, 0xBF, bits⟩) rest
      else
        match lead b with
        | .char c => none :: some c :: scan none rest
        | .pending q => none :: scan (some q) rest
        | .bad => none :: none :: scan none rest

def decode? (bytes : Bytes) : Option String :=
  ((scan none bytes).mapM id).map String.ofList

/-- Every ill-formed piece reads as U+FFFD. -/
def decodeLossy (bytes : Bytes) : String :=
  String.ofList ((scan none bytes).map (·.getD '\uFFFD'))

def encodeChar (c : Char) : Bytes :=
  let n := c.toNat
  if n < 0x80 then [n.toUInt8]
  else if n < 0x800 then [(0xC0 + n / 64).toUInt8, (0x80 + n % 64).toUInt8]
  else if n < 0x10000 then
    [(0xE0 + n / 4096).toUInt8, (0x80 + n / 64 % 64).toUInt8, (0x80 + n % 64).toUInt8]
  else
    [(0xF0 + n / 262144).toUInt8, (0x80 + n / 4096 % 64).toUInt8, (0x80 + n / 64 % 64).toUInt8,
      (0x80 + n % 64).toUInt8]

def encode (text : String) : Bytes :=
  text.toList.flatMap encodeChar

theorem encode_ofList (chars : List Char) :
    encode (String.ofList chars) = chars.flatMap encodeChar := by
  simp [encode]

end Text.Utf8

end CardGateway
