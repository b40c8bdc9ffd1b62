import CardGateway.Text.Utf8

/-!
# Base64 texts

Six bits a symbol, in the standard and in the URL-safe alphabet. Reading is strict: padding is as the
alphabet's variant demands, and the bits that the last symbol carries in excess are zero.
-/

namespace CardGateway.Text.Base64

inductive Variant where
  /-- Symbols `+` and `/`, padded to whole quads. -/
  | standard
  /-- Symbols `-` and `_`, never padded. -/
  | urlSafe
  deriving DecidableEq, Repr

inductive Fault where
  | symbol (byte : UInt8) (offset : Nat)
  | length (count : Nat)
  | padding
  | lastSymbol (byte : UInt8) (offset : Nat)
  deriving DecidableEq, Repr

def Fault.message : Fault → String
  | .symbol byte offset => s!"Invalid symbol {byte.toNat}, offset {offset}."
  | .length count => s!"Invalid input length: {count}"
  | .padding => "Invalid padding"
  | .lastSymbol byte offset => s!"Invalid last symbol {byte.toNat}, offset {offset}."

def pad : UInt8 := 0x3D

def symbol (v : Variant) (n : Nat) : UInt8 :=
  if n < 26 then (65 + n).toUInt8
  else if n < 52 then (71 + n).toUInt8
  else if n < 62 then (n - 4).toUInt8
  else match v, n with
    | .standard, 62 => 0x2B
    | .standard, _ => 0x2F
    | .urlSafe, 62 => 0x2D
    | .urlSafe, _ => 0x5F

def symbolValue (v : Variant) (b : UInt8) : Option Nat :=
  if 0x41 ≤ b && b ≤ 0x5A then some (b.toNat - 65)
  else if 0x61 ≤ b && b ≤ 0x7A then some (b.toNat - 71)
  else if 0x30 ≤ b && b ≤ 0x39 then some (b.toNat + 4)
  else match v with
    | .standard => if b == 0x2B then some 62 else if b == 0x2F then some 63 else none
    | .urlSafe => if b == 0x2D then some 62 else if b == 0x5F then some 63 else none

def padding (v : Variant) (count : Nat) : Bytes :=
  match v with
  | .standard => List.replicate count pad
  | .urlSafe => []

def encode (v : Variant) : Bytes → Bytes
  | [] => []
  | [a] =>
      let n := a.toNat * 16
      symbol v (n / 64) :: symbol v (n % 64) :: padding v 2
  | [a, b] =>
      let n := (a.toNat * 256 + b.toNat) * 4
      symbol v (n / 4096) :: symbol v (n / 64 % 64) :: symbol v (n % 64) :: padding v 1
  | a :: b :: c :: rest =>
      let n := (a.toNat * 256 + b.toNat) * 256 + c.toNat
      symbol v (n / 262144) :: symbol v (n / 4096 % 64) :: symbol v (n / 64 % 64) ::
        symbol v (n % 64) :: encode v rest

def encodeText (v : Variant) (bytes : Bytes) : String :=
  String.ofList ((encode v bytes).map fun b => Char.ofNat b.toNat)

def valueAt (v : Variant) (offset : Nat) (b : UInt8) : Except Fault Nat :=
  match symbolValue v b with
  | some n => .ok n
  | none => .error (.symbol b offset)

/-- The symbols of the last quad from `offset` on: their values in reverse, the last symbol, and the
offset of the first padding with the count of paddings. Padding comes after two symbols at least and
nothing comes after it. -/
def lastQuad (v : Variant) (start : Nat) :
    Nat → List Nat → UInt8 → Option (Nat × Nat) → Bytes →
      Except Fault (List Nat × UInt8 × Nat)
  | _, values, last, padded, [] => .ok (values, last, (padded.map (·.2)).getD 0)
  | index, values, last, padded, b :: rest =>
      if b == pad then
        if index < 2 then .error (.symbol b (start + index))
        else match padded with
          | none => lastQuad v start (index + 1) values last (some (index, 1)) rest
          | some (first, count) =>
              lastQuad v start (index + 1) values last (some (first, count + 1)) rest
      else match padded with
        | some (first, _) => .error (.symbol pad (start + first))
        | none =>
            match symbolValue v b with
            | none => .error (.symbol b (start + index))
            | some n => lastQuad v start (index + 1) (n :: values) b none rest

/-- The bytes of the last quad's values, and whether the excess bits are zero. -/
def unpack : List Nat → Bytes × Bool
  | [a, b] => ([(a * 4 + b / 16).toUInt8], b % 16 == 0)
  | [a, b, c] =>
      ([(a * 4 + b / 16).toUInt8, (b % 16 * 16 + c / 4).toUInt8], c % 4 == 0)
  | [a, b, c, d] =>
      ([(a * 4 + b / 16).toUInt8, (b % 16 * 16 + c / 4).toUInt8, (c % 4 * 64 + d).toUInt8], true)
  | _ => ([], true)

def decodeEnd (v : Variant) (start : Nat) (text : Bytes) : Except Fault Bytes := do
  let (values, last, padded) ← lastQuad v start 0 [] 0 none text
  if values.length < 2 then throw (.length (start + values.length))
  let fits := match v with
    | .standard => (padded + values.length) % 4 == 0
    | .urlSafe => padded == 0
  if !fits then throw .padding
  let (bytes, exact) := unpack values.reverse
  if !exact then throw (.lastSymbol last (start + values.length - 1))
  return bytes

/-- A quad is the last one if nothing follows it. -/
def decodeFrom (v : Variant) (offset : Nat) : Bytes → Except Fault Bytes
  | a :: b :: c :: d :: e :: rest => do
      let a ← valueAt v offset a
      let b ← valueAt v (offset + 1) b
      let c ← valueAt v (offset + 2) c
      let d ← valueAt v (offset + 3) d
      let n := ((a * 64 + b) * 64 + c) * 64 + d
      return (n / 65536).toUInt8 :: (n / 256 % 256).toUInt8 :: (n % 256).toUInt8 ::
        (← decodeFrom v (offset + 4) (e :: rest))
  | text => decodeEnd v offset text

/-- A single byte after whole quads is judged before all else unless it pads. -/
def strayByte (v : Variant) (text : Bytes) : Option Fault :=
  if text.length % 4 == 1 then
    match text.getLast? with
    | some b =>
        if b != pad && (symbolValue v b).isNone then some (.symbol b (text.length - 1)) else none
    | none => none
  else none

def decode (v : Variant) (text : Bytes) : Except Fault Bytes :=
  match text, strayByte v text with
  | [], _ => .ok []
  | _, some fault => .error fault
  | _, none => decodeFrom v 0 text

end CardGateway.Text.Base64
