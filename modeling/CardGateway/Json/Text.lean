import CardGateway.Json.Fault
import CardGateway.Text.Utf8

/-!
# JSON strings

Strings are read in two ways. `skipText` only finds the end of one; `readText` gives its content and
is stricter: surrogates come in pairs and the bytes are UTF-8. Both start behind the opening quote.
-/

namespace CardGateway.Json

open CardGateway.Text

def quote : UInt8 := 0x22

def backslash : UInt8 := 0x5C

def letterU : UInt8 := 0x75

/-- The byte that an escape of one letter stands for. -/
def shortEscape (b : UInt8) : Option UInt8 :=
  if b == 0x22 || b == 0x5C || b == 0x2F then some b
  else if b == 0x62 then some 0x08
  else if b == 0x66 then some 0x0C
  else if b == 0x6E then some 0x0A
  else if b == 0x72 then some 0x0D
  else if b == 0x74 then some 0x09
  else none

def hexValue (b : UInt8) : Option Nat :=
  if 0x30 ≤ b && b ≤ 0x39 then some (b.toNat - 48)
  else if 0x41 ≤ b && b ≤ 0x46 then some (b.toNat - 55)
  else if 0x61 ≤ b && b ≤ 0x66 then some (b.toNat - 87)
  else none

def hexQuad (a b c d : UInt8) : Except Fault Nat :=
  match hexValue a, hexValue b, hexValue c, hexValue d with
  | some a, some b, some c, some d => .ok (((a * 16 + b) * 16 + c) * 16 + d)
  | _, _, _, _ => .error .escape

/-- What follows the closing quote. -/
def skipText : Bytes → Except Fault Bytes
  | [] => .error (.ends .text)
  | 0x5C :: 0x75 :: a :: b :: c :: d :: rest => do
      let _ ← hexQuad a b c d
      skipText rest
  | 0x5C :: 0x75 :: _ => .error (.ends .text)
  | [0x5C] => .error (.ends .text)
  | 0x5C :: e :: rest => if (shortEscape e).isSome then skipText rest else .error .escape
  | b :: rest =>
      if b == quote then .ok rest
      else if b < 0x20 then .error .control
      else skipText rest

def isLeading (n : Nat) : Bool := 0xD800 ≤ n && n ≤ 0xDBFF

def isTrailing (n : Nat) : Bool := 0xDC00 ≤ n && n ≤ 0xDFFF

def joinSurrogates (lead trail : Nat) : Char :=
  Char.ofNat ((lead - 0xD800) * 1024 + (trail - 0xDC00) + 0x10000)

/-- The fault of a text in which no second escape follows a leading surrogate. -/
def unpaired : Bytes → Fault
  | [] => .ends .text
  | [0x5C] => .ends .text
  | 0x5C :: 0x75 :: _ => .ends .text
  | _ => .escapeEnds

/-- The bytes up to the closing quote, escapes replaced. -/
def unescape : Bytes → Except Fault Bytes
  | [] => .error (.ends .text)
  | 0x5C :: 0x75 :: a :: b :: c :: d :: rest => do
      let n ← hexQuad a b c d
      if isTrailing n then throw .loneSurrogate
      if isLeading n then
        match rest with
        | 0x5C :: 0x75 :: a :: b :: c :: d :: rest => do
            let m ← hexQuad a b c d
            if !isTrailing m then throw .loneSurrogate
            return Utf8.encodeChar (joinSurrogates n m) ++ (← unescape rest)
        | rest => throw (unpaired rest)
      else return Utf8.encodeChar (Char.ofNat n) ++ (← unescape rest)
  | 0x5C :: 0x75 :: _ => .error (.ends .text)
  | [0x5C] => .error (.ends .text)
  | 0x5C :: e :: rest =>
      match shortEscape e with
      | some b => do return b :: (← unescape rest)
      | none => .error .escape
  | b :: rest =>
      if b == quote then .ok []
      else if b < 0x20 then .error .control
      else do return b :: (← unescape rest)

def readText (text : Bytes) : Except Fault String := do
  let bytes ← unescape text
  let some s := Utf8.decode? bytes | throw .codePoint
  return s

/-- Only quotes, backslashes and control characters are escaped. -/
def escapeChar (c : Char) : List Char :=
  if c == '"' then ['\\', '"']
  else if c == '\\' then ['\\', '\\']
  else if c == '\x08' then ['\\', 'b']
  else if c == '\x0c' then ['\\', 'f']
  else if c == '\n' then ['\\', 'n']
  else if c == '\r' then ['\\', 'r']
  else if c == '\t' then ['\\', 't']
  else if c.toNat < 0x20 then
    ['\\', 'u', '0', '0', Nat.digitChar (c.toNat / 16), Nat.digitChar (c.toNat % 16)]
  else [c]

/-- The string in quotes. -/
def writeText (s : String) : List Char :=
  '"' :: s.toList.flatMap escapeChar ++ ['"']

end CardGateway.Json
