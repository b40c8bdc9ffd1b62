import CardGateway.Text.Printable
import CardGateway.Text.Utf8

/-!
# Quoted texts

Texts as error messages show them: between quotes, with characters that would not show written by
their number.
-/

namespace CardGateway.Text.Quoted

/-- The number of a character in lower-case hexadecimal digits, between braces. -/
def numbered (c : Char) : List Char :=
  ['\\', 'u', '\x7b'] ++ Nat.toDigits 16 c.toNat ++ ['\x7d']

/-- One character inside the quotes `mark`. -/
def escape (mark c : Char) : List Char :=
  if c == '\x00' then ['\\', '0']
  else if c == '\t' then ['\\', 't']
  else if c == '\r' then ['\\', 'r']
  else if c == '\n' then ['\\', 'n']
  else if c == '\\' || c == mark then ['\\', c]
  else if isAttached c || isHidden c then numbered c
  else [c]

def quote (text : String) : String :=
  String.ofList ('"' :: text.toList.flatMap (escape '"') ++ ['"'])

def quoteChar (c : Char) : String :=
  String.ofList ('\'' :: escape '\'' c ++ ['\''])

end CardGateway.Text.Quoted
