import CardGateway.Json.Text

/-!
# JSON values and their compact text

What the program writes. Members keep their order, and nothing is written between the parts.
-/

namespace CardGateway.Json

inductive Value where
  | null
  | flag (b : Bool)
  | natural (n : Nat)
  | text (s : String)
  | list (items : List Value)
  | record (members : List (String × Value))

namespace Value

mutual

def render : Value → List Char
  | .null => ['n', 'u', 'l', 'l']
  | .flag true => ['t', 'r', 'u', 'e']
  | .flag false => ['f', 'a', 'l', 's', 'e']
  | .natural n => Nat.toDigits 10 n
  | .text s => writeText s
  | .list [] => ['[', ']']
  | .list (first :: rest) => '[' :: (first.render ++ renderItems rest)
  | .record [] => ['\x7b', '\x7d']
  | .record ((name, value) :: rest) =>
      '\x7b' :: (writeText name ++ ':' :: (value.render ++ renderMembers rest))

/-- Items behind the first, and the closing bracket. -/
def renderItems : List Value → List Char
  | [] => [']']
  | item :: rest => ',' :: (item.render ++ renderItems rest)

/-- Members behind the first, and the closing brace. -/
def renderMembers : List (String × Value) → List Char
  | [] => ['\x7d']
  | (name, value) :: rest =>
      ',' :: (writeText name ++ ':' :: (value.render ++ renderMembers rest))

end

def toText (value : Value) : String := String.ofList value.render

def toBytes (value : Value) : Bytes := CardGateway.Text.Utf8.encode value.toText

end Value

end CardGateway.Json
