import CardGateway.Number.Shortest
import CardGateway.Text.Quoted

/-!
# What is wrong with a JSON text

One value of `Fault` names the first thing that keeps a text from being read as the value it should
hold. `message` words it.
-/

namespace CardGateway.Json

open CardGateway.Number CardGateway.Text

inductive Category where
  /-- The text is JSON, but not of the value asked for. -/
  | data
  /-- The text is not JSON. -/
  | grammar
  /-- The text ends too early. -/
  | ending
  deriving DecidableEq, Repr

/-- The thing that a text ends inside of. -/
inductive Place where
  | value
  /-- One of the words `null`, `true` and `false`. -/
  | word
  | list
  | record
  | text
  deriving DecidableEq, Repr

def Place.name : Place → String
  | .value | .word => "a value"
  | .list => "a list"
  | .record => "an object"
  | .text => "a string"

/-- A value found where another kind was expected. -/
inductive Found where
  | null
  | flag (b : Bool)
  | integer (n : Int)
  | float (negative : Bool) (magnitude : Binary64)
  | text (s : String)
  | list
  | record
  deriving DecidableEq, Repr

def Found.name : Found → String
  | .null => "null"
  | .flag b => s!"boolean `{b}`"
  | .integer n => s!"integer `{n}`"
  | .float negative x =>
      let sign := if negative then "-" else ""
      s!"floating point `{sign ++ (Decimal.shortest x).text}`"
  | .text s => s!"string {Quoted.quote s}"
  | .list => "sequence"
  | .record => "map"

inductive Fault where
  | ends (place : Place)
  | expectedValue
  | expectedIdent
  | expectedColon
  | expectedCommaOrBracket
  | expectedCommaOrBrace
  | trailingComma
  | trailingCharacters
  | keyNotText
  | number
  | numberRange
  | escape
  | control
  | loneSurrogate
  | escapeEnds
  | codePoint
  | missing (field : String)
  | duplicate (field : String)
  | variant (found : String) (names : List String)
  | wrongType (found : Found) (expected : String)
  | wrongValue (found : Found) (expected : String)
  | length (count : Nat) (expected : String)
  | content (message : String)
  deriving DecidableEq, Repr

namespace Fault

def category : Fault → Category
  | .ends _ => .ending
  | .missing _ | .duplicate _ | .variant _ _ | .wrongType _ _ | .wrongValue _ _ | .length _ _
  | .content _ => .data
  | _ => .grammar

def message : Fault → String
  | .ends place => s!"EOF while parsing {place.name}"
  | .expectedValue => "expected value"
  | .expectedIdent => "expected ident"
  | .expectedColon => "expected `:`"
  | .expectedCommaOrBracket => "expected `,` or `]`"
  | .expectedCommaOrBrace => "expected `,` or `\x7d`"
  | .trailingComma => "trailing comma"
  | .trailingCharacters => "trailing characters"
  | .keyNotText => "key must be a string"
  | .number => "invalid number"
  | .numberRange => "number out of range"
  | .escape => "invalid escape"
  | .control => "control character (\\u0000-\\u001F) found while parsing a string"
  | .loneSurrogate => "lone leading surrogate in hex escape"
  | .escapeEnds => "unexpected end of hex escape"
  | .codePoint => "invalid unicode code point"
  | .missing field => s!"missing field `{field}`"
  | .duplicate field => s!"duplicate field `{field}`"
  | .variant found names =>
      s!"unknown variant `{found}`, expected one of " ++
        String.intercalate ", " (names.map fun name => s!"`{name}`")
  | .wrongType found expected => s!"invalid type: {found.name}, expected {expected}"
  | .wrongValue found expected => s!"invalid value: {found.name}, expected {expected}"
  | .length count expected => s!"invalid length {count}, expected {expected}"
  | .content message => message

end Fault

end CardGateway.Json
