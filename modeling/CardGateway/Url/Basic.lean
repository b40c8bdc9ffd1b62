import CardGateway.Url.Address
import CardGateway.Url.Percent

/-!
# URLs

A URL as its parts, and its text. `withPairs` appends pairs of a form to the query.
-/

namespace CardGateway

inductive Url.Fault where
  | relative
  | emptyHost
  | port
  | ipv4
  | ipv6
  | internationalName
  | domainCharacter
  deriving DecidableEq, Repr

def Url.Fault.message : Url.Fault → String
  | .relative => "relative URL without a base"
  | .emptyHost => "empty host"
  | .port => "invalid port number"
  | .ipv4 => "invalid IPv4 address"
  | .ipv6 => "invalid IPv6 address"
  | .internationalName => "invalid international domain name"
  | .domainCharacter => "invalid domain character"

inductive Url.Host where
  | name (text : String)
  | ipv4 (address : Nat)
  | ipv6 (pieces : List Nat)
  deriving DecidableEq, Repr

def Url.Host.text : Url.Host → String
  | .name text => text
  | .ipv4 address => Url.Ipv4.text address
  | .ipv6 pieces => s!"[{Url.Ipv6.text pieces}]"

structure Url where
  scheme : String
  /-- User name and password with the separator, as they stand before the host. -/
  userinfo : String
  host : Option Url.Host
  /-- The port, unless it is the scheme's own. -/
  port : Option Nat
  /-- Whether two slashes follow the scheme. -/
  hasAuthority : Bool
  path : String
  query : Option String
  fragment : Option String
  deriving DecidableEq, Repr

namespace Url

def defaultPort (scheme : String) : Option Nat :=
  match scheme with
  | "http" | "ws" => some 80
  | "https" | "wss" => some 443
  | "ftp" => some 21
  | _ => none

def isSpecial (scheme : String) : Bool :=
  scheme == "file" || (defaultPort scheme).isSome

def hostText (url : Url) : Option String := url.host.map Host.text

/-- The port in use, as far as it is known. -/
def effectivePort (url : Url) : Option Nat :=
  url.port <|> defaultPort url.scheme

def authorityText (url : Url) : String :=
  let user := if url.userinfo.isEmpty then "" else url.userinfo ++ "@"
  let port := match url.port with
    | some n => s!":{n}"
    | none => ""
  user ++ url.hostText.getD "" ++ port

def base (url : Url) : String :=
  url.scheme ++ ":" ++ (if url.hasAuthority then "//" ++ url.authorityText else "") ++ url.path

def text (url : Url) : String :=
  let query := match url.query with
    | some q => "?" ++ q
    | none => ""
  let fragment := match url.fragment with
    | some f => "#" ++ f
    | none => ""
  url.base ++ query ++ fragment

/-- Letters, digits and four marks stand for themselves in a form, and a plus for a blank. -/
def formChar (c : Char) : List Char :=
  if c.isAlphanum || c == '*' || c == '-' || c == '.' || c == '_' then [c]
  else if c == ' ' then ['+']
  else (CardGateway.Text.Utf8.encodeChar c).flatMap Percent.encodeByte

def formText (s : String) : String := String.ofList (s.toList.flatMap formChar)

def pairText (pair : String × String) : String :=
  formText pair.1 ++ "=" ++ formText pair.2

/-- A query that is not empty is continued with an ampersand. -/
def extendQuery (query : Option String) (pairs : List (String × String)) : String :=
  pairs.foldl (fun q pair => if q.isEmpty then pairText pair else q ++ "&" ++ pairText pair)
    (query.getD "")

def withPairs (url : Url) (pairs : List (String × String)) : Url :=
  { url with query := some (extendQuery url.query pairs) }

end Url

end CardGateway
