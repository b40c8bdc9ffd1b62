import CardGateway.Url.Basic
import CardGateway.Url.HostMapping

/-!
# Reading URLs

Absolute URLs by the URL standard. Schemes of the web take backslashes for slashes and any number of
them before the host, and their hosts are names or addresses; other schemes have opaque hosts. Names
are read by a host mapping.
-/

namespace CardGateway.Url

open CardGateway.Text

abbrev Parsed := Except Fault

/-- Without controls and blanks at the ends, and without line breaks and tabs. -/
def cleaned (text : List Char) : List Char :=
  let isEdge (c : Char) : Bool := c.toNat ≤ 0x20
  let trimmed := ((text.dropWhile isEdge).reverse.dropWhile isEdge).reverse
  trimmed.filter fun c => c != '\t' && c != '\n' && c != '\r'

def isSchemeChar (c : Char) : Bool :=
  c.isAlphanum || c == '+' || c == '-' || c == '.'

/-- The scheme in lower case, and the text behind its colon. -/
def splitScheme (text : List Char) : Option (String × List Char) :=
  let scheme := text.takeWhile isSchemeChar
  match text.head?, text.dropWhile isSchemeChar with
  | some c, ':' :: rest =>
      if c.isAlpha then some (String.ofList (scheme.map Char.toLower), rest) else none
  | _, _ => none

def isSlash (special : Bool) (c : Char) : Bool := c == '/' || (special && c == '\\')

def endsAuthority (special : Bool) (c : Char) : Bool :=
  isSlash special c || c == '?' || c == '#'

/-- The text before the last at sign and the text behind it. -/
def splitUserinfo (authority : List Char) : Option (List Char × List Char) :=
  if authority.contains '@' then
    let host := (authority.reverse.takeWhile fun c => c != '@').reverse
    some (authority.take (authority.length - host.length - 1), host)
  else none

/-- The first colon ends the user name; one with nothing behind it is dropped. -/
def userinfoText (info : List Char) : List Char :=
  let user := info.takeWhile fun c => c != ':'
  match info.dropWhile fun c => c != ':' with
  | [] | [_] => Percent.encode Percent.userinfo user
  | _ :: password =>
      Percent.encode Percent.userinfo user ++ ':' :: Percent.encode Percent.userinfo password

/-- The host ends at a colon outside of brackets. -/
def splitHost : Bool → List Char → List Char × List Char
  | _, [] => ([], [])
  | inside, c :: rest =>
      if c == ':' && !inside then ([], c :: rest)
      else
        let inside := if c == '[' then true else if c == ']' then false else inside
        let (host, tail) := splitHost inside rest
        (c :: host, tail)

def bracketed (text : List Char) : Parsed Host :=
  match text.reverse with
  | ']' :: inner =>
      match Ipv6.parse? inner.reverse with
      | some pieces => .ok (.ipv6 pieces)
      | none => .error .ipv6
  | _ => .error .ipv6

variable [HostMapping]

def parseHost (text : List Char) : Parsed Host :=
  match text with
  | '[' :: rest => bracketed rest
  | _ =>
      match HostMapping.ascii? (Percent.decode (text.flatMap Utf8.encodeChar)) with
      | none => .error .internationalName
      | some [] => .error .emptyHost
      | some name =>
          if Ipv4.isDue name then
            match Ipv4.parse? name with
            | some address => .ok (.ipv4 address)
            | none => .error .ipv4
          else .ok (.name (String.ofList name))

def isForbiddenOpaque (c : Char) : Bool :=
  ['\x00', '\t', '\n', '\r', ' ', '#', '/', ':', '<', '>', '?', '@', '[', '\\', ']', '^',
    '|'].contains c

def parseOpaqueHost (text : List Char) : Parsed Host :=
  match text with
  | '[' :: rest => bracketed rest
  | _ =>
      if text.any isForbiddenOpaque then .error .domainCharacter
      else .ok (.name (String.ofList (Percent.encode Percent.controls text)))

/-- The digits behind the colon, up to the path; the scheme's own port is none. -/
def parsePort (scheme : String) : List Char → Parsed (Option Nat)
  | [] => .ok none
  | digits =>
      if digits.all Char.isDigit && numeral 10 digits ≤ 65535 then
        let port := numeral 10 digits
        .ok (if defaultPort scheme == some port then none else some port)
      else .error .port

def dots : List (List Char) :=
  [['.'], ['%', '2', 'e'], ['%', '2', 'E']]

def isDot (segment : List Char) : Bool := dots.contains segment

def isDoubleDot (segment : List Char) : Bool :=
  dots.any fun a => dots.any fun b => segment == a ++ b

/-- A letter and a colon or bar name a drive, which is never left. -/
def isDrive (segment : List Char) : Bool :=
  match segment with
  | [letter, mark] => letter.isAlpha && (mark == ':' || mark == '|')
  | _ => false

def leave : List (List Char) → List (List Char)
  | [] => []
  | last :: before => if isDrive last then last :: before else before

/-- Walks the segments, those behind in reverse; the last one stands in front of no slash. -/
def walk (behind : List (List Char)) : List (List Char) → List (List Char)
  | [] => behind.reverse
  | [last] =>
      if isDoubleDot last then ([] :: leave behind).reverse
      else if isDot last then ([] :: behind).reverse
      else (last :: behind).reverse
  | segment :: rest =>
      if isDoubleDot segment then walk (leave behind) rest
      else if isDot segment then walk behind rest
      else walk (segment :: behind) rest

def segmentsOf (special : Bool) (text : List Char) : List (List Char) :=
  splitOn '/' (if special then text.map fun c => if c == '\\' then '/' else c else text)

def pathText (segments : List (List Char)) : List Char :=
  segments.flatMap fun segment => '/' :: segment

/-- The path from behind its first slash. -/
def rootedPath (special : Bool) (text : List Char) : List (List Char) :=
  walk [] ((segmentsOf special text).map (Percent.encode Percent.path))

/-- The path with the query and fragment that follow it. -/
structure Tail where
  path : List Char
  query : Option (List Char)
  fragment : Option (List Char)

def splitTail (text : List Char) : Tail :=
  let before := text.takeWhile fun c => c != '#'
  let fragment := match text.dropWhile fun c => c != '#' with
    | [] => none
    | _ :: rest => some rest
  let query := match before.dropWhile fun c => c != '?' with
    | [] => none
    | _ :: rest => some rest
  ⟨before.takeWhile fun c => c != '?', query, fragment⟩

def withTail (url : Url) (special : Bool) (tail : Tail) : Url :=
  let set := if special then Percent.specialQuery else Percent.query
  { url with
    query := tail.query.map fun q => String.ofList (Percent.encode set q)
    fragment := tail.fragment.map fun f => String.ofList (Percent.encode Percent.fragment f) }

def bare (scheme : String) : Url := ⟨scheme, "", none, none, false, "", none, none⟩

/-- The path behind an authority. A web URL has one even if none is written. -/
def pathBehindHost (special : Bool) (text : List Char) : String :=
  String.ofList <| match text with
    | [] => if special then ['/'] else []
    | c :: rest =>
        pathText (rootedPath special (if isSlash special c then rest else c :: rest))

/-- The text behind the slashes, other than of a file. -/
def parseAuthority (scheme : String) (text : List Char) : Parsed Url := do
  let special := isSpecial scheme
  let authority := text.takeWhile fun c => !endsAuthority special c
  let rest := text.dropWhile fun c => !endsAuthority special c
  let (info, hostPort) := (splitUserinfo authority).getD ([], authority)
  if (splitUserinfo authority).isSome && info.isEmpty && hostPort.isEmpty && !rest.isEmpty then
    throw .emptyHost
  let (hostChars, portChars) := splitHost false hostPort
  if special && hostChars.isEmpty then throw .emptyHost
  let host ← if special then parseHost hostChars else parseOpaqueHost hostChars
  if host == .name "" && !portChars.isEmpty then throw .emptyHost
  let (digits, stray) := match portChars.drop 1 with
    | chars => (chars.takeWhile fun c => c != '\\', chars.dropWhile fun c => c != '\\')
  let port ← parsePort scheme digits
  let info := userinfoText info
  if host == .name "" && !info.isEmpty then throw .emptyHost
  let tail := splitTail (stray ++ rest)
  let url := { bare scheme with
    userinfo := String.ofList info
    host := if host == .name "" then none else some host
    port := port
    hasAuthority := true
    path := pathBehindHost special tail.path }
  return withTail url special tail

/-- The host of a file, none for this machine, and the text behind it. -/
def parseFileHost (text : List Char) : Parsed (Option Host × List Char) := do
  let host := text.takeWhile fun c => !endsAuthority true c
  let rest := text.dropWhile fun c => !endsAuthority true c
  if isDrive host then return (none, text)
  if host.isEmpty then return (none, rest)
  let host ← parseHost host
  return (if host == .name "localhost" then none else some host, rest)

/-- A drive is written with a colon. -/
def markDrive : List (List Char) → List (List Char)
  | [letter, '|'] :: rest => if letter.isAlpha then [letter, ':'] :: rest else [letter, '|'] :: rest
  | segments => segments

/-- Slashes at the start of a path are taken for one, and a path from a drive has no host. -/
def parseFile (text : List Char) : Parsed Url := do
  let (host, rest) ← match text with
    | a :: b :: rest =>
        if isSlash true a && isSlash true b then parseFileHost rest else pure (none, text)
    | _ => pure (none, text)
  let tail := splitTail rest
  let segments := rootedPath true (match tail.path with
    | c :: path => if isSlash true c then path else c :: path
    | [] => [])
  let stripped := match (markDrive segments).dropWhile List.isEmpty with
    | [] => [[]]
    | rest => rest
  let onDrive := match segments with
    | first :: _ => isDrive first
    | [] => false
  let url := { bare "file" with
    host := if onDrive then none else host
    hasAuthority := true
    path := String.ofList (pathText stripped) }
  return withTail url true tail

/-- A scheme of its own without an authority. -/
def parseLocal (scheme : String) (text : List Char) : Url :=
  let tail := splitTail text
  let path := match tail.path with
    | '/' :: rest =>
        let path := pathText (rootedPath false rest)
        if path.take 2 == ['/', '/'] then '/' :: '.' :: path else path
    | chars => Percent.encode Percent.controls chars
  withTail { bare scheme with path := String.ofList path } false tail

def parse (text : String) : Parsed Url :=
  match splitScheme (cleaned text.toList) with
  | none => .error .relative
  | some (scheme, rest) =>
      if scheme == "file" then parseFile rest
      else if isSpecial scheme then parseAuthority scheme (rest.dropWhile (isSlash true))
      else match rest with
        | '/' :: '/' :: rest => parseAuthority scheme rest
        | rest => .ok (parseLocal scheme rest)

end CardGateway.Url
