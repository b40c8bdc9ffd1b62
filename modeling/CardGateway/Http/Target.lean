/-!
# Request targets

What stands between the method and the version in the first line of a request: a path with its query,
a whole address, or an authority alone. A target is checked before anything is sent, and written
without its fragment.
-/

namespace CardGateway.Http

structure Target where
  scheme : Option (List Char)
  authority : List Char
  path : List Char
  query : Option (List Char)
  deriving DecidableEq, Repr

namespace Target

def lengthLimit : Nat := 65534

def schemeLimit : Nat := 64

def isSchemeChar (c : Char) : Bool :=
  c.isAlphanum || "+-.~".toList.contains c

/-- Whether a character may stand in an authority, signs with a meaning there included. -/
def isAuthorityChar (c : Char) : Bool :=
  c.isAlphanum || "!$&'()*+,-.:;=@[]_~".toList.contains c

def isDelimiter (c : Char) : Bool :=
  c == '/' || c == '?' || c == '#'

/-- Quotation marks and braces pass, and so does all above ASCII. -/
def isPathChar (c : Char) : Bool :=
  0x21 ≤ c.toNat && !"#<>?`".toList.contains c

def isQueryChar (c : Char) : Bool :=
  0x21 ≤ c.toNat && !"\"#<>".toList.contains c

/-- What is known of an authority: the colons and percent signs since the last `@` or `]`, and the
brackets. -/
structure Scan where
  colons : Nat
  opened : Bool
  closed : Bool
  percent : Bool
  /-- The last character is `@`. -/
  afterAt : Bool

def Scan.start : Scan := ⟨0, false, false, false, false⟩

/-- The most colons in a row, those of an address in brackets. -/
def colonLimit : Nat := 8

def Scan.step (scan : Scan) (c : Char) : Option Scan :=
  match c with
  | ':' =>
      if scan.colons < colonLimit then some { scan with colons := scan.colons + 1, afterAt := false }
      else none
  | '[' =>
      if scan.percent || scan.opened then none else some { scan with opened := true, afterAt := false }
  | ']' =>
      if !scan.opened || scan.closed then none
      else some { scan with closed := true, colons := 0, percent := false, afterAt := false }
  | '@' => some { scan with colons := 0, percent := false, afterAt := true }
  | '%' => some { scan with percent := true, afterAt := false }
  | c => if isAuthorityChar c then some { scan with afterAt := false } else none

/-- A host has to follow user names, with one port at most and no percent sign. -/
def Scan.isComplete (scan : Scan) : Bool :=
  scan.opened == scan.closed && scan.colons ≤ 1 && !scan.afterAt && !scan.percent

/-- The authority at the beginning of a text, and what follows it. -/
def splitAuthority? (text : List Char) : Option (List Char × List Char) :=
  let authority := text.takeWhile fun c => !isDelimiter c
  match authority.foldlM Scan.step Scan.start with
  | some scan => if scan.isComplete then some (authority, text.drop authority.length) else none
  | none => none

def ofPath? (scheme : Option (List Char)) (authority text : List Char) : Option Target :=
  let text := text.takeWhile (· != '#')
  let path := text.takeWhile (· != '?')
  let query := match text.drop path.length with
    | _ :: query => some query
    | [] => none
  if path.all isPathChar && (query.getD []).all isQueryChar then
    some ⟨scheme, authority, path, query⟩
  else none

/-- The scheme in front of `://`, none if there is none. The two of the web are written small. -/
def splitScheme (text : List Char) : Option (List Char × List Char) :=
  let name := text.takeWhile isSchemeChar
  match text.drop name.length with
  | ':' :: '/' :: '/' :: rest =>
      let small := name.map Char.toLower
      some (if small = "http".toList || small = "https".toList then small else name, rest)
  | _ => none

def ofChars? (text : List Char) : Option Target :=
  match text with
  | [] => none
  | '/' :: _ => ofPath? none [] text
  | text =>
      match splitScheme text with
      | some (scheme, rest) =>
          if schemeLimit < scheme.length then none
          else match splitAuthority? rest with
            | some ([], _) | none => none
            | some (authority, rest) => ofPath? (some scheme) authority rest
      | none =>
          match splitAuthority? text with
          | some (authority, []) => some ⟨none, authority, [], none⟩
          | _ => none

def ofText? (text : String) : Option Target :=
  if lengthLimit < text.utf8ByteSize then none else ofChars? text.toList

/-- A whole address without a path is written with that of the root. -/
def chars (target : Target) : List Char :=
  let scheme := match target.scheme with
    | some scheme => scheme ++ "://".toList
    | none => []
  let path := if target.path.isEmpty && target.scheme.isSome then ['/'] else target.path
  let query := match target.query with
    | some query => '?' :: query
    | none => []
  scheme ++ target.authority ++ path ++ query

def text (target : Target) : String := String.ofList target.chars

end Target

end CardGateway.Http
