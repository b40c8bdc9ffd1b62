import CardGateway.Config.Setting
import CardGateway.Toml.Document
import CardGateway.Text.Utf8

/-!
# Configuration

Five settings, each taken from the environment if it is given there, else from the file if it is given
there, else as it is by default. A value of the wrong type counts only where it is taken.
-/

namespace CardGateway

open CardGateway.Text

structure Config where
  /-- The server has to sign the challenge. -/
  validateChallenge : Bool
  /-- PINs sent by the server are used. -/
  remotePinAllowed : Bool
  /-- Download addresses are shown only if their host is allowed. -/
  enforceAllowlist : Bool
  /-- Hosts, and domains behind `*.`. -/
  allowlist : List String
  /-- The file that holds the trust store, unless it is the bundled one. -/
  trustStore : Option String
  deriving DecidableEq, Repr

namespace Config

def standard : Config where
  validateChallenge := true
  remotePinAllowed := true
  enforceAllowlist := true
  allowlist := ["openecard.org", "*.openecard.org"]
  trustStore := none

/-- The file that is read unless another is named. -/
def fileName : String := "chipgateway.toml"

inductive Issue where
  /-- The file is not TOML. -/
  | document
  | wrongType (path : List String) (found expected : String)
  deriving DecidableEq, Repr

namespace Issue

def kind : Issue → String
  | .document => "Message"
  | .wrongType _ _ _ => "InvalidType"

def path : Issue → String
  | .document => ""
  | .wrongType path _ _ => String.intercalate "." path

def detail : Issue → Option String
  | .document => none
  | .wrongType _ found expected => some s!"{found}, expected {expected}"

end Issue

/-- The settings that a source gives, the last of one name being in force. -/
abbrev Layer := List (String × Setting)

def Layer.find? (layer : Layer) (key : String) : Option Setting :=
  (layer.reverse.find? fun entry => entry.1 = key).map (·.2)

def ofEntries (entries : Toml.Entries) : Layer :=
  entries.map fun (key, value) => (key, Setting.ofToml value)

/-- What variables start with, in any letter case. -/
def variableStart : List Char := "CHIPGATEWAY_".toList

/-- The setting of a variable. Behind the start stands its name in any letter case; a point opens a
record below it. -/
def ofVariable? (name value : String) : Option (String × Setting) :=
  let chars := name.toList
  if (chars.take variableStart.length).map Char.toUpper = variableStart then
    let key := trimChars (chars.drop variableStart.length)
    match (splitOn '.' key).map fun part => String.ofList (part.map Char.toLower) with
    | [key] => if key.isEmpty then none else some (key, Setting.ofText value)
    | key :: rest =>
        if (key :: rest).any String.isEmpty then none else some (key, .record)
    | [] => none
  else none

def ofEnvironment (settings : List (String × String)) : Layer :=
  settings.filterMap fun (name, value) => ofVariable? name value

/-- The value of a setting in the highest of two layers that gives it. -/
def setting? (file environment : Layer) (key : String) : Option Setting :=
  (environment.find? key) <|> (file.find? key)

def readFlag (key : String) : Setting → Except Issue Bool
  | .flag b => .ok b
  | value => .error (.wrongType [key] value.name "a boolean")

def readPath (key : String) : Setting → Except Issue (Option String)
  | .text s => .ok (some s)
  | value => .error (.wrongType [key] value.name "path string")

def readTexts (key : String) : Nat → List Setting → Except Issue (List String)
  | _, [] => .ok []
  | index, .text s :: rest => do return s :: (← readTexts key (index + 1) rest)
  | index, value :: _ => .error (.wrongType [key, toString index] value.name "a string")

def readList (key : String) : Setting → Except Issue (List String)
  | .list items => readTexts key 0 items
  | value => .error (.wrongType [key] value.name "a sequence")

/-- The default stands in for a setting that is not given. -/
def take {α : Type} (layers : String → Option Setting) (key : String)
    (read : String → Setting → Except Issue α) (default : α) : Except Issue α :=
  match layers key with
  | some value => read key value
  | none => .ok default

/-- Settings are read in the order of their names, up to the first of the wrong type. -/
def ofLayers (layers : String → Option Setting) : Except Issue Config := do
  let enforce ← take layers "enforce_update_allowlist" readFlag standard.enforceAllowlist
  let remote ← take layers "remote_pin_allowed" readFlag standard.remotePinAllowed
  let store ← take layers "trust_store" readPath standard.trustStore
  let allowlist ← take layers "update_allowlist" readList standard.allowlist
  let validate ← take layers "validate_challenge_response" readFlag standard.validateChallenge
  return ⟨validate, remote, enforce, allowlist, store⟩

/-- From the content of a file, if there is one, and the variables of the environment. -/
def load (file : Option Bytes) (environment : List (String × String)) :
    Except Issue Config := do
  let fileLayer ← match file with
    | none => pure []
    | some content =>
        match (Utf8.decode? content).bind Toml.parse? with
        | some entries => pure (ofEntries entries)
        | none => throw .document
  ofLayers (setting? fileLayer (ofEnvironment environment))

end Config

end CardGateway
