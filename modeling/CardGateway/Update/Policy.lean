import CardGateway.Text.Blank
import CardGateway.Url.Parse

/-!
# Download addresses

Which addresses of client downloads may be shown to the user: those of the secure web, and where the
list of hosts is enforced, only of hosts on it.
-/

namespace CardGateway

open CardGateway.Text

structure UpdatePolicy where
  enforced : Bool
  /-- Hosts, and domains behind `*.`, in lower case. -/
  allowed : List String
  deriving DecidableEq, Repr

namespace UpdatePolicy

inductive Fault where
  | malformed (fault : Url.Fault)
  | hostless
  | insecureScheme (scheme : String)
  | hostNotAllowed (host : String)
  deriving DecidableEq, Repr

def Fault.message : Fault → String
  | .malformed fault => s!"download address is not a valid URL: {fault.message}"
  | .hostless => "download address is not a valid URL: address has no host"
  | .insecureScheme scheme => s!"download address uses scheme {scheme}, expected https"
  | .hostNotAllowed host => s!"download host {host} is not allowed"

def lowered (s : String) : String := String.ofList (s.toList.map Char.toLower)

/-- Blank entries are dropped. -/
def ofEntries (enforced : Bool) (entries : List String) : UpdatePolicy :=
  ⟨enforced, (entries.map fun entry => lowered (trim entry)).filter fun entry => !entry.isEmpty⟩

/-- An entry for a domain admits the hosts below it, and not itself. -/
def admits (entry host : List Char) : Bool :=
  match entry with
  | '*' :: '.' :: domain =>
      let lead := host.take (host.length - domain.length)
      domain.isSuffixOf host && 1 < lead.length && lead.getLast? == some '.'
  | entry => entry == host

def admitsHost (policy : UpdatePolicy) (host : String) : Bool :=
  policy.allowed.any fun entry => admits entry.toList host.toList

def check [Url.HostMapping] (policy : UpdatePolicy) (address : String) : Except Fault Url := do
  let url ← match Url.parse (trim address) with
    | .ok url => pure url
    | .error fault => throw (.malformed fault)
  if url.scheme ≠ "https" then throw (.insecureScheme url.scheme)
  if policy.enforced then
    let some host := url.hostText | throw .hostless
    let host := lowered host
    if !policy.admitsHost host then throw (.hostNotAllowed host)
  return url

end UpdatePolicy

inductive Notice where
  /-- A newer client can be had; a mandatory one the server insists on. -/
  | update (url : Url) (mandatory : Bool)
  | error (message : String)
  deriving DecidableEq, Repr

namespace Notice

inductive Level where
  | info
  | warning
  deriving DecidableEq, Repr

def logLine : Notice → Level × String
  | .update url true =>
      (.warning, s!"A client update is required, download it from {url.text}")
  | .update url false => (.info, s!"A client update is available at {url.text}")
  | .error message => (.warning, message)

end Notice

end CardGateway
