import CardGateway.Run.Setup
import CardGateway.Run.World
import CardGateway.Url.Domain

/-!
# Scripted worlds

The least that a run needs: a setup in which nothing has to be signed, and a world that gives the
answers it was handed one by one.
-/

namespace CardGateway

namespace World

/-- An answer to the hello that lets a session go on, as short as can be. -/
def accepting : Bytes := Text.Utf8.encode "\x7b\"Result\":\"OK\"\x7d"

/-- A world in which so many answers come, each at once, and then no more: a message waits until the
token fires, if it does, and a card does nothing. -/
def scripted (firing : Option Millis) : World (List Bytes) where
  fires _ := firing
  send now guarded _ _ answers :=
    if guarded && firing.any (· ≤ now) then .atOnce answers (.error .cancelled)
    else
      match answers with
      | answer :: rest => .atOnce rest (.ok answer)
      | [] => ⟨[], if guarded then firing.map fun t => (t - now, .error .cancelled, []) else none,
          fun _ => []⟩
  close _ answers := .atOnce answers true
  findTokens _ _ answers := .atOnce answers (.ok ⟨[], []⟩)
  listCertificates _ _ _ _ answers := .atOnce answers (.value [])
  sign _ _ _ _ _ answers := .atOnce answers (.value [])
  clearPins _ answers := answers
  disconnect _ _ answers := answers
  present _ _ answers := answers
  precedence _ _ := []

end World

/-- A session with the least that a setup may hold, in which nothing has to be signed. -/
def Setup.plain : Setup where
  session := ⟨"s", ⟨"https", "", some (.name "gateway.test"), none, true, "/", none, none⟩, none, none⟩
  config := { Config.standard with validateChallenge := false }
  trusted := none
  readFile _ := none
  challenge := ⟨List.replicate 32 0, rfl⟩

end CardGateway
