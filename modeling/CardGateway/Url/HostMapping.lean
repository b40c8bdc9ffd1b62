import CardGateway.Text.Utf8

/-!
# Host names in ASCII

Hosts of web URLs are looked up under ASCII names. Which name stands for a text with characters past
ASCII is laid down in the standard for internationalized domain names, whose tables change with every
version of Unicode. What is said of URLs here holds for any such mapping.
-/

namespace CardGateway.Url

/-- Characters that no host name of a URL holds. -/
def isForbidden (c : Char) : Bool :=
  c.toNat ≤ 0x20 || c.toNat == 0x7F ||
    ['%', '#', '/', ':', '<', '>', '?', '@', '[', '\\', ']', '^', '|'].contains c

/-- The step of the URL standard from a domain to ASCII. -/
class HostMapping where
  /-- The ASCII name for a domain given as bytes, none for bytes that are no domain. -/
  ascii? : Bytes → Option (List Char)
  /-- The standard fails where the name holds a forbidden character. -/
  allowed : ∀ {domain name}, ascii? domain = some name → ∀ c ∈ name, isForbidden c = false

end CardGateway.Url
