import CardGateway.Crypto.Sha2

/-!
# Keyed authentication codes

A code over a message with a key, from a hash function.
-/

namespace CardGateway.Crypto

namespace HashFunction

/-- The key filled up to a block; a longer one is hashed first. -/
def blockKey (hash : HashFunction) (key : Bytes) : Bytes :=
  let key := if key.length > hash.blockBytes then hash.digest key else key
  key ++ List.replicate (hash.blockBytes - key.length) 0

def hmac (hash : HashFunction) (key message : Bytes) : Bytes :=
  let key := hash.blockKey key
  hash.digest (key.map (· ^^^ 0x5C) ++ hash.digest (key.map (· ^^^ 0x36) ++ message))

end HashFunction

end CardGateway.Crypto
