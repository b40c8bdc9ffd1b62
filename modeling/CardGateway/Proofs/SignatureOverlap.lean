import CardGateway.Proofs.Acceptance

/-!
# Signatures whose two forms are judged differently

The fixed form of a signature may happen to be the distinguished encoding of another one, and is then
read as that. All other signatures are judged by their numbers alone, whichever form they come in.
-/

namespace CardGateway

open CardGateway.Crypto CardGateway.Crypto.Secp256k1

namespace Crypto.Ecdsa.Signature

variable {signature second : Signature}

/-- A fixed form that is a distinguished encoding begins as a sequence of 62 bytes does, with the mark
of a number behind it. -/
theorem lead_of_toFixed_eq_toDer (ranged : signature.InRange)
    (same : signature.toFixed = second.toDer) : signature.r / 256 ^ 29 = 0x303E02 := by
  let content := Der.natural second.r ++ Der.natural second.s
  have size : content.length = 62 := by
    have lengths := congrArg List.length same
    simp only [toFixed, List.length_append, bytesOfNat_length] at lengths
    exact (Nat.succ.inj (Nat.succ.inj lengths)).symm
  have encoded : second.toDer = 0x30 :: 0x3E :: content := by
    rw [show (0x3E : UInt8) = content.length.toUInt8 by rw [size]; rfl]
    rfl
  have lists := same.trans encoded
  simp only [toFixed, bytesOfNat, List.cons_append, content, Der.natural_eq, List.cons.injEq] at lists
  obtain ⟨first, second, third, -⟩ := lists
  have written : bytesOfNat 32 signature.r = [0x30, 0x3E, 0x02] ++ bytesOfNat 29 signature.r := by
    simp only [bytesOfNat, first, second, third, List.cons_append, List.nil_append]
  have lead := natOfBytes_append_div [0x30, 0x3E, 0x02] (bytesOfNat 29 signature.r)
  rw [← written, bytesOfNat_length, natOfBytes_bytesOfNat,
    Nat.mod_eq_of_lt (lt_of_isScalar ranged.1)] at lead
  exact lead

end Crypto.Ecdsa.Signature

open Ecdsa Signature

namespace TrustStore

variable {store : TrustStore} {challenge : Challenge} {signature : Signature}

/-- A fixed form that is no distinguished encoding is judged by its numbers. -/
theorem accepts_toFixed (ranged : signature.InRange)
    (apart : ∀ second : Signature, second.InRange → signature.toFixed ≠ second.toDer) :
    store.accepts challenge signature.toFixed =
      store.keys.any fun key => verify key challenge.bytes signature.lowered :=
  accepts_spelled (.fixed ranged apart)

/-- The two forms of a signature are judged alike, unless the fixed form is the distinguished encoding
of a second signature. It is then judged as that one, which needs a first number that begins with the
bytes `30 3E 02`. -/
theorem forms_judged_by_numbers (store : TrustStore) (challenge : Challenge) (signature : Signature)
    (ranged : signature.InRange) :
    ((∀ second : Signature, second.InRange → signature.toFixed ≠ second.toDer) →
      store.accepts challenge signature.toFixed = store.accepts challenge signature.toDer ∧
      ∀ key ∈ store.keys,
        verify key challenge.bytes ⟨signature.r, min signature.s (order - signature.s)⟩ = true →
        store.accepts challenge signature.toFixed = true) ∧
    (∀ second : Signature, second.InRange → signature.toFixed = second.toDer →
      store.accepts challenge signature.toFixed =
        store.keys.any fun key => verify key challenge.bytes second.lowered) ∧
    (signature.r / 256 ^ 29 ≠ 0x303E02 →
      ∀ second : Signature, second.InRange → signature.toFixed ≠ second.toDer) := by
  refine ⟨fun apart => ⟨?_, ?_⟩, ?_, ?_⟩
  · rw [accepts_toFixed ranged apart, accepts_spelled (.distinguished ranged)]
  · intro key member verified
    rw [accepts_toFixed ranged apart, List.any_eq_true]
    exact ⟨key, member, verified⟩
  · intro second rangedSecond same
    rw [same, accepts_spelled (.distinguished rangedSecond)]
  · intro lead second _ same
    exact lead (lead_of_toFixed_eq_toDer ranged same)

/-- A signature of zeros by the private key 1, which begins with other bytes. -/
theorem fixed_high_signature_believed :
    let store : TrustStore := ⟨[generatorKey], nofun⟩
    let challenge : Challenge := ⟨List.replicate 32 0, rfl⟩
    highSignature.InRange ∧ highSignature.r / 256 ^ 29 ≠ 0x303E02 ∧
      store.accepts challenge highSignature.toFixed = true ∧
      store.accepts challenge highSignature.toDer = true := by
  intro store challenge
  have ranged : highSignature.InRange := ⟨by decide +kernel, by decide +kernel⟩
  have lead : highSignature.r / 256 ^ 29 ≠ 0x303E02 := by decide +kernel
  obtain ⟨alike, -, apart⟩ := forms_judged_by_numbers store challenge highSignature ranged
  obtain ⟨same, trusted⟩ := alike (apart lead)
  have believed := trusted generatorKey (List.mem_singleton_self _) (by decide +kernel)
  exact ⟨ranged, lead, believed, same ▸ believed⟩

/-- A signature whose fixed form is the distinguished encoding of another one. -/
def mistakenSignature : Signature :=
  ⟨0x303e021d01000000000000000000000000000000000000000000000000000001,
    0x02021d0100000000000000000000000000000000000000000000000000000003⟩

def mistakenKey : PublicKey where
  point :=
    ⟨0x0a081e952b6a1d97b208323d247252875bf919ff8e4c29962ebae56da9a271ffb,
      0x1e79f2f71c9534d1a606af0313736e33c658973c8ac92d48014dce0f97b8b565⟩
  onCurve := by decide +kernel

/-- A signature that a trusted key verifies is accepted in one form and refused in the other. -/
theorem mistaken_signature_refused :
    let store : TrustStore := ⟨[mistakenKey], nofun⟩
    let challenge : Challenge := ⟨List.replicate 32 0, rfl⟩
    mistakenSignature.InRange ∧
      verify mistakenKey challenge.bytes mistakenSignature = true ∧
      store.accepts challenge mistakenSignature.toDer = true ∧
      store.accepts challenge mistakenSignature.toFixed = false := by
  intro store challenge
  refine ⟨⟨?_, ?_⟩, ?_, ?_, ?_⟩
  · decide +kernel
  · decide +kernel
  · decide +kernel
  · decide +kernel
  · decide +kernel

end TrustStore

end CardGateway
