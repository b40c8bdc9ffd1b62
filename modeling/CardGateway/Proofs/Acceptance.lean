import CardGateway.Proofs.SignatureForms
import CardGateway.Trust.Store

/-!
# What a trust store believes

A signature is believed where one of the store's keys made it. So a store is as good as the set of
its keys, and two signatures with one first number and complementary second ones are as good as each
other.
-/

namespace CardGateway

open CardGateway.Crypto CardGateway.Crypto.Secp256k1

namespace Crypto.Ecdsa.Signature

theorem lowered_complement {r s : Nat} (ranged : InRange ⟨r, s⟩) :
    lowered ⟨r, order - s⟩ = lowered ⟨r, s⟩ := by
  obtain ⟨-, scalar⟩ := ranged
  simp only [isScalar, Bool.and_eq_true, decide_eq_true_eq] at scalar
  simp only [lowered, Nat.sub_sub_self (Nat.le_of_lt scalar.2), Nat.min_comm]

theorem InRange.complement {r s : Nat} (ranged : InRange ⟨r, s⟩) : InRange ⟨r, order - s⟩ := by
  obtain ⟨first, scalar⟩ := ranged
  refine ⟨first, ?_⟩
  simp only [isScalar, Bool.and_eq_true, decide_eq_true_eq] at scalar ⊢
  omega

/-- Bytes stand for one signature at most. -/
theorem Spelled.unique {bytes : Bytes} {first second : Signature} (one : Spelled bytes first)
    (other : Spelled bytes second) : first = second := by
  rw [← ofBytes?_eq_some_iff] at one other
  exact Option.some.inj (one.symm.trans other)

theorem not_spelled_nil (signature : Signature) : ¬ Spelled [] signature := by
  rw [← ofBytes?_eq_some_iff]
  exact nofun

end Crypto.Ecdsa.Signature

open Ecdsa Signature

namespace TrustStore

variable {store other : TrustStore} {challenge : Challenge} {bytes : Bytes}

theorem accepts_eq_true_iff : store.accepts challenge bytes = true ↔
    ∃ signature, Spelled bytes signature ∧
      ∃ key ∈ store.keys, verify key challenge.bytes signature.lowered = true := by
  rw [accepts]
  split
  · next signature read =>
      have spelled := ofBytes?_eq_some_iff.mp read
      rw [List.any_eq_true]
      constructor
      · intro verified
        exact ⟨signature, spelled, verified⟩
      · rintro ⟨second, same, verified⟩
        obtain rfl := spelled.unique same
        exact verified
  · next unread =>
      refine iff_of_false (by rintro ⟨⟩) ?_
      rintro ⟨signature, spelled, -⟩
      rw [ofBytes?_eq_some_iff.mpr spelled] at unread
      cases unread

theorem accepts_spelled {signature : Signature} (spelled : Spelled bytes signature) :
    store.accepts challenge bytes =
      store.keys.any fun key => verify key challenge.bytes signature.lowered := by
  rw [accepts, ofBytes?_eq_some_iff.mpr spelled]

theorem accepts_mono (more : ∀ key ∈ store.keys, key ∈ other.keys)
    (accepted : store.accepts challenge bytes = true) :
    other.accepts challenge bytes = true := by
  rw [accepts_eq_true_iff] at accepted ⊢
  obtain ⟨signature, spelled, key, member, verified⟩ := accepted
  exact ⟨signature, spelled, key, more key member, verified⟩

theorem accepts_congr (same : ∀ key, key ∈ store.keys ↔ key ∈ other.keys) :
    store.accepts challenge bytes = other.accepts challenge bytes :=
  Bool.eq_iff_iff.mpr
    ⟨accepts_mono fun key => (same key).mp, accepts_mono fun key => (same key).mpr⟩

theorem exists_ofKeys_append (store other : TrustStore) :
    ∃ both, ofKeys (store.keys ++ other.keys) = .ok both ∧
      both.keys = store.keys ++ other.keys := by
  have filled : store.keys ++ other.keys ≠ [] := by
    intro empty
    exact store.nonempty (List.append_eq_nil_iff.mp empty).1
  exact ⟨⟨_, filled⟩, dif_neg filled, rfl⟩

theorem accepts_append {both : TrustStore} (keys : both.keys = store.keys ++ other.keys) :
    both.accepts challenge bytes =
      (store.accepts challenge bytes || other.accepts challenge bytes) := by
  rw [Bool.eq_iff_iff, Bool.or_eq_true]
  simp only [accepts_eq_true_iff, keys, List.mem_append, or_and_right, exists_or, and_or_left]

theorem accepts_complement {r s : Nat} (ranged : InRange ⟨r, s⟩) :
    store.accepts challenge (toDer ⟨r, order - s⟩) = store.accepts challenge (toDer ⟨r, s⟩) := by
  rw [accepts_spelled (.distinguished ranged.complement), accepts_spelled (.distinguished ranged),
    lowered_complement ranged]

theorem accepts_eq_false (unread : ∀ signature, ¬ Spelled bytes signature) :
    store.accepts challenge bytes = false := by
  rw [Bool.eq_false_iff, ne_eq, accepts_eq_true_iff]
  rintro ⟨signature, spelled, -⟩
  exact unread signature spelled

/-- A store accepts what stands for a signature that, with the lower of its two second numbers, one
of the keys verifies. -/
theorem accepts_what_a_key_verifies (store other : TrustStore) (challenge : Challenge) :
    (∀ bytes, store.accepts challenge bytes = true ↔
      ∃ signature, Spelled bytes signature ∧ ∃ key ∈ store.keys,
        verify key challenge.bytes ⟨signature.r, min signature.s (order - signature.s)⟩ = true) ∧
    ((∀ key, key ∈ store.keys ↔ key ∈ other.keys) →
      ∀ bytes, store.accepts challenge bytes = other.accepts challenge bytes) ∧
    ((∀ key ∈ store.keys, key ∈ other.keys) → ∀ bytes,
      store.accepts challenge bytes = true → other.accepts challenge bytes = true) ∧
    (∃ both, ofKeys (store.keys ++ other.keys) = .ok both ∧ ∀ bytes,
      both.accepts challenge bytes =
        (store.accepts challenge bytes || other.accepts challenge bytes)) ∧
    (∀ r s, InRange ⟨r, s⟩ →
      store.accepts challenge (toDer ⟨r, order - s⟩) =
        store.accepts challenge (toDer ⟨r, s⟩)) ∧
    (∀ bytes, (∀ signature, ¬ Spelled bytes signature) →
      store.accepts challenge bytes = false) ∧
    store.accepts challenge [] = false := by
  obtain ⟨both, made, keys⟩ := exists_ofKeys_append store other
  refine ⟨fun bytes => accepts_eq_true_iff, fun same bytes => accepts_congr same,
    fun more bytes => accepts_mono more, ⟨both, made, fun bytes => accepts_append keys⟩,
    fun r s ranged => accepts_complement ranged, fun bytes unread => accepts_eq_false unread,
    accepts_eq_false not_spelled_nil⟩

def highSignature : Signature :=
  ⟨0x79be667ef9dcbbac55a06295ce870b07029bfcdb2dce28d959f2815b16f81798,
    0xe026e12cf23f7923c23024215d2699270b3311609cb05c8cea1cda78245740bd⟩

def generatorKey : PublicKey := ⟨generator, by decide +kernel⟩

theorem high_signature_believed :
    let store : TrustStore := ⟨[generatorKey], nofun⟩
    let larger : TrustStore := ⟨[generatorKey, generatorKey], nofun⟩
    let challenge : Challenge := ⟨List.replicate 32 0, rfl⟩
    store.accepts challenge highSignature.toDer = true ∧
      larger.accepts challenge highSignature.toDer = true ∧
      store.accepts challenge (toDer ⟨highSignature.r, order - highSignature.s⟩) = true ∧
      store.accepts challenge [0x30, 0x00] = false := by
  intro store larger challenge
  obtain ⟨accepts_iff, same, more, -, complement, unread, -⟩ :=
    accepts_what_a_key_verifies store larger challenge
  have ranged : InRange highSignature := ⟨by decide +kernel, by decide +kernel⟩
  have verified : verify generatorKey challenge.bytes
      ⟨highSignature.r, min highSignature.s (order - highSignature.s)⟩ = true := by
    decide +kernel
  have believed : store.accepts challenge highSignature.toDer = true :=
    (accepts_iff _).mpr
      ⟨highSignature, .distinguished ranged, generatorKey, List.mem_singleton_self _, verified⟩
  refine ⟨believed, more ?_ _ believed, (complement _ _ ranged).trans believed, unread _ ?_⟩
  · intro key member
    exact List.mem_cons_of_mem _ member
  · intro signature
    rw [← ofBytes?_eq_some_iff]
    exact nofun

end TrustStore

end CardGateway
