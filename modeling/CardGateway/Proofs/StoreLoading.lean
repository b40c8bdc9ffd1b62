import CardGateway.Proofs.EncodedPoints
import CardGateway.Proofs.Hex
import CardGateway.Proofs.ItemByItem
import CardGateway.Trust.Store

/-!
# Stores load as a whole

A document gives a store exactly if it describes anchors and each of them holds a key. Otherwise the
first anchor that holds none tells why there is no store.
-/

namespace CardGateway

open CardGateway.Crypto CardGateway.Text

namespace TrustAnchor

variable {value : Toml.Value} {entries : Toml.Entries} {anchor : TrustAnchor}
  {anchors : List TrustAnchor} {key : Ecdsa.PublicKey} {fault : TrustStore.Fault}

/-- The values that describe an anchor: tables with its fields as texts, and lists that begin with
them. -/
inductive Written : Toml.Value → TrustAnchor → Prop where
  | table {origin : Toml.Origin} {entries : Toml.Entries} {anchor : TrustAnchor}
      (name : entries.find? "name" = some (.text anchor.name))
      (algorithm : entries.find? "algorithm" = some (.text anchor.algorithm))
      (publicKey : entries.find? "public_key" = some (.text anchor.publicKey)) :
      Written (.table origin entries) anchor
  | list {anchor : TrustAnchor} {rest : List Toml.Value} :
      Written (.list (.text anchor.name :: .text anchor.algorithm :: .text anchor.publicKey :: rest))
        anchor

/-- The entries that describe some anchors, under headers or in a list. -/
inductive Listed (entries : Toml.Entries) (anchors : List TrustAnchor) : Prop where
  | absent (missing : entries.find? "anchor" = none) (empty : anchors = [])
  | list {items : List Toml.Value} (found : entries.find? "anchor" = some (.list items))
      (written : List.Forall₂ Written items anchors)
  | tables {items : List Toml.Entries} (found : entries.find? "anchor" = some (.tables items))
      (written : List.Forall₂ (fun item => Written (.table .header item)) items anchors)

/-- The anchor is of the known algorithm, and its text without the blanks around it is digits of bytes
that the key's point is written as. -/
structure Holds (anchor : TrustAnchor) (key : Ecdsa.PublicKey) : Prop where
  algorithm : anchor.algorithm = algorithmName
  publicKey : ∃ bytes, (trim anchor.publicKey).toUpper = Hex.encodeUpper bytes ∧
    Ecdsa.PublicKey.Encodes key.point bytes

/-- Why an anchor holds no key. The algorithm is judged before the digits, and these before the
point. -/
inductive Offends (anchor : TrustAnchor) : TrustStore.Fault → Prop where
  | algorithm (other : anchor.algorithm ≠ algorithmName) :
      Offends anchor (.algorithm anchor.name anchor.algorithm)
  | digits {fault : Hex.Fault} (known : anchor.algorithm = algorithmName)
      (misspelled : Hex.Misspelled (Utf8.encode (trim anchor.publicKey)) fault) :
      Offends anchor (.key anchor.name (.digits fault))
  | point {bytes : Bytes} (known : anchor.algorithm = algorithmName)
      (spelled : (trim anchor.publicKey).toUpper = Hex.encodeUpper bytes)
      (off : ∀ key : Ecdsa.PublicKey, ¬ Ecdsa.PublicKey.Encodes key.point bytes) :
      Offends anchor (.key anchor.name .point)

theorem ofValue?_eq_some_iff : ofValue? value = some anchor ↔ Written value anchor := by
  constructor
  · intro read
    unfold ofValue? at read
    split at read
    · split at read
      · next name algorithm publicKey =>
          obtain rfl := Option.some.inj read
          exact .table name algorithm publicKey
      · cases read
    · obtain rfl := Option.some.inj read
      exact @Written.list ⟨_, _, _⟩ _
    · cases read
  · intro written
    cases written with
    | table name algorithm publicKey => simp [ofValue?, name, algorithm, publicKey]
    | list => rfl

theorem ofEntries?_eq_some_iff : ofEntries? entries = some anchors ↔ Listed entries anchors := by
  constructor
  · intro read
    unfold ofEntries? at read
    split at read
    · next missing =>
        exact .absent missing (Option.some.inj read).symm
    · next found =>
        exact .list found (by simpa only [mapM_eq_some_iff, ofValue?_eq_some_iff] using read)
    · next found =>
        exact .tables found (by simpa only [mapM_eq_some_iff, ofValue?_eq_some_iff] using read)
    · cases read
  · intro listed
    cases listed with
    | absent missing empty => simp [ofEntries?, missing, empty]
    | list found written =>
        simpa only [ofEntries?, found, mapM_eq_some_iff, ofValue?_eq_some_iff] using written
    | tables found written =>
        simpa only [ofEntries?, found, mapM_eq_some_iff, ofValue?_eq_some_iff] using written

end TrustAnchor

namespace TrustStore

open TrustAnchor (Holds Offends Listed algorithmName)

variable {anchor : TrustAnchor} {anchors : List TrustAnchor} {key : Ecdsa.PublicKey}
  {keys : List Ecdsa.PublicKey} {fault : Fault}

theorem anchorKey_of_known (known : anchor.algorithm = algorithmName) :
    anchorKey anchor = anchor.key.mapError (.key anchor.name) := by
  rw [anchorKey, if_neg (not_not.mpr known)]
  cases anchor.key <;> rfl

theorem anchorKey_of_holds (holds : Holds anchor key) : anchorKey anchor = .ok key := by
  obtain ⟨known, bytes, spelled, encodes⟩ := holds
  have read := Hex.decode_eq_ok_iff.mpr spelled
  have point := Ecdsa.PublicKey.ofBytes?_eq_some_iff.mpr encodes
  simp only [anchorKey_of_known known, TrustAnchor.key, read, point, Except.mapError]

theorem anchorKey_of_offends (offends : Offends anchor fault) : anchorKey anchor = .error fault := by
  cases offends with
  | algorithm other => exact if_pos other
  | digits known misspelled =>
      have read := Hex.decode_eq_error_iff.mpr misspelled
      simp only [anchorKey_of_known known, TrustAnchor.key, read, Except.mapError]
  | point known spelled off =>
      have read := Hex.decode_eq_ok_iff.mpr spelled
      have pointless := Option.eq_none_iff_forall_not_mem.mpr fun key point =>
        off key (Ecdsa.PublicKey.ofBytes?_eq_some_iff.mp point)
      simp only [anchorKey_of_known known, TrustAnchor.key, read, pointless, Except.mapError]

theorem holds_or_offends (anchor : TrustAnchor) :
    (∃ key, Holds anchor key) ∨ ∃ fault, Offends anchor fault := by
  by_cases known : anchor.algorithm = algorithmName
  swap
  · exact .inr ⟨_, .algorithm known⟩
  cases read : Hex.decode (Utf8.encode (trim anchor.publicKey)) with
  | error fault => exact .inr ⟨_, .digits known (Hex.decode_eq_error_iff.mp read)⟩
  | ok bytes =>
      have spelled := Hex.decode_eq_ok_iff.mp read
      by_cases point : ∃ key : Ecdsa.PublicKey, Ecdsa.PublicKey.Encodes key.point bytes
      · obtain ⟨key, encodes⟩ := point
        exact .inl ⟨key, known, bytes, spelled, encodes⟩
      · exact .inr ⟨_, .point known spelled (not_exists.mp point)⟩

/-- An anchor gives the key that it holds. -/
theorem anchorKey_eq_ok_iff : anchorKey anchor = .ok key ↔ Holds anchor key := by
  refine ⟨fun given => ?_, anchorKey_of_holds⟩
  rcases holds_or_offends anchor with ⟨held, holds⟩ | ⟨fault, offends⟩
  · obtain rfl := Except.ok.inj (given.symm.trans (anchorKey_of_holds holds))
    exact holds
  · cases given.symm.trans (anchorKey_of_offends offends)

/-- An anchor fails by what it offends in. -/
theorem anchorKey_eq_error_iff : anchorKey anchor = .error fault ↔ Offends anchor fault := by
  refine ⟨fun failed => ?_, anchorKey_of_offends⟩
  rcases holds_or_offends anchor with ⟨held, holds⟩ | ⟨other, offends⟩
  · cases failed.symm.trans (anchorKey_of_holds holds)
  · obtain rfl := Except.error.inj (failed.symm.trans (anchorKey_of_offends offends))
    exact offends

/-- The anchors that a document describes. -/
def Anchored (document : String) (anchors : List TrustAnchor) : Prop :=
  ∃ entries, Toml.parse? document = some entries ∧ Listed entries anchors

theorem anchored_iff {document : String} : Anchored document anchors ↔
    (Toml.parse? document).bind TrustAnchor.ofEntries? = some anchors := by
  simp only [Anchored, Option.bind_eq_some_iff, TrustAnchor.ofEntries?_eq_some_iff]

instance (document : String) (anchors : List TrustAnchor) : Decidable (Anchored document anchors) :=
  decidable_of_iff' _ anchored_iff

theorem ofToml_of_anchored {document : String} (anchored : Anchored document anchors) :
    ofToml document = anchors.mapM anchorKey >>= ofKeys := by
  obtain ⟨entries, parsed, listed⟩ := anchored
  simp only [ofToml, parsed, TrustAnchor.ofEntries?_eq_some_iff.mpr listed]

theorem ofToml_of_not_anchored {document : String} (nowhere : ∀ anchors, ¬ Anchored document anchors) :
    ofToml document = .error .document := by
  unfold ofToml
  split
  · next entries parsed =>
      split
      · next anchors listed =>
          exact (nowhere anchors ⟨entries, parsed, TrustAnchor.ofEntries?_eq_some_iff.mp listed⟩).elim
      · rfl
  · rfl

theorem ofKeys_eq_ok_iff {store : TrustStore} : ofKeys keys = .ok store ↔ store.keys = keys := by
  unfold ofKeys
  split
  · next empty => exact iff_of_false nofun fun same => store.nonempty (same.trans empty)
  · constructor
    · rintro ⟨⟩
      rfl
    · rintro rfl
      rfl

theorem ofKeys_eq_error_iff : ofKeys keys = .error fault ↔ keys = [] ∧ fault = .empty := by
  unfold ofKeys
  split
  · next empty =>
      rw [Except.error.injEq]
      exact ⟨fun same => ⟨empty, same.symm⟩, fun both => both.2.symm⟩
  · next filled => exact iff_of_false nofun fun both => filled both.1

/-- The store of usable anchors has their keys, in order. -/
theorem loads_iff {document : String} : (∃ store, ofToml document = .ok store ∧ store.keys = keys) ↔
    ∃ anchors, Anchored document anchors ∧ anchors ≠ [] ∧ List.Forall₂ Holds anchors keys := by
  constructor
  · rintro ⟨store, loaded, rfl⟩
    by_cases described : ∃ anchors, Anchored document anchors
    · obtain ⟨anchors, anchored⟩ := described
      rw [ofToml_of_anchored anchored, bind_eq_ok_iff] at loaded
      obtain ⟨keys, each, stored⟩ := loaded
      obtain rfl := ofKeys_eq_ok_iff.mp stored
      simp only [mapM_eq_ok_iff, anchorKey_eq_ok_iff] at each
      refine ⟨anchors, anchored, ?_, each⟩
      rintro rfl
      exact store.nonempty (List.forall₂_nil_left_iff.mp each)
    · cases loaded.symm.trans (ofToml_of_not_anchored (not_exists.mp described))
  · rintro ⟨anchors, anchored, filled, holds⟩
    have kept : keys ≠ [] := by
      rintro rfl
      exact filled (List.forall₂_nil_right_iff.mp holds)
    have each : anchors.mapM anchorKey = .ok keys := by
      simpa only [mapM_eq_ok_iff, anchorKey_eq_ok_iff] using holds
    refine ⟨⟨keys, kept⟩, ?_, rfl⟩
    rw [ofToml_of_anchored anchored, each, ok_bind, ofKeys_eq_ok_iff]

theorem fails_of_offends {document : String} {front back : List TrustAnchor} {bad : TrustAnchor}
    (anchored : Anchored document (front ++ bad :: back))
    (usable : ∀ anchor ∈ front, ∃ key, Holds anchor key) (offends : Offends bad fault) :
    ofToml document = .error fault := by
  have first : (front ++ bad :: back).mapM anchorKey = .error fault := by
    refine mapM_eq_error_iff.mpr ⟨front, bad, back, rfl, ?_, anchorKey_of_offends offends⟩
    simpa only [anchorKey_eq_ok_iff] using usable
  rw [ofToml_of_anchored anchored, first, error_bind]

/-- There is no store if a document describes no anchors, an empty list of them, or one that offends. -/
theorem fails_iff {document : String} : ofToml document = .error fault ↔
    (fault = .document ∧ ∀ anchors, ¬ Anchored document anchors) ∨
    (fault = .empty ∧ Anchored document []) ∨
    (∃ front bad back, Anchored document (front ++ bad :: back) ∧
      (∀ anchor ∈ front, ∃ key, Holds anchor key) ∧ Offends bad fault) := by
  constructor
  · intro failed
    by_cases described : ∃ anchors, Anchored document anchors
    · obtain ⟨anchors, anchored⟩ := described
      rw [ofToml_of_anchored anchored] at failed
      cases each : anchors.mapM anchorKey with
      | error other =>
          rw [each, error_bind, Except.error.injEq] at failed
          obtain ⟨front, bad, back, rfl, usable, offends⟩ := mapM_eq_error_iff.mp each
          simp only [anchorKey_eq_ok_iff, anchorKey_eq_error_iff] at usable offends
          exact .inr (.inr ⟨front, bad, back, anchored, usable, failed ▸ offends⟩)
      | ok keys =>
          rw [each, ok_bind, ofKeys_eq_error_iff] at failed
          obtain ⟨rfl, rfl⟩ := failed
          rw [mapM_eq_ok_iff, List.forall₂_nil_right_iff] at each
          exact .inr (.inl ⟨rfl, each ▸ anchored⟩)
    · have undescribed := not_exists.mp described
      rw [ofToml_of_not_anchored undescribed, Except.error.injEq] at failed
      exact .inl ⟨failed.symm, undescribed⟩
  · rintro (⟨rfl, undescribed⟩ | ⟨rfl, anchored⟩ | ⟨front, bad, back, anchored, usable, offends⟩)
    · exact ofToml_of_not_anchored undescribed
    · rw [ofToml_of_anchored anchored]
      rfl
    · exact fails_of_offends anchored usable offends

theorem usable_of_loads {document : String} {store : TrustStore} (anchored : Anchored document anchors)
    (loaded : ofToml document = .ok store) : ∀ anchor ∈ anchors, ∃ key, Holds anchor key := by
  rw [ofToml_of_anchored anchored, bind_eq_ok_iff] at loaded
  obtain ⟨keys, each, -⟩ := loaded
  simpa only [anchorKey_eq_ok_iff] using readable_of_mapM_eq_ok each

/-- A store is loaded from all anchors of a document or not at all. The first anchor that offends tells
why, and one more anchor that holds no key spoils any store. -/
theorem loaded_all_or_nothing (document : String) :
    (∀ keys, (∃ store, ofToml document = .ok store ∧ store.keys = keys) ↔
      ∃ anchors, Anchored document anchors ∧ anchors ≠ [] ∧ List.Forall₂ Holds anchors keys) ∧
    (∀ fault, ofToml document = .error fault ↔
      (fault = .document ∧ ∀ anchors, ¬ Anchored document anchors) ∨
      (fault = .empty ∧ Anchored document []) ∨
      (∃ front bad back, Anchored document (front ++ bad :: back) ∧
        (∀ anchor ∈ front, ∃ key, Holds anchor key) ∧ Offends bad fault)) ∧
    (∀ before front bad back, Anchored before (front ++ back) →
      Anchored document (front ++ bad :: back) → (∀ key, ¬ Holds bad key) →
      ∃ fault, ofToml document = .error fault ∧
        ((∃ store, ofToml before = .ok store) → Offends bad fault)) := by
  refine ⟨fun keys => loads_iff, fun fault => fails_iff, ?_⟩
  intro before front bad back original inserted unusable
  cases loaded : ofToml document with
  | ok store =>
      obtain ⟨key, holds⟩ := usable_of_loads inserted loaded bad (by simp)
      exact (unusable key holds).elim
  | error fault =>
      refine ⟨fault, rfl, ?_⟩
      rintro ⟨store, loads⟩
      have usable : ∀ anchor ∈ front, ∃ key, Holds anchor key := fun anchor member =>
        usable_of_loads original loads anchor (List.mem_append_left back member)
      obtain ⟨other, offends⟩ := (holds_or_offends bad).resolve_left (not_exists.mpr unusable)
      have failed := fails_of_offends inserted usable offends
      obtain rfl := Except.error.inj (loaded.symm.trans failed)
      exact offends

def soundKey : Ecdsa.PublicKey where
  point := ⟨Secp256k1.generator.x, Secp256k1.prime - Secp256k1.generator.y⟩
  onCurve := by decide +kernel

def soundAnchor : TrustAnchor :=
  ⟨"a", "ecdsa-secp256k1-sha256",
    "0379be667ef9dcbbac55a06295ce870b07029bfcdb2dce28d959f2815b16f81798"⟩

def foreignAnchor : TrustAnchor := ⟨"b", "rsa", ""⟩

def soundDocument : String :=
  "[[anchor]]\nname=\"a\"\nalgorithm=\"ecdsa-secp256k1-sha256\"\n" ++
  "public_key=\"0379be667ef9dcbbac55a06295ce870b07029bfcdb2dce28d959f2815b16f81798\"\n"

theorem foreign_anchor_spoils :
    let spoiled := soundDocument ++ "[[anchor]]\nname=\"b\"\nalgorithm=\"rsa\"\npublic_key=\"\"\n"
    Anchored soundDocument [soundAnchor] ∧ Anchored spoiled [soundAnchor, foreignAnchor] ∧
      (∃ store, ofToml soundDocument = .ok store ∧ store.keys = [soundKey]) ∧
      ∃ fault, ofToml spoiled = .error fault ∧ Offends foreignAnchor fault := by
  intro spoiled
  have sound : Anchored soundDocument [soundAnchor] := by decide +kernel
  have both : Anchored spoiled [soundAnchor, foreignAnchor] := by decide +kernel
  have holds : Holds soundAnchor soundKey := by
    refine ⟨rfl, 0x03 :: bytesOfNat 32 Secp256k1.generator.x, ?_, .odd ?_⟩
    · decide +kernel
    · decide
  have loads := ((loaded_all_or_nothing soundDocument).1 [soundKey]).mpr
    ⟨[soundAnchor], sound, List.cons_ne_nil _ _, .cons holds .nil⟩
  obtain ⟨store, loaded, kept⟩ := loads
  have unusable : ∀ key, ¬ Holds foreignAnchor key := fun key holds =>
    absurd holds.algorithm (by decide)
  obtain ⟨fault, failed, blamed⟩ := (loaded_all_or_nothing spoiled).2.2 soundDocument [soundAnchor]
    foreignAnchor [] sound both unusable
  exact ⟨sound, both, ⟨store, loaded, kept⟩, fault, failed, blamed ⟨store, loaded⟩⟩

end TrustStore

end CardGateway
