import Mathlib.Data.List.Dedup
import CardGateway.Proofs.Cleanup
import CardGateway.Proofs.MessageRoundTrip

/-!
# Binary fields and their texts

A byte string has one text, and what is read as these bytes is that text but for blanks around it and,
in slot handles, the case of letters. Handles stand in the order of their texts, so a set of handles is
the same whatever texts it was read from, and in whatever order.
-/

namespace CardGateway

open CardGateway.Json CardGateway.Text

namespace Json

variable {α : Type}

/-- The codec keeps its values in strings. A string is read if its normal form is what is written for
some value, and as that value. -/
structure Codec.Spells (codec : Codec α) (normal : String → String) : Prop where
  own : ∀ value, codec.decode (codec.encode value) = .ok value
  strings : ∀ {node value}, codec.read node = .ok value → ∃ s, text.read node = .ok s
  back : ∀ {node value s}, text.read node = .ok s → codec.read node = .ok value →
    codec.write value = .text (normal s)
  alike : ∀ {node other value s t}, text.read node = .ok s → text.read other = .ok t →
    codec.read node = .ok value → (codec.read other = .ok value ↔ normal t = normal s)

/-- What is written for a value, or left out for it, is read as that value. -/
def Field.Returns (field : Field α) : Prop :=
  ∀ value, match field.write value with
    | some written => field.read written.node = .ok value
    | none => field.absent = some value

theorem Field.Faithful.returns {field : Field α} {P : α → Prop} (faithful : field.Faithful P)
    (all : ∀ value, P value) : field.Returns := by
  intro value
  cases wrote : field.write value with
  | some written => exact faithful.read_write (all value) wrote
  | none => exact faithful.absent_write (all value) wrote

namespace Codec

variable {codec : Codec α} {parse : String → Except Fault α} {print : α → String}
  {normal : String → String}

theorem texted_read {node : Node} {s : String} (read : text.read node = .ok s) :
    (texted parse print).read node = parse s := by
  show text.read node >>= parse = parse s
  rw [read, ok_bind]

theorem Spells.of_texted (reads : ∀ {s value}, parse s = .ok value ↔ normal s = print value)
    (stable : ∀ value, normal (print value) = print value) : (texted parse print).Spells normal where
  own value := by
    have faithful : (texted parse print).Faithful fun _ => True :=
      texted_faithful (fun _ => reads.mpr (stable _)) fun _ => trivial
    exact faithful.decode_encode trivial
  strings read := by
    obtain ⟨s, text, -⟩ := bind_eq_ok_iff.mp read
    exact ⟨s, text⟩
  back {node value s} text read := by
    rw [texted_read text, reads] at read
    rw [read]
    rfl
  alike {node other value s t} text again read := by
    rw [texted_read text, reads] at read
    rw [texted_read again, reads, read]

/-- Null is left to stand for nothing. -/
theorem Spells.solid (spells : codec.Spells normal) (value : α) : codec.read .null ≠ .ok value := by
  intro read
  obtain ⟨s, text⟩ := spells.strings read
  exact mismatch_ne_ok text

end Codec

end Json

section Texts

theorem readBase64_eq_ok_iff {s : String} {bytes : Bytes} :
    Codec.readBase64 s = .ok bytes ↔ trim s = Base64.encodeText .standard bytes := by
  have read : Codec.readBase64 s = .ok bytes ↔
      Base64.decode .standard (Utf8.encode (trim s)) = .ok bytes := by
    unfold Codec.readBase64
    cases Base64.decode .standard (Utf8.encode (trim s)) <;> simp
  rw [read, Base64.decode_text_eq_ok_iff]

theorem SlotHandle.parse_eq_ok_iff {s : String} {slot : SlotHandle} :
    parse s = .ok slot ↔ (trim s).toUpper = slot.wire := by
  rw [wire, ← Hex.decode_eq_ok_iff, parse]
  obtain ⟨bytes⟩ := slot
  cases Hex.decode (Utf8.encode (trim s)) <;> simp

theorem spells_base64 : Codec.base64.Spells trim :=
  .of_texted readBase64_eq_ok_iff fun _ => trim_eq_self fun _ member =>
    (Base64.encodeText_solid member).1

theorem SlotHandle.spells : SlotHandle.codec.Spells fun s => (trim s).toUpper := by
  refine .of_texted (fun {s slot} => ?_) fun slot => ?_
  · rw [← parse_eq_ok_iff]
    cases parse s <;> simp
  · exact Hex.decode_eq_ok_iff.mp (Hex.decode_trim_encodeUpper slot.bytes)

end Texts

section Adapters

variable {α : Type} {codec : Codec α} {node : Node} {name : String}

/-- Null reads as nothing, and everything else as the codec reads it. -/
theorem optional_read_eq_ok_iff (solid : ∀ value, codec.read .null ≠ .ok value) {value : Option α} :
    codec.optional.read node = .ok value ↔
      node = .null ∧ value = none ∨ ∃ found, value = some found ∧ codec.read node = .ok found := by
  by_cases null : node = .null
  · subst null
    have absent : codec.optional.read .null = .ok none := rfl
    rw [absent, Except.ok.injEq]
    constructor
    · rintro rfl
      exact .inl ⟨rfl, rfl⟩
    · rintro (⟨-, rfl⟩ | ⟨found, -, read⟩)
      · rfl
      · exact absurd read (solid found)
  · rw [Codec.Faithful.read_optional null]
    constructor
    · intro read
      cases inner : codec.read node with
      | error fault => simp [inner, Except.map] at read
      | ok found =>
          rw [inner] at read
          exact .inr ⟨found, (Except.ok.inj read).symm, rfl⟩
    · rintro (⟨null', -⟩ | ⟨found, rfl, read⟩)
      · exact absurd null' null
      · rw [read]
        rfl

theorem mapM_readBase64_iff {texts : List String} {values : List Bytes} :
    texts.mapM Codec.readBase64 = .ok values ↔
      texts.map trim = values.map (Base64.encodeText .standard) := by
  rw [mapM_eq_ok_iff]
  simp only [readBase64_eq_ok_iff]
  rw [← List.forall₂_eq_eq_eq, List.forall₂_map_left_iff, List.forall₂_map_right_iff]

/-- A list of strings is read if each of them is, and as the values of all. -/
theorem base64List_read_eq_ok_iff {values : List Bytes} :
    Codec.base64List.read node = .ok values ↔ ∃ texts, Codec.text.list.read node = .ok texts ∧
      texts.map trim = values.map (Base64.encodeText .standard) := by
  refine bind_eq_ok_iff.trans (exists_congr fun texts => and_congr_right fun _ => ?_)
  exact mapM_readBase64_iff

theorem base64List_solid (values : List Bytes) : Codec.base64List.read .null ≠ .ok values := by
  intro read
  obtain ⟨texts, list, -⟩ := base64List_read_eq_ok_iff.mp read
  exact mismatch_ne_ok list

theorem nullableList_read_eq_ok_iff {codec : Codec (List α)}
    (solid : ∀ values, codec.read .null ≠ .ok values) {values : List α} :
    (Field.nullableList name codec).read node = .ok values ↔
      node = .null ∧ values = [] ∨ codec.read node = .ok values := by
  refine bind_eq_ok_iff.trans ?_
  simp only [optional_read_eq_ok_iff solid, pure_eq_ok, Except.ok.injEq]
  constructor
  · rintro ⟨_, ⟨null, rfl⟩ | ⟨found, rfl, read⟩, rfl⟩
    · exact .inl ⟨null, rfl⟩
    · exact .inr read
  · rintro (⟨null, rfl⟩ | read)
    · exact ⟨none, .inl ⟨null, rfl⟩, rfl⟩
    · exact ⟨some values, .inr ⟨values, rfl, read⟩, rfl⟩

end Adapters

namespace SlotHandle

section Order

/-- Digits have the order of their values. -/
def Ordered (m n : UInt8) : Prop :=
  (Hex.upperDigit m < Hex.upperDigit n ↔ m < n) ∧ (Hex.upperDigit m = Hex.upperDigit n ↔ m = n)

theorem ordered {m n : UInt8} (small : m < 16) (also : n < 16) : Ordered m n := by
  have table : ∀ k < 16, ∀ l < 16,
      (Hex.upperDigit k.toUInt8 < Hex.upperDigit l.toUInt8 ↔ k.toUInt8 < l.toUInt8) ∧
        (Hex.upperDigit k.toUInt8 = Hex.upperDigit l.toUInt8 ↔ k.toUInt8 = l.toUInt8) := by decide
  refine Hex.of_table (P := fun m => Ordered m n) (fun k less => ?_) (UInt8.lt_iff_toNat_lt.mp small)
  exact Hex.of_table (P := Ordered k.toUInt8) (table k less) (UInt8.lt_iff_toNat_lt.mp also)

/-- A map that keeps the order of some items keeps that of lists of them. -/
theorem map_lt_map_iff {α β : Type} [LT α] [LT β] {f : α → β} {first second : List α}
    (keeps : ∀ a ∈ first, ∀ b ∈ second, (f a < f b ↔ a < b) ∧ (f a = f b ↔ a = b)) :
    first.map f < second.map f ↔ first < second := by
  induction first generalizing second with
  | nil =>
      cases second with
      | nil => simp
      | cons b second => simp
  | cons a first ih =>
      cases second with
      | nil => simp
      | cons b second =>
          obtain ⟨less, same⟩ := keeps a List.mem_cons_self b List.mem_cons_self
          rw [List.map_cons, List.map_cons, List.cons_lt_cons_iff, List.cons_lt_cons_iff, less, same,
            ih fun c member d other => keeps c (List.mem_cons_of_mem a member) d
              (List.mem_cons_of_mem b other)]

theorem halves_lt_iff (a b : UInt8) :
    a < b ↔ a / 16 < b / 16 ∨ a / 16 = b / 16 ∧ a % 16 < b % 16 := by
  simp only [UInt8.lt_iff_toNat_lt, ← UInt8.toNat_inj, UInt8.toNat_div, UInt8.toNat_mod]
  show a.toNat < b.toNat ↔ a.toNat / 16 < b.toNat / 16 ∨
    a.toNat / 16 = b.toNat / 16 ∧ a.toNat % 16 < b.toNat % 16
  omega

theorem halves_eq_iff (a b : UInt8) : a = b ↔ a / 16 = b / 16 ∧ a % 16 = b % 16 := by
  simp only [← UInt8.toNat_inj, UInt8.toNat_div, UInt8.toNat_mod]
  show a.toNat = b.toNat ↔ a.toNat / 16 = b.toNat / 16 ∧ a.toNat % 16 = b.toNat % 16
  omega

/-- Byte strings have the order of their halves. -/
theorem halvesOf_lt_iff {first second : Bytes} :
    Hex.halvesOf first < Hex.halvesOf second ↔ first < second := by
  induction first generalizing second with
  | nil => cases second <;> simp [Hex.halvesOf]
  | cons a first ih =>
      cases second with
      | nil => simp [Hex.halvesOf]
      | cons b second =>
          show a / 16 :: a % 16 :: Hex.halvesOf first < b / 16 :: b % 16 :: Hex.halvesOf second ↔ _
          rw [List.cons_lt_cons_iff, List.cons_lt_cons_iff, List.cons_lt_cons_iff, ih,
            halves_lt_iff a b, halves_eq_iff a b, and_or_left, or_assoc, and_assoc]

/-- Handles have the order of their texts. -/
theorem lt_iff_wire_lt {a b : SlotHandle} : a < b ↔ a.wire < b.wire := by
  have digits : ∀ m ∈ Hex.halvesOf a.bytes, ∀ n ∈ Hex.halvesOf b.bytes, Ordered m n :=
    fun _ first _ second => ordered (Hex.halvesOf_small first) (Hex.halvesOf_small second)
  rw [String.lt_iff, wire, wire, Hex.encodeUpper_toList, Hex.encodeUpper_toList,
    map_lt_map_iff digits, halvesOf_lt_iff]
  exact Iff.rfl

end Order

section Sets

variable {slot : SlotHandle} {slots others : List SlotHandle} {texts : List String}

/-- The texts of a set are in order, and each of them stands once. -/
theorem wires_ascending (slots : List SlotHandle) :
    ((union [] slots).map wire).Pairwise (· < ·) := by
  rw [List.pairwise_map]
  exact (union_ascending .nil).imp lt_iff_wire_lt.mp

theorem mem_union_nil : slot ∈ union [] slots ↔ slot ∈ slots := by
  rw [mem_union]
  simp

/-- A set has one entry for each of the handles. -/
theorem union_perm_dedup (slots : List SlotHandle) : (union [] slots).Perm slots.dedup := by
  rw [List.perm_ext_iff_of_nodup (nodup_of_ascending (union_ascending .nil)) (List.nodup_dedup slots)]
  intro slot
  rw [mem_union_nil, List.mem_dedup]

/-- The same handles make the same set. -/
theorem union_eq_of_same (same : ∀ slot, slot ∈ others ↔ slot ∈ slots) :
    union [] others = union [] slots := by
  have perm : (union [] others).Perm (union [] slots) := by
    rw [List.perm_ext_iff_of_nodup (nodup_of_ascending (union_ascending .nil))
      (nodup_of_ascending (union_ascending .nil))]
    intro slot
    rw [mem_union_nil, mem_union_nil, same]
  refine perm.eq_of_pairwise (fun a b _ _ below above => ?_) (union_ascending .nil)
    (union_ascending .nil)
  exact absurd above (List.lt_asymm below)

theorem mem_of_texts (read : texts.mapM parse = .ok slots) :
    slot ∈ slots ↔ ∃ text ∈ texts, parse text = .ok slot := by
  rw [mapM_eq_ok_iff] at read
  induction read with
  | nil => simp
  | cons first _ ih => simp [ih, first, eq_comm]

end Sets

end SlotHandle

end CardGateway
