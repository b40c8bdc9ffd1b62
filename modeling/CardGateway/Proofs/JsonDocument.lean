import CardGateway.Json.Value
import CardGateway.Proofs.JsonGrammar
import CardGateway.Text.Blank

/-!
# The shape of a written document

What is written for a value is a text of the grammar, and denotes that value.
-/

namespace CardGateway.Json

open CardGateway.Text

/-- The values of the digits that a number is written with. -/
def digitsOf (n : Nat) : List Nat := (Nat.toDigits 10 n).map fun c => c.toNat - '0'.toNat

section Numbers

theorem digitsValue_digitsOf (n : Nat) : Number.digitsValue (digitsOf n) = n := by
  have read := Nat.ofDigitChars_toDigits (b := 10) (n := n) (by decide) (by decide)
  simpa only [Number.digitsValue, digitsOf, List.foldl_map, Nat.ofDigitChars, Nat.mul_comm 10]
    using read

/-- No number but zero is written with a zero in front. -/
theorem digitsOf_head {n : Nat} (positive : 0 < n) : ∃ d rest, digitsOf n = d :: rest ∧ d ≠ 0 := by
  induction n using Nat.strongRecOn with
  | ind n ih =>
      by_cases small : n < 10
      · have digit : ∀ k < 10, 0 < k → (Nat.digitChar k).toNat - '0'.toNat ≠ 0 := by decide
        exact ⟨_, [], by rw [digitsOf, Nat.toDigits_of_lt_base small]; rfl, digit n small positive⟩
      · obtain ⟨d, rest, high, nonzero⟩ := ih (n / 10) (by omega) (by omega)
        refine ⟨d, rest ++ [(Nat.digitChar (n % 10)).toNat - '0'.toNat], ?_, nonzero⟩
        rw [digitsOf, Nat.toDigits_of_base_le (by decide) (Nat.not_lt.mp small), List.map_append,
          ← digitsOf, high]
        rfl

theorem encodeChar_digit {c : Char} (digit : c.isDigit = true) :
    ∃ b, Utf8.encodeChar c = [b] ∧ isDigit b = true ∧ b.toNat - 48 = c.toNat - '0'.toNat := by
  have range := Text.range_of_isDigit digit
  have own : c.toNat.toUInt8.toNat = c.toNat := Utf8.toNat_toUInt8 (by omega)
  refine ⟨c.toNat.toUInt8, ?_, ?_, ?_⟩
  · rw [Utf8.encodeChar, if_pos (by omega)]
  · simp only [isDigit, Bool.and_eq_true, decide_eq_true_eq, UInt8.le_iff_toNat_le, own]
    exact range
  · rw [own]
    rfl

theorem encode_digits {chars : List Char} (digits : ∀ c ∈ chars, c.isDigit = true) :
    (∀ b ∈ chars.flatMap Utf8.encodeChar, isDigit b = true) ∧
      digitValues (chars.flatMap Utf8.encodeChar) = chars.map fun c => c.toNat - '0'.toNat := by
  induction chars with
  | nil => exact ⟨fun b member => absurd member List.not_mem_nil, rfl⟩
  | cons c tail ih =>
      obtain ⟨b, own, digit, value⟩ := encodeChar_digit (digits c List.mem_cons_self)
      obtain ⟨others, values⟩ := ih fun d member => digits d (List.mem_cons_of_mem _ member)
      rw [List.flatMap_cons, own, List.singleton_append]
      refine ⟨?_, ?_⟩
      · intro d member
        rcases List.mem_cons.mp member with rfl | later
        · exact digit
        · exact others d later
      · rw [digitValues, List.map_cons, value, ← digitValues, values, List.map_cons]

theorem numeral_toDigits (n : Nat) :
    Numeral ⟨false, digitsOf n, none, none⟩ ((Nat.toDigits 10 n).flatMap Utf8.encodeChar) := by
  obtain ⟨all, values⟩ := encode_digits fun c member =>
    Nat.isDigit_of_mem_toDigits (b := 10) (n := n) (by decide) (by decide) member
  rw [← digitsOf] at values
  have whole : Whole ((Nat.toDigits 10 n).flatMap Utf8.encodeChar) := by
    rcases Nat.eq_zero_or_pos n with rfl | positive
    · have zero : (Nat.toDigits 10 0).flatMap Utf8.encodeChar = [0x30] := by decide
      rw [zero]
      exact whole_zero
    · obtain ⟨d, rest, digits, nonzero⟩ := digitsOf_head positive
      rw [digits] at values
      cases text : (Nat.toDigits 10 n).flatMap Utf8.encodeChar with
      | nil =>
          rw [text] at values
          cases values
      | cons b tail =>
          rw [text] at values all
          refine ⟨⟨List.cons_ne_nil _ _, all⟩, fun zero => ?_⟩
          obtain rfl := Option.some.inj zero
          exact absurd (List.cons.inj values).1.symm nonzero
  have size := Magnitude.mk whole .absent .absent
  rw [values, List.append_nil, List.append_nil] at size
  exact .positive size

theorem ofText_digitsOf {n : Nat} (small : n < Number.naturalLimit) :
    readNumber ⟨false, digitsOf n, none, none⟩ .complete = .ok (.natural n) := by
  simp [readNumber, Number.ofText, digitsValue_digitsOf, small]

end Numbers

section Strings

variable {rest : Bytes} (behind : Quoted rest)

include behind

theorem Quoted.append_plain {bytes : Bytes} (stands : ∀ b ∈ bytes, Plain b) :
    Quoted (bytes ++ rest) := by
  induction bytes with
  | nil => exact behind
  | cons b tail ih =>
      have next := ih fun c member => stands c (List.mem_cons_of_mem _ member)
      exact .plain (stands b List.mem_cons_self) next

theorem Written.quoted {c : Char} {bytes : Bytes} (written : Written c bytes) :
    Quoted (bytes ++ rest) := by
  cases written with
  | short stands own => exact .short (Option.isSome_of_mem stands) behind
  | code value low => exact .code value behind
  | plain stands => exact behind.append_plain stands

end Strings

theorem quoted_rawText (s : String) : Quoted (rawText s) := by
  unfold rawText
  induction s.toList with
  | nil => exact .close
  | cons c tail ih =>
      rw [List.flatMap_cons, List.append_assoc]
      exact (written_escapeChar c).quoted ih

namespace Value

/-! The shape of a value. -/

mutual

def node : Value → Node
  | .null => .null
  | .flag b => .flag b
  | .natural n => .number ⟨false, digitsOf n, none, none⟩ .complete
  | .text s => .text (rawText s)
  | .list items => .list (itemNodes items)
  | .record members => .record (memberNodes members)

def itemNodes : List Value → Items
  | [] => .stop .closed
  | item :: rest => .item item.node (itemNodes rest)

def memberNodes : List (String × Value) → Members
  | [] => .stop .closed
  | (name, value) :: rest => .member (rawText name) value.node (memberNodes rest)

end

theorem memberNodes_eq_closed (members : List (String × Value)) : memberNodes members =
    .closed (members.map fun member => (rawText member.1, member.2.node)) := by
  induction members with
  | nil => rfl
  | cons member rest ih => rw [memberNodes, ih, List.map_cons, Members.closed]

def bytes (value : Value) : Bytes := value.render.flatMap Utf8.encodeChar

def itemBytes (items : List Value) : Bytes := (renderItems items).flatMap Utf8.encodeChar

def memberBytes (members : List (String × Value)) : Bytes :=
  (renderMembers members).flatMap Utf8.encodeChar

section Bytes

variable (name : String) (value first : Value) (rest : List Value) (members : List (String × Value))

theorem toBytes_eq : value.toBytes = value.bytes := Utf8.encode_ofList _

theorem bytes_list : (Value.list (first :: rest)).bytes = 0x5B :: (first.bytes ++ itemBytes rest) := by
  simp only [bytes, render, List.flatMap_cons, List.flatMap_append]
  rfl

theorem itemBytes_cons : itemBytes (first :: rest) = 0x2C :: (first.bytes ++ itemBytes rest) := by
  simp only [itemBytes, renderItems, List.flatMap_cons, List.flatMap_append]
  rfl

theorem bytes_record : (Value.record ((name, value) :: members)).bytes =
    0x7B :: quote :: (rawText name ++ 0x3A :: (value.bytes ++ memberBytes members)) := by
  simp only [bytes, render, List.flatMap_cons, List.flatMap_append, encode_writeText,
    List.cons_append]
  rfl

theorem memberBytes_cons : memberBytes ((name, value) :: members) =
    0x2C :: quote :: (rawText name ++ 0x3A :: (value.bytes ++ memberBytes members)) := by
  simp only [memberBytes, renderMembers, List.flatMap_cons, List.flatMap_append, encode_writeText,
    List.cons_append]
  rfl

end Bytes

mutual

/-- What is written for a value is spelled as its shape, without blanks. -/
theorem spelling : (value : Value) → Spelling (.node value.node) value.bytes
  | .null => .null
  | .flag true => .yes
  | .flag false => .no
  | .natural n => .number (numeral_toDigits n)
  | .text s => by
      have text : (Value.text s).bytes = quote :: rawText s := encode_writeText s
      rw [text, node]
      exact .text (quoted_rawText s)
  | .list [] => .list (.endItems .nil)
  | .list (first :: rest) => by
      rw [bytes_list, node, itemNodes]
      exact .list (.item (.opening .nil) first.spelling (spelling_items rest))
  | .record [] => .record (.endMembers .nil)
  | .record ((name, first) :: rest) => by
      rw [bytes_record, node, memberNodes]
      exact .record (.member (.opening .nil) (quoted_rawText name) .nil .nil first.spelling
        (spelling_members rest))

theorem spelling_items : (items : List Value) →
    Spelling (.items false (itemNodes items)) (itemBytes items)
  | [] => .endItems .nil
  | first :: rest => by
      rw [itemBytes_cons, itemNodes]
      exact .item (.comma .nil .nil) first.spelling (spelling_items rest)

theorem spelling_members : (members : List (String × Value)) →
    Spelling (.members false (memberNodes members)) (memberBytes members)
  | [] => .endMembers .nil
  | (name, first) :: rest => by
      rw [memberBytes_cons, memberNodes]
      exact .member (.comma .nil .nil) (quoted_rawText name) .nil .nil first.spelling
        (spelling_members rest)

end

theorem denotes_toBytes (value : Value) : Denotes value.toBytes value.node := by
  have whole := Denotes.mk .nil value.spelling .nil
  rwa [List.nil_append, List.append_nil, ← toBytes_eq] at whole

end Value

/-- A document that was written is read whole, and as the value that it was written for. -/
theorem Document.parse_toBytes (value : Value) :
    Document.parse value.toBytes = ⟨value.node, false⟩ :=
  value.denotes_toBytes.parse_eq

end CardGateway.Json
