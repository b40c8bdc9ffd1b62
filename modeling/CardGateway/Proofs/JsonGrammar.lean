import CardGateway.Json.Record
import CardGateway.Proofs.JsonText

/-!
# The grammar of documents

Which texts are JSON, and which shape each of them has. Blanks may stand around every part, so that
a shape has many texts; a text of the grammar is scanned as the shape that it denotes.
-/

namespace CardGateway.Json

/-! ## Strings and numbers -/

/-- A string behind its opening quote, through the closing one. -/
inductive Quoted : Bytes → Prop where
  | close : Quoted [quote]
  | plain {b : UInt8} {raw : Bytes} (stands : Plain b) (rest : Quoted raw) : Quoted (b :: raw)
  | short {e : UInt8} {raw : Bytes} (known : (shortEscape e).isSome = true) (rest : Quoted raw) :
      Quoted (backslash :: e :: raw)
  | code {a b c d : UInt8} {n : Nat} {raw : Bytes} (value : hexQuad a b c d = .ok n)
      (rest : Quoted raw) : Quoted (backslash :: letterU :: a :: b :: c :: d :: raw)

def Digits (text : Bytes) : Prop := text ≠ [] ∧ ∀ b ∈ text, isDigit b = true

def digitValues (text : Bytes) : List Nat := text.map fun b => b.toNat - 48

/-- Zero, or digits that begin with another one. -/
def Whole (text : Bytes) : Prop := Digits text ∧ (text.head? = some 0x30 → text = [0x30])

theorem whole_zero : Whole [0x30] := by
  refine ⟨⟨List.cons_ne_nil _ _, fun b member => ?_⟩, fun _ => rfl⟩
  rw [List.mem_singleton.mp member]
  rfl

inductive Fraction : Option (List Nat) → Bytes → Prop where
  | absent : Fraction none []
  | point {digits : Bytes} (proper : Digits digits) :
      Fraction (.some (digitValues digits)) (0x2E :: digits)

inductive Sign : Bool → Bytes → Prop where
  | absent : Sign false []
  | plus : Sign false [0x2B]
  | minus : Sign true [0x2D]

inductive Exponent : Option (Bool × List Nat) → Bytes → Prop where
  | absent : Exponent none []
  | power {e : UInt8} {negative : Bool} {sign digits : Bytes} (letter : e = 0x65 ∨ e = 0x45)
      (signed : Sign negative sign) (proper : Digits digits) :
      Exponent (.some (negative, digitValues digits)) (e :: (sign ++ digits))

inductive Magnitude : List Nat → Option (List Nat) → Option (Bool × List Nat) → Bytes → Prop where
  | mk {whole point power : Bytes} {fraction : Option (List Nat)}
      {exponent : Option (Bool × List Nat)} (unpadded : Whole whole)
      (pointed : Fraction fraction point) (raised : Exponent exponent power) :
      Magnitude (digitValues whole) fraction exponent (whole ++ (point ++ power))

inductive Numeral : NumberText → Bytes → Prop where
  | positive {whole : List Nat} {fraction : Option (List Nat)} {exponent : Option (Bool × List Nat)}
      {text : Bytes} (size : Magnitude whole fraction exponent text) :
      Numeral ⟨false, whole, fraction, exponent⟩ text
  | negative {whole : List Nat} {fraction : Option (List Nat)} {exponent : Option (Bool × List Nat)}
      {text : Bytes} (size : Magnitude whole fraction exponent text) :
      Numeral ⟨true, whole, fraction, exponent⟩ (0x2D :: text)

/-! ## Values -/

def Blank (text : Bytes) : Prop := ∀ b ∈ text, Document.isSpace b = true

/-- What stands before an item or a member: blanks, around a comma unless it is the `first`. -/
inductive Gap : (first : Bool) → Bytes → Prop where
  | opening {blanks : Bytes} (blank : Blank blanks) : Gap true blanks
  | comma {before after : Bytes} (ahead : Blank before) (behind : Blank after) :
      Gap false (before ++ 0x2C :: after)

/-- What is spelled: a value, or the items or members from some point on. -/
inductive Part where
  | node (node : Node)
  | items (first : Bool) (items : Items)
  | members (first : Bool) (members : Members)

/-- The texts that a part is spelled with; those of items and members reach through the closing
bracket. -/
inductive Spelling : Part → Bytes → Prop where
  | null : Spelling (.node .null) [0x6E, 0x75, 0x6C, 0x6C]
  | yes : Spelling (.node (.flag true)) [0x74, 0x72, 0x75, 0x65]
  | no : Spelling (.node (.flag false)) [0x66, 0x61, 0x6C, 0x73, 0x65]
  | number {number : NumberText} {text : Bytes} (numeral : Numeral number text) :
      Spelling (.node (.number number .complete)) text
  | text {raw : Bytes} (quoted : Quoted raw) : Spelling (.node (.text raw)) (quote :: raw)
  | list {items : Items} {text : Bytes} (inside : Spelling (.items true items) text) :
      Spelling (.node (.list items)) (0x5B :: text)
  | record {members : Members} {text : Bytes} (inside : Spelling (.members true members) text) :
      Spelling (.node (.record members)) (0x7B :: text)
  | endItems {first : Bool} {blanks : Bytes} (blank : Blank blanks) :
      Spelling (.items first (.stop .closed)) (blanks ++ [0x5D])
  | item {first : Bool} {gap text more : Bytes} {node : Node} {items : Items} (apart : Gap first gap)
      (value : Spelling (.node node) text) (rest : Spelling (.items false items) more) :
      Spelling (.items first (.item node items)) (gap ++ (text ++ more))
  | endMembers {first : Bool} {blanks : Bytes} (blank : Blank blanks) :
      Spelling (.members first (.stop .closed)) (blanks ++ [0x7D])
  | member {first : Bool} {gap key before after text more : Bytes} {node : Node} {members : Members}
      (apart : Gap first gap) (quoted : Quoted key) (ahead : Blank before) (behind : Blank after)
      (value : Spelling (.node node) text) (rest : Spelling (.members false members) more) :
      Spelling (.members first (.member key node members))
        (gap ++ quote :: (key ++ (before ++ 0x3A :: (after ++ (text ++ more)))))

/-- A whole text is one value of some shape, with blanks around it. -/
inductive Denotes : Bytes → Node → Prop where
  | mk {before text after : Bytes} {node : Node} (ahead : Blank before)
      (value : Spelling (.node node) text) (behind : Blank after) :
      Denotes (before ++ (text ++ after)) node

def Items.closed : List Node → Items
  | [] => .stop .closed
  | first :: rest => .item first (closed rest)

def Members.closed : List (Bytes × Node) → Members
  | [] => .stop .closed
  | (key, value) :: rest => .member key value (closed rest)

/-! ## Blanks, and what comes behind a value -/

theorem Blank.nil : Blank [] := fun _ member => absurd member List.not_mem_nil

theorem Blank.space : Blank [0x20] := by
  intro b member
  rw [List.mem_singleton.mp member]
  rfl

/-- What comes behind a value is nothing, a blank, a comma or a closing bracket. -/
def Follows (rest : Bytes) : Prop :=
  ∀ b ∈ rest.head?, Document.isSpace b = true ∨ b = 0x2C ∨ b = 0x5D ∨ b = 0x7D

namespace Follows

theorem nil : Follows [] := by
  rintro b ⟨⟩

theorem cons {b : UInt8} {rest : Bytes}
    (mark : Document.isSpace b = true ∨ b = 0x2C ∨ b = 0x5D ∨ b = 0x7D) : Follows (b :: rest) := by
  rintro c ⟨⟩
  exact mark

theorem blank_append {blanks rest : Bytes} (blank : Blank blanks) (follows : Follows rest) :
    Follows (blanks ++ rest) := by
  cases blanks with
  | nil => exact follows
  | cons b tail => exact cons (.inl (blank b List.mem_cons_self))

theorem gap_append {gap rest : Bytes} (apart : Gap false gap) : Follows (gap ++ rest) := by
  cases apart with
  | @comma before after ahead behind =>
      rw [List.append_assoc]
      exact blank_append ahead (cons (.inr (.inl rfl)))

theorem of_spelling {part : Part} {text rest : Bytes} (spelled : Spelling part text)
    (later : (∃ items, part = .items false items) ∨ ∃ members, part = .members false members) :
    Follows (text ++ rest) := by
  cases spelled with
  | endItems blank =>
      rw [List.append_assoc]
      exact blank_append blank (cons (.inr (.inr (.inl rfl))))
  | endMembers blank =>
      rw [List.append_assoc]
      exact blank_append blank (cons (.inr (.inr (.inr rfl))))
  | @item first gap _ _ _ _ apart =>
      obtain rfl : first = false := by simpa using later
      rw [List.append_assoc]
      exact gap_append apart
  | @member first gap _ _ _ _ _ _ _ apart =>
      obtain rfl : first = false := by simpa using later
      rw [List.append_assoc]
      exact gap_append apart
  | _ => simp at later

/-- None of what comes behind a value would carry a number on. -/
theorem ends_number {b : UInt8} {rest : Bytes} (follows : Follows (b :: rest)) :
    isDigit b = false ∧ b ≠ 0x2E ∧ b ≠ 0x65 ∧ b ≠ 0x45 := by
  rcases follows b rfl with space | rfl | rfl | rfl
  · simp only [Document.isSpace, Bool.or_eq_true, beq_iff_eq] at space
    rcases space with ((rfl | rfl) | rfl) | rfl <;> decide
  all_goals decide

end Follows

namespace Document

theorem skipSpace_cons {b : UInt8} {rest : Bytes} (solid : isSpace b = false) :
    skipSpace (b :: rest) = b :: rest := by
  rw [skipSpace, List.dropWhile_cons, solid, if_neg Bool.false_ne_true]

theorem skipSpace_append {blanks : Bytes} (blank : Blank blanks) (rest : Bytes) :
    skipSpace (blanks ++ rest) = skipSpace rest :=
  List.dropWhile_append_of_pos blank

theorem skipSpace_blank {blanks : Bytes} (blank : Blank blanks) : skipSpace blanks = [] := by
  rw [← List.append_nil blanks, skipSpace_append blank]
  rfl

end Document

/-! ## Scanning strings and numbers -/

theorem Quoted.skipText {raw : Bytes} (quoted : Quoted raw) (rest : Bytes) :
    skipText (raw ++ rest) = .ok rest := by
  induction quoted with
  | close => rfl
  | @plain b raw stands _ ih =>
      obtain ⟨high, unquoted, straight⟩ := stands
      have low : ¬ b < 0x20 := by
        rw [UInt8.lt_iff_toNat_lt]
        exact Nat.not_lt.mpr high
      rw [List.cons_append, Json.skipText]
      · rw [if_neg (by simpa using unquoted), if_neg low, ih]
      all_goals
        intros
        exact straight ‹_›
  | @short e raw known _ ih =>
      have other : e ≠ 0x75 := by
        rintro rfl
        cases known
      simp only [backslash, List.cons_append]
      rw [Json.skipText]
      · rw [if_pos known, ih]
      all_goals
        intros
        exact other ‹_›
  | code value _ ih =>
      simp only [backslash, letterU, List.cons_append]
      rw [Json.skipText, value, ok_bind, ih]

theorem Document.splitText_quoted {raw : Bytes} (quoted : Quoted raw) (rest : Bytes) :
    splitText (raw ++ rest) = (raw, rest) := by
  rw [splitText, quoted.skipText]
  simp

theorem scanDigits_append {digits rest : Bytes} (all : ∀ b ∈ digits, isDigit b = true)
    (stops : ∀ b ∈ rest.head?, isDigit b = false) :
    scanDigits (digits ++ rest) = (digitValues digits, rest) := by
  induction digits with
  | nil =>
      cases rest with
      | nil => rfl
      | cons b tail => simp [scanDigits, stops b rfl, digitValues]
  | cons b tail ih =>
      have next := ih fun c member => all c (List.mem_cons_of_mem _ member)
      rw [List.cons_append, scanDigits, if_pos (all b List.mem_cons_self), next]
      rfl

theorem Digits.head {digits : Bytes} (proper : Digits digits) (rest : Bytes) :
    ∃ b tail, digits ++ rest = b :: tail ∧ isDigit b = true := by
  obtain ⟨b, tail, rfl⟩ := List.exists_cons_of_ne_nil proper.1
  exact ⟨b, _, rfl, proper.2 b List.mem_cons_self⟩

theorem Digits.values_ne {digits : Bytes} (proper : Digits digits) : digitValues digits ≠ [] := by
  simpa [digitValues] using proper.1

/-- A whole part has none of the two forms that end a number early. -/
theorem Whole.values {whole : Bytes} (unpadded : Whole whole) :
    digitValues whole ≠ [] ∧ ∀ d others, digitValues whole ≠ 0 :: d :: others := by
  obtain ⟨proper, zero⟩ := unpadded
  refine ⟨proper.values_ne, ?_⟩
  intro d others padded
  obtain ⟨b, tail, rfl⟩ := List.exists_cons_of_ne_nil proper.1
  have digit := proper.2 b List.mem_cons_self
  obtain ⟨zeroed, longer⟩ := List.cons.inj padded
  have front : b = 0x30 := by
    simp only [isDigit, Bool.and_eq_true, decide_eq_true_eq, UInt8.le_iff_toNat_le] at digit
    have low : 48 ≤ b.toNat := digit.1
    have high : b.toNat ≤ 48 := Nat.le_of_sub_eq_zero zeroed
    exact UInt8.toNat_inj.mp (Nat.le_antisymm high low)
  obtain rfl := (List.cons.inj (zero (congrArg Option.some front))).2
  cases longer

section Whole

variable {whole text tail : Bytes} (scanned : scanDigits text = (digitValues whole, tail))
  (unpadded : Whole whole)

include scanned unpadded

theorem scanNumber_minus : scanNumber (0x2D :: text) =
    scanFraction ⟨true, digitValues whole, none, none⟩ tail := by
  obtain ⟨filled, long⟩ := unpadded.values
  simp only [scanNumber, beq_self_eq_true, if_true, scanned]

theorem scanNumber_bare (front : ∃ b more, text = b :: more ∧ isDigit b = true) :
    scanNumber text = scanFraction ⟨false, digitValues whole, none, none⟩ tail := by
  obtain ⟨filled, long⟩ := unpadded.values
  obtain ⟨b, more, rfl, digit⟩ := front
  have unsigned : (b == 0x2D) = false := by
    rw [beq_eq_false_iff_ne]
    rintro rfl
    cases digit
  simp only [scanNumber, unsigned, if_neg Bool.false_ne_true, scanned]

end Whole

section Numbers

variable {rest : Bytes} (follows : Follows rest)

include follows

theorem Follows.stops : ∀ b ∈ rest.head?, isDigit b = false := by
  intro b member
  cases rest with
  | nil => cases member
  | cons c tail =>
      obtain rfl := Option.some.inj member
      exact follows.ends_number.1

theorem scanExponent_append {negative : Bool} {whole : List Nat} {fraction : Option (List Nat)}
    {exponent : Option (Bool × List Nat)} {power : Bytes} (raised : Exponent exponent power) :
    scanExponent ⟨negative, whole, fraction, none⟩ (power ++ rest) =
      (⟨negative, whole, fraction, exponent⟩, .complete, rest) := by
  cases raised with
  | absent =>
      cases rest with
      | nil => rfl
      | cons b tail =>
          obtain ⟨-, -, small, large⟩ := follows.ends_number
          simp [scanExponent, small, large]
  | @power e down sign digits letter signed proper =>
      have scanned := scanDigits_append proper.2 follows.stops
      have marked : (e == 0x65 || e == 0x45) = true := by
        simpa using letter
      have split : scanSign (sign ++ (digits ++ rest)) = (down, digits ++ rest) := by
        cases signed with
        | absent =>
            obtain ⟨b, tail, rfl⟩ := List.exists_cons_of_ne_nil proper.1
            have digit := proper.2 b List.mem_cons_self
            have plain : b ≠ 0x2D ∧ b ≠ 0x2B := by
              constructor <;> rintro rfl <;> cases digit
            simp [scanSign, plain]
        | plus => rfl
        | minus => rfl
      rw [List.cons_append, scanExponent, if_pos marked, List.append_assoc, split]
      cases values : digitValues digits with
      | nil => exact absurd values proper.values_ne
      | cons d others => simp only [scanned, values]

/-- What stands behind the whole part of a number does not begin with a digit. -/
theorem stops_fraction {fraction : Option (List Nat)} {exponent : Option (Bool × List Nat)}
    {point power : Bytes} (pointed : Fraction fraction point) (raised : Exponent exponent power) :
    ∀ b ∈ (point ++ (power ++ rest)).head?, isDigit b = false := by
  cases pointed with
  | point proper =>
      rintro b ⟨⟩
      rfl
  | absent =>
      cases raised with
      | absent => exact follows.stops
      | power letter signed proper =>
          rintro b ⟨⟩
          rcases letter with rfl | rfl <;> rfl

theorem scanFraction_append {negative : Bool} {whole : List Nat} {fraction : Option (List Nat)}
    {exponent : Option (Bool × List Nat)} {point power : Bytes} (pointed : Fraction fraction point)
    (raised : Exponent exponent power) :
    scanFraction ⟨negative, whole, none, none⟩ (point ++ (power ++ rest)) =
      (⟨negative, whole, fraction, exponent⟩, .complete, rest) := by
  cases pointed with
  | absent =>
      rw [List.nil_append]
      have scanned : scanExponent ⟨negative, whole, none, none⟩ (power ++ rest) = _ :=
        scanExponent_append follows raised
      cases front : power ++ rest with
      | nil => rw [front] at scanned; exact scanned
      | cons b tail =>
          have other : (b == 0x2E) = false := by
            rw [beq_eq_false_iff_ne]
            cases raised with
            | absent =>
                obtain rfl : rest = b :: tail := front
                exact follows.ends_number.2.1
            | power letter signed proper =>
                obtain ⟨rfl, -⟩ := List.cons.inj front
                rcases letter with rfl | rfl <;> decide
          rw [front] at scanned
          rw [scanFraction, other, if_neg Bool.false_ne_true, scanned]
  | @point digits proper =>
      have stops : ∀ b ∈ (power ++ rest).head?, isDigit b = false :=
        stops_fraction follows .absent raised
      have scanned := scanDigits_append proper.2 stops
      rw [List.cons_append, scanFraction, if_pos (beq_self_eq_true _)]
      cases values : digitValues digits with
      | nil => exact absurd values proper.values_ne
      | cons d others =>
          simp only [scanned, values]
          exact scanExponent_append follows raised

theorem scanNumber_append {number : NumberText} {text : Bytes} (numeral : Numeral number text) :
    scanNumber (text ++ rest) = (number, .complete, rest) := by
  cases numeral with
  | negative size =>
      obtain ⟨unpadded, pointed, raised⟩ := size
      have scanned := scanDigits_append unpadded.1.2 (stops_fraction follows pointed raised)
      rw [List.cons_append, List.append_assoc, List.append_assoc, scanNumber_minus scanned unpadded]
      exact scanFraction_append follows pointed raised
  | positive size =>
      obtain ⟨unpadded, pointed, raised⟩ := size
      have scanned := scanDigits_append unpadded.1.2 (stops_fraction follows pointed raised)
      rw [List.append_assoc, List.append_assoc,
        scanNumber_bare scanned unpadded (unpadded.1.head _)]
      exact scanFraction_append follows pointed raised

end Numbers

theorem Numeral.head {number : NumberText} {text : Bytes} (numeral : Numeral number text) :
    ∃ b tail, text = b :: tail ∧ (b = 0x2D ∨ isDigit b = true) := by
  cases numeral with
  | negative size => exact ⟨_, _, rfl, .inl rfl⟩
  | positive size =>
      obtain ⟨unpadded, -, -⟩ := size
      obtain ⟨b, tail, same, digit⟩ := unpadded.1.head _
      exact ⟨b, tail, same, .inr digit⟩

theorem Numeral.decimal {number : NumberText} {text : Bytes} (numeral : Numeral number text) :
    ∀ d ∈ number.whole, d < 10 := by
  have decimal {digits : Bytes} (proper : Digits digits) : ∀ d ∈ digitValues digits, d < 10 := by
    intro d member
    obtain ⟨b, own, rfl⟩ := List.mem_map.mp member
    have digit := proper.2 b own
    simp only [isDigit, Bool.and_eq_true, decide_eq_true_eq, UInt8.le_iff_toNat_le] at digit
    exact Nat.sub_lt_right_of_lt_add digit.1 (Nat.lt_succ_of_le digit.2)
  cases numeral with
  | positive size | negative size =>
      obtain ⟨unpadded, -, -⟩ := size
      exact decimal unpadded.1

/-! ## Scanning values -/

namespace Spelling

/-- A value begins with something that neither is blank nor closes a list. -/
theorem head {node : Node} {text : Bytes} (spelled : Spelling (.node node) text) :
    ∃ b tail, text = b :: tail ∧ Document.isSpace b = false ∧ b ≠ 0x5D := by
  cases spelled with
  | number numeral =>
      obtain ⟨b, tail, rfl, rfl | digit⟩ := numeral.head
      · exact ⟨_, tail, rfl, rfl, by decide⟩
      · refine ⟨b, tail, rfl, ?_, ?_⟩
        · cases blank : Document.isSpace b with
          | false => rfl
          | true =>
              have follows : Follows (b :: tail) := .cons (.inl blank)
              have other := follows.ends_number.1
              rw [digit] at other
              cases other
        · rintro rfl
          cases digit
  | _ => exact ⟨_, _, rfl, rfl, by decide⟩

theorem length_pos {part : Part} {text : Bytes} (spelled : Spelling part text) :
    0 < text.length := by
  cases spelled with
  | number numeral =>
      obtain ⟨b, tail, rfl, -⟩ := numeral.head
      exact Nat.succ_pos _
  | endItems | endMembers => simp
  | item apart value rest =>
      obtain ⟨b, tail, rfl, -⟩ := value.head
      simp only [List.length_append, List.length_cons]
      omega
  | member =>
      simp only [List.length_append, List.length_cons]
      omega
  | _ => exact Nat.succ_pos _

end Spelling

namespace Document

variable {fuel : Nat} {rest : Bytes}

theorem scanNode_blank {blanks : Bytes} (blank : Blank blanks) (text : Bytes) :
    scanNode fuel (blanks ++ text) = scanNode fuel text := by
  cases fuel with
  | zero => rfl
  | succ fuel => rw [scanNode, scanNode, skipSpace_append blank]

theorem scanNode_number {number : NumberText} {text : Bytes} (numeral : Numeral number text)
    (follows : Follows rest) :
    scanNode (fuel + 1) (text ++ rest) = (.number number .complete, rest) := by
  have scanned := scanNumber_append follows numeral
  have solid := (Spelling.number numeral).head
  obtain ⟨b, tail, rfl, front⟩ := numeral.head
  obtain ⟨_, _, same, solid, -⟩ := solid
  obtain ⟨rfl, rfl⟩ := List.cons.inj same
  have other {c : UInt8} (far : c ≠ 0x2D ∧ isDigit c = false) : (b == c) = false := by
    rw [beq_eq_false_iff_ne]
    rintro rfl
    rcases front with minus | digit
    · exact far.1 minus
    · rw [far.2] at digit
      cases digit
  have first : (b == 0x2D || isDigit b) = true := by simpa using front
  rw [List.cons_append] at scanned ⊢
  rw [scanNode, skipSpace_cons solid]
  simp only [other (c := quote) (by decide), other (c := 0x5B) (by decide), opensRecord,
    other (c := 0x7B) (by decide), other (c := 0x6E) (by decide), other (c := 0x74) (by decide),
    other (c := 0x66) (by decide), first, scanned, Bool.false_eq_true, if_false, if_true,
    beq_self_eq_true]

theorem scanNode_text {raw : Bytes} (quoted : Quoted raw) :
    scanNode (fuel + 1) (quote :: (raw ++ rest)) = (.text raw, rest) := by
  rw [scanNode, skipSpace_cons rfl]
  simp only [beq_self_eq_true, if_true, splitText_quoted quoted]

theorem scanNode_list {text : Bytes} {items : Items}
    (scanned : scanItems fuel true text = (items, rest)) :
    scanNode (fuel + 1) (0x5B :: text) = (.list items, rest) := by
  rw [scanNode, skipSpace_cons rfl]
  simp [quote, scanned]

theorem scanNode_record {text : Bytes} {members : Members}
    (scanned : scanMembers fuel true text = (members, rest)) :
    scanNode (fuel + 1) (0x7B :: text) = (.record members, rest) := by
  rw [scanNode, skipSpace_cons rfl]
  simp [quote, opensRecord, scanned]

section Lists

variable {first : Bool} {gap blanks : Bytes}

section Advance

variable {α : Type} (close : UInt8) (stop : ListStop → α) (scan : Bytes → α × Bytes)

/-- The way to the next item or member, which `scan` takes, or to the closing bracket. -/
def advance (first : Bool) (text : Bytes) : α × Bytes :=
  match skipSpace text with
  | [] => (stop .cut, [])
  | b :: rest =>
      if b == close then (stop .closed, rest)
      else if first then scan (b :: rest)
      else if b == 0x2C then
        match skipSpace rest with
        | [] => (stop .cutAfterComma, [])
        | c :: rest => if c == close then (stop .danglingComma, []) else scan (c :: rest)
      else (stop .noComma, [])

theorem advance_end (solid : isSpace close = false) (blank : Blank blanks) :
    advance close stop scan first (blanks ++ close :: rest) = (stop .closed, rest) := by
  rw [advance, skipSpace_append blank, skipSpace_cons solid]
  simp

theorem advance_gap {b : UInt8} {tail : Bytes} (apart : Gap first gap) (solid : isSpace b = false)
    (opens : b ≠ close) (bracket : close ≠ 0x2C) :
    advance close stop scan first (gap ++ b :: tail) = scan (b :: tail) := by
  cases apart with
  | opening blank =>
      rw [advance, skipSpace_append blank, skipSpace_cons solid]
      simp [opens]
  | comma ahead behind =>
      rw [List.append_assoc, List.cons_append, advance, skipSpace_append ahead, skipSpace_cons rfl]
      simp [skipSpace_append behind, skipSpace_cons solid, opens, bracket.symm]

end Advance

theorem scanItems_succ (text : Bytes) :
    scanItems (fuel + 1) first text = advance 0x5D .stop (scanItem fuel) first text := rfl

theorem scanMembers_succ (text : Bytes) :
    scanMembers (fuel + 1) first text = advance 0x7D .stop (scanMember fuel) first text := rfl

theorem scanItem_eq {text middle : Bytes} {node : Node} {items : Items}
    (one : scanNode fuel text = (node, middle))
    (others : scanItems fuel false middle = (items, rest)) :
    scanItem (fuel + 1) text = (.item node items, rest) := by
  simp only [scanItem, one, others]

theorem scanMember_eq {key before after text middle : Bytes} {node : Node} {members : Members}
    (quoted : Quoted key) (ahead : Blank before) (behind : Blank after)
    (one : scanNode fuel text = (node, middle))
    (others : scanMembers fuel false middle = (members, rest)) :
    scanMember (fuel + 1) (quote :: (key ++ (before ++ 0x3A :: (after ++ text)))) =
      (.member key node members, rest) := by
  simp only [scanMember, beq_self_eq_true, if_true, splitText_quoted quoted, skipSpace_append ahead,
    skipSpace_cons (b := 0x3A) rfl, scanNode_blank behind, one, others]

end Lists

end Document

/-- The part is scanned off the front of a text, three calls being made for a byte. -/
def Part.Scans (text : Bytes) : Part → Prop
  | .node found => ∀ fuel rest, Follows rest → 3 * text.length ≤ fuel →
      Document.scanNode fuel (text ++ rest) = (found, rest)
  | .items first found => ∀ fuel rest, 3 * text.length ≤ fuel →
      Document.scanItems fuel first (text ++ rest) = (found, rest)
  | .members first found => ∀ fuel rest, 3 * text.length ≤ fuel →
      Document.scanMembers fuel first (text ++ rest) = (found, rest)

open Document in
/-- For an item one call finds it, one takes it with what comes behind it, and one reads its value; so
it is for a member. -/
theorem Spelling.scans {part : Part} {text : Bytes} (spelled : Spelling part text) :
    part.Scans text := by
  induction spelled with
  | null | yes | no =>
      intro fuel rest _ enough
      obtain ⟨fuel, rfl⟩ : ∃ less, fuel = less + 1 := ⟨fuel - 1, by simp at enough; omega⟩
      rfl
  | number numeral =>
      intro fuel rest follows enough
      have positive := (Spelling.number numeral).length_pos
      obtain ⟨fuel, rfl⟩ : ∃ less, fuel = less + 1 := ⟨fuel - 1, by omega⟩
      exact scanNode_number numeral follows
  | text quoted =>
      intro fuel rest _ enough
      obtain ⟨fuel, rfl⟩ : ∃ less, fuel = less + 1 := ⟨fuel - 1, by simp at enough; omega⟩
      exact scanNode_text quoted
  | list inside ih =>
      intro fuel rest _ enough
      rw [List.length_cons] at enough
      obtain ⟨fuel, rfl⟩ : ∃ less, fuel = less + 1 := ⟨fuel - 1, by omega⟩
      exact scanNode_list (ih fuel rest (by omega))
  | record inside ih =>
      intro fuel rest _ enough
      rw [List.length_cons] at enough
      obtain ⟨fuel, rfl⟩ : ∃ less, fuel = less + 1 := ⟨fuel - 1, by omega⟩
      exact scanNode_record (ih fuel rest (by omega))
  | endItems blank =>
      intro fuel rest enough
      rw [List.length_append, List.length_singleton] at enough
      obtain ⟨fuel, rfl⟩ : ∃ less, fuel = less + 1 := ⟨fuel - 1, by omega⟩
      rw [List.append_assoc, scanItems_succ]
      exact advance_end _ _ _ rfl blank
  | endMembers blank =>
      intro fuel rest enough
      rw [List.length_append, List.length_singleton] at enough
      obtain ⟨fuel, rfl⟩ : ∃ less, fuel = less + 1 := ⟨fuel - 1, by omega⟩
      rw [List.append_assoc, scanMembers_succ]
      exact advance_end _ _ _ rfl blank
  | @item first gap text more node items apart value others node_ih items_ih =>
      intro fuel rest enough
      have positive := value.length_pos
      have follows : Follows (more ++ rest) := .of_spelling others (.inl ⟨items, rfl⟩)
      have last := others.length_pos
      simp only [List.length_append] at enough
      obtain ⟨fuel, rfl⟩ : ∃ less, fuel = less + 2 := ⟨fuel - 2, by omega⟩
      have one := node_ih fuel (more ++ rest) follows (by omega)
      have rest := scanItem_eq one (items_ih fuel rest (by omega))
      obtain ⟨b, tail, rfl, solid, unclosed⟩ := value.head
      simp only [List.append_assoc, List.cons_append] at rest ⊢
      rw [scanItems_succ, advance_gap _ _ _ apart solid unclosed (by decide), rest]
  | @member first gap key before after text more node members apart quoted ahead behind value others
      node_ih members_ih =>
      intro fuel rest enough
      have positive := value.length_pos
      have follows : Follows (more ++ rest) := .of_spelling others (.inr ⟨members, rfl⟩)
      have last := others.length_pos
      simp only [List.length_append, List.length_cons] at enough
      obtain ⟨fuel, rfl⟩ : ∃ less, fuel = less + 2 := ⟨fuel - 2, by omega⟩
      have one := node_ih fuel (more ++ rest) follows (by omega)
      have rest := scanMember_eq quoted ahead behind one (members_ih fuel rest (by omega))
      simp only [List.append_assoc, List.cons_append]
      rw [scanMembers_succ, advance_gap _ _ _ apart rfl (by decide) (by decide), rest]

def Part.skip : Part → Except Fault Unit
  | .node found => found.skip
  | .items _ found => found.skip
  | .members _ found => found.skip

/-- What is JSON is passed over. -/
theorem Spelling.skip_eq {part : Part} {text : Bytes} (spelled : Spelling part text) :
    part.skip = .ok () := by
  induction spelled with
  | null | yes | no | number | endItems | endMembers => rfl
  | text quoted =>
      have passed := quoted.skipText []
      rw [List.append_nil] at passed
      rw [Part.skip, Node.skip, passed]
      rfl
  | list _ ih => exact ih
  | record _ ih => exact ih
  | @item _ _ _ _ node items _ _ _ value rest =>
      have one : node.skip = .ok () := value
      have others : items.skip = .ok () := rest
      show (Items.item node items).skip = .ok ()
      rw [Items.skip, one, ok_bind, others]
  | @member _ _ key _ _ _ _ node members _ quoted _ _ _ _ value rest =>
      have passed := quoted.skipText []
      rw [List.append_nil] at passed
      have one : node.skip = .ok () := value
      have others : members.skip = .ok () := rest
      show (Members.member key node members).skip = .ok ()
      rw [Members.skip, passed, ok_bind, one, ok_bind, others]

namespace Denotes

variable {text : Bytes} {node : Node} (denotes : Denotes text node)

include denotes

theorem of_eq {other : Bytes} (same : other = text) : Denotes other node := same ▸ denotes

/-- A text of the grammar is scanned whole, as the shape that it denotes. -/
theorem parse_eq : Document.parse text = ⟨node, false⟩ := by
  obtain ⟨ahead, value, behind⟩ := denotes
  next before text after =>
  have follows : Follows after := by
    rw [← List.append_nil after]
    exact .blank_append behind .nil
  have scanned := value.scans (3 * (before ++ (text ++ after)).length + 3) after follows
    (by simp only [List.length_append]; omega)
  rw [Document.parse, Document.scanNode_blank ahead, scanned]
  simp only [Document.skipSpace_blank behind, List.isEmpty_nil, Bool.not_true]

theorem skip_eq : node.skip = .ok () := by
  obtain ⟨-, value, -⟩ := denotes
  exact value.skip_eq

theorem decode_eq {α : Type} (codec : Codec α) : codec.decode text = codec.read node := by
  rw [Codec.decode, denotes.parse_eq]
  cases codec.read node <;> rfl

end Denotes

end CardGateway.Json
