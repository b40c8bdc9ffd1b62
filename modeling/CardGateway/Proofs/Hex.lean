import CardGateway.Proofs.Faults
import CardGateway.Proofs.Utf8
import CardGateway.Text.Blank
import CardGateway.Text.Hex

/-!
# Hexadecimal texts and their bytes

A text is read as some bytes exactly if it is their digits, in upper case or lower. Otherwise the first
thing amiss is named.
-/

namespace CardGateway.Text.Hex

/-- What holds of all numbers below a limit holds of the bytes below it. -/
theorem of_table {P : UInt8 → Prop} {limit : Nat} (table : ∀ k < limit, P k.toUInt8) {b : UInt8}
    (small : b.toNat < limit) : P b := by
  have row := table b.toNat small
  rwa [show b.toNat.toUInt8 = b from UInt8.ofNat_toNat] at row

theorem upperDigit_plain {n : UInt8} (small : n < 16) :
    isBlank (upperDigit n) = false ∧ (upperDigit n).toUpper = upperDigit n := by
  have table : ∀ k < 16, isBlank (upperDigit k.toUInt8) = false ∧
      (upperDigit k.toUInt8).toUpper = upperDigit k.toUInt8 := by decide
  have small : n.toNat < 16 := UInt8.lt_iff_toNat_lt.mp small
  exact of_table (P := fun n => isBlank (upperDigit n) = false ∧
    (upperDigit n).toUpper = upperDigit n) table small

theorem halves (b : UInt8) : b / 16 < 16 ∧ b % 16 < 16 ∧ b / 16 * 16 + b % 16 = b := by
  have small := b.toNat_lt
  refine ⟨?_, ?_, ?_⟩
  · rw [UInt8.lt_iff_toNat_lt, UInt8.toNat_div]
    show b.toNat / 16 < 16
    omega
  · rw [UInt8.lt_iff_toNat_lt, UInt8.toNat_mod]
    show b.toNat % 16 < 16
    omega
  · rw [← UInt8.toNat_inj, UInt8.toNat_add, UInt8.toNat_mul, UInt8.toNat_div, UInt8.toNat_mod]
    show (b.toNat / 16 * 16 % 256 + b.toNat % 16) % 256 = b.toNat
    omega

theorem digitValue_lt {b n : UInt8} (digit : digitValue b = some n) : n < 16 := by
  have table : ∀ k < 256, ∀ n ∈ digitValue k.toUInt8, n < 16 := by decide +kernel
  exact of_table (P := fun b => ∀ n ∈ digitValue b, n < 16) table b.toNat_lt n digit

/-- A byte is put together from two digits, which are its halves. -/
theorem eq_halves_iff {h l b : UInt8} (high : h < 16) (low : l < 16) :
    h * 16 + l = b ↔ b / 16 = h ∧ b % 16 = l := by
  constructor
  · rintro rfl
    rw [UInt8.lt_iff_toNat_lt] at high low
    constructor
    · rw [← UInt8.toNat_inj, UInt8.toNat_div, UInt8.toNat_add, UInt8.toNat_mul]
      show (h.toNat * 16 % 256 + l.toNat) % 256 / 16 = h.toNat
      have : h.toNat < 16 := high
      have : l.toNat < 16 := low
      omega
    · rw [← UInt8.toNat_inj, UInt8.toNat_mod, UInt8.toNat_add, UInt8.toNat_mul]
      show (h.toNat * 16 % 256 + l.toNat) % 256 % 16 = l.toNat
      have : h.toNat < 16 := high
      have : l.toNat < 16 := low
      omega
  · rintro ⟨rfl, rfl⟩
    exact (halves b).2.2

def halvesOf (bytes : Bytes) : List UInt8 := bytes.flatMap fun b => [b / 16, b % 16]

theorem halvesOf_small {bytes : Bytes} {n : UInt8} (member : n ∈ halvesOf bytes) : n < 16 := by
  obtain ⟨b, -, half⟩ := List.mem_flatMap.mp member
  obtain ⟨high, low, -⟩ := halves b
  simp only [List.mem_cons, List.not_mem_nil, or_false] at half
  rcases half with rfl | rfl
  · exact high
  · exact low

theorem halvesOf_length (bytes : Bytes) : (halvesOf bytes).length = 2 * bytes.length := by
  induction bytes with
  | nil => rfl
  | cons b rest ih =>
      have split : halvesOf (b :: rest) = b / 16 :: b % 16 :: halvesOf rest := rfl
      rw [split, List.length_cons, List.length_cons, List.length_cons, ih]
      omega

/-- A byte that is no digit stands in no digits. -/
theorem not_digits {text bytes : Bytes} {b : UInt8} (member : b ∈ text)
    (stray : digitValue b = none) : text.map digitValue ≠ (halvesOf bytes).map some := by
  intro same
  obtain ⟨n, -, digit⟩ := List.mem_map.mp (same ▸ List.mem_map_of_mem member)
  cases digit.trans stray

/-- A pair of digits stands in front of pairs. -/
theorem decodePairs_cons {position : Nat} {high low h l : UInt8} {rest : Bytes}
    (first : digitValue high = some h) (second : digitValue low = some l) :
    decodePairs position (high :: low :: rest) =
      (decodePairs (position + 2) rest).map ((h * 16 + l) :: ·) := by
  simp only [decodePairs, first, second]
  cases decodePairs (position + 2) rest <;> rfl

theorem decodePairs_short {text : Bytes} (even : text.length % 2 = 0)
    (single : ∀ high low rest, text = high :: low :: rest → False) : text = [] := by
  obtain _ | ⟨high, _ | ⟨low, rest⟩⟩ := text
  · rfl
  · cases even
  · exact (single high low rest rfl).elim

theorem decodePairs_eq_ok_iff {position : Nat} {text bytes : Bytes} (even : text.length % 2 = 0) :
    decodePairs position text = .ok bytes ↔ text.map digitValue = (halvesOf bytes).map some := by
  induction position, text using decodePairs.induct generalizing bytes with
  | case1 position high low rest h first l second ih =>
      have even : rest.length % 2 = 0 := by
        simp only [List.length_cons] at even
        omega
      rw [decodePairs_cons first second, List.map_cons, List.map_cons, first, second]
      cases bytes with
      | nil =>
          refine iff_of_false (fun read => ?_) nofun
          cases found : decodePairs (position + 2) rest <;> rw [found] at read <;> cases read
      | cons b more =>
          have pair := eq_halves_iff (b := b) (digitValue_lt first) (digitValue_lt second)
          have written : (halvesOf (b :: more)).map some =
            some (b / 16) :: some (b % 16) :: (halvesOf more).map some := rfl
          rw [written, List.cons.injEq, List.cons.injEq, ← ih even, Option.some.injEq,
            Option.some.injEq, ← and_assoc, eq_comm (a := h), eq_comm (a := l), ← pair]
          cases decodePairs (position + 2) rest <;> simp [Except.map]
  | case2 position high low rest h first second =>
      have stray := Option.eq_none_iff_forall_not_mem.mpr fun l digit => second l digit
      refine iff_of_false (by simp [decodePairs, first, stray]) ?_
      exact not_digits (List.mem_cons_of_mem high List.mem_cons_self) stray
  | case3 position high low rest first =>
      have stray := Option.eq_none_iff_forall_not_mem.mpr fun h digit => first h digit
      exact iff_of_false (by simp [decodePairs, stray]) (not_digits List.mem_cons_self stray)
  | case4 text position single =>
      obtain rfl := decodePairs_short even single
      cases bytes with
      | nil => exact iff_of_true rfl rfl
      | cons b more => exact iff_of_false nofun nofun

/-- A text is read if each of its bytes is the digit that stands in its place. -/
theorem decode_eq_ok_iff_digits {text bytes : Bytes} :
    decode text = .ok bytes ↔ text.map digitValue = (halvesOf bytes).map some := by
  unfold decode
  split
  · next odd =>
      refine iff_of_false nofun fun same => ?_
      have length := congrArg List.length same
      rw [List.length_map, List.length_map] at length
      have even := halvesOf_length bytes
      omega
  · next even => exact decodePairs_eq_ok_iff (by omega)

theorem digitValue_high {b : UInt8} (high : 0x80 ≤ b.toNat) : digitValue b = none := by
  have table : ∀ k < 256, 0x80 ≤ k.toUInt8.toNat → digitValue k.toUInt8 = none := by
    decide +kernel
  exact of_table (P := fun b => 0x80 ≤ b.toNat → digitValue b = none) table b.toNat_lt high

theorem toUpper_high {c : Char} (high : 0x80 ≤ c.toNat) : c.toUpper = c := by
  have beyond : ¬ (c.val ≥ 'a'.val ∧ c.val ≤ 'z'.val) := by
    rintro ⟨-, above⟩
    have : c.toNat ≤ 122 := above
    omega
  unfold Char.toUpper
  exact dif_neg beyond

/-- A character is read as the digit that its upper case is. -/
theorem digitValue_encodeChar_iff {c : Char} {n : UInt8} (small : n < 16) :
    (Utf8.encodeChar c).map digitValue = [some n] ↔ c.toUpper = upperDigit n := by
  have small : n.toNat < 16 := UInt8.lt_iff_toNat_lt.mp small
  by_cases ascii : c.toNat < 0x80
  · have table : ∀ k < 0x80, ∀ n < 16, ((Utf8.encodeChar (Char.ofNat k)).map digitValue =
        [some n.toUInt8] ↔ (Char.ofNat k).toUpper = upperDigit n.toUInt8) := by decide +kernel
    rw [← Char.ofNat_toNat c]
    exact of_table (P := fun n => (Utf8.encodeChar (Char.ofNat c.toNat)).map digitValue = [some n] ↔
      (Char.ofNat c.toNat).toUpper = upperDigit n) (table c.toNat ascii) small
  · have table : ∀ n < 16, (upperDigit n.toUInt8).toNat < 0x80 := by decide
    have row := of_table (P := fun n => (upperDigit n).toNat < 0x80) table small
    refine iff_of_false (fun same => ?_) fun same => ?_
    · obtain ⟨b, member, digit⟩ := List.mem_map.mp (same ▸ List.mem_singleton_self _)
      have high := Utf8.high_of_mem_encodeChar (Nat.not_lt.mp ascii) member
      cases digit.symm.trans (digitValue_high high)
    · rw [toUpper_high (Nat.not_lt.mp ascii)] at same
      rw [same] at ascii
      exact ascii row

theorem encodeChar_one_or_high (c : Char) : (∃ b, Utf8.encodeChar c = [b]) ∨
    ∃ b rest, Utf8.encodeChar c = b :: rest ∧ 0x80 ≤ b.toNat := by
  by_cases ascii : c.toNat < 0x80
  · exact .inl ⟨c.toNat.toUInt8, if_pos ascii⟩
  · cases written : Utf8.encodeChar c with
    | nil =>
        unfold Utf8.encodeChar at written
        dsimp only at written
        repeat' split at written
        all_goals cases written
    | cons b rest =>
        have high := Utf8.high_of_mem_encodeChar (Nat.not_lt.mp ascii) (b := b)
        exact .inr ⟨b, rest, rfl, high (written ▸ List.mem_cons_self)⟩

/-- A digit in front of digits is a whole character. -/
theorem digitValue_encodeChar_append_iff {c : Char} {n : UInt8} {rest : Bytes}
    {digits : List UInt8} :
    (Utf8.encodeChar c ++ rest).map digitValue = (n :: digits).map some ↔
      (Utf8.encodeChar c).map digitValue = [some n] ∧
        rest.map digitValue = digits.map some := by
  rcases encodeChar_one_or_high c with ⟨b, written⟩ | ⟨b, more, written, high⟩
  · simp [written]
  · simp [written, digitValue_high high]

theorem flatMap_encodeChar_eq_digits_iff {text : List Char} {digits : List UInt8}
    (small : ∀ n ∈ digits, n < 16) :
    (text.flatMap Utf8.encodeChar).map digitValue = digits.map some ↔
      text.map Char.toUpper = digits.map upperDigit := by
  induction text generalizing digits with
  | nil => cases digits <;> simp
  | cons c rest ih =>
      cases digits with
      | nil =>
          refine iff_of_false ?_ nofun
          rcases encodeChar_one_or_high c with ⟨b, written⟩ | ⟨b, more, written, -⟩ <;>
            simp [written]
      | cons n digits =>
          obtain ⟨first, others⟩ := List.forall_mem_cons.mp small
          rw [List.flatMap_cons, digitValue_encodeChar_append_iff, digitValue_encodeChar_iff first,
            ih others, List.map_cons, List.map_cons, List.cons.injEq]

theorem encodeUpper_toList (bytes : Bytes) :
    (encodeUpper bytes).toList = (halvesOf bytes).map upperDigit := by
  rw [encodeUpper, encodeWith, String.toList_ofList, halvesOf, List.map_flatMap]
  rfl

/-- A text is read as the bytes whose digits it is, in either case. -/
theorem decode_eq_ok_iff {text : String} {bytes : Bytes} :
    decode (Utf8.encode text) = .ok bytes ↔ text.toUpper = encodeUpper bytes := by
  rw [decode_eq_ok_iff_digits, Utf8.encode, flatMap_encodeChar_eq_digits_iff fun n => halvesOf_small,
    ← String.toList_inj, encodeUpper_toList, String.toUpper, String.toList_map]

/-- A byte is the first of a text that is no digit, with so many digits before it. -/
inductive StrayAt (b : UInt8) : Nat → Bytes → Prop where
  | first {rest : Bytes} (stray : digitValue b = none) : StrayAt b 0 (b :: rest)
  | behind {d n : UInt8} {count : Nat} {rest : Bytes} (digit : digitValue d = some n)
      (later : StrayAt b count rest) : StrayAt b (count + 1) (d :: rest)

/-- What keeps a text from being read: an odd number of bytes, or else the first that is no digit. -/
inductive Misspelled (text : Bytes) : Fault → Prop where
  | oddLength (odd : text.length % 2 = 1) : Misspelled text .oddLength
  | digit {b : UInt8} {position : Nat} (even : text.length % 2 = 0)
      (stray : StrayAt b position text) : Misspelled text (.digit b position)

theorem StrayAt.cons_stray_iff {b c : UInt8} {count : Nat} {rest : Bytes}
    (stray : digitValue c = none) : StrayAt b count (c :: rest) ↔ b = c ∧ count = 0 := by
  constructor
  · intro found
    cases found with
    | first => exact ⟨rfl, rfl⟩
    | behind digit => cases stray.symm.trans digit
  · rintro ⟨rfl, rfl⟩
    exact .first stray

theorem StrayAt.cons_digit_iff {b d n : UInt8} {count : Nat} {rest : Bytes}
    (digit : digitValue d = some n) :
    StrayAt b count (d :: rest) ↔ ∃ less, count = less + 1 ∧ StrayAt b less rest := by
  constructor
  · intro found
    cases found with
    | first stray => cases stray.symm.trans digit
    | behind _ later => exact ⟨_, rfl, later⟩
  · rintro ⟨less, rfl, later⟩
    exact .behind digit later

theorem decodePairs_eq_error_iff {position : Nat} {text : Bytes} {fault : Fault}
    (even : text.length % 2 = 0) :
    decodePairs position text = .error fault ↔
      ∃ b count, StrayAt b count text ∧ fault = .digit b (position + count) := by
  induction position, text using decodePairs.induct with
  | case1 position high low rest h first l second ih =>
      have even : rest.length % 2 = 0 := by
        simp only [List.length_cons] at even
        omega
      have later : decodePairs position (high :: low :: rest) = .error fault ↔
          decodePairs (position + 2) rest = .error fault := by
        rw [decodePairs_cons first second]
        cases decodePairs (position + 2) rest <;> simp [Except.map]
      rw [later, ih even]
      simp only [StrayAt.cons_digit_iff first, StrayAt.cons_digit_iff second]
      constructor
      · rintro ⟨b, count, stray, rfl⟩
        refine ⟨b, count + 2, ⟨count + 1, rfl, count, rfl, stray⟩, ?_⟩
        rw [Nat.add_assoc, Nat.add_comm 2]
      · rintro ⟨b, _, ⟨_, rfl, count, rfl, stray⟩, rfl⟩
        refine ⟨b, count, stray, ?_⟩
        rw [Nat.add_assoc position 2, Nat.add_comm 2]
  | case2 position high low rest h first second =>
      have stray := Option.eq_none_iff_forall_not_mem.mpr fun l digit => second l digit
      have read : decodePairs position (high :: low :: rest) = .error (.digit low (position + 1)) := by
        simp [decodePairs, first, stray]
      simp only [read, StrayAt.cons_digit_iff first, StrayAt.cons_stray_iff stray, Except.error.injEq]
      constructor
      · rintro rfl
        exact ⟨low, 1, ⟨0, rfl, rfl, rfl⟩, rfl⟩
      · rintro ⟨b, _, ⟨_, rfl, rfl, rfl⟩, rfl⟩
        rfl
  | case3 position high low rest first =>
      have stray := Option.eq_none_iff_forall_not_mem.mpr fun h digit => first h digit
      have read : decodePairs position (high :: low :: rest) = .error (.digit high position) := by
        simp [decodePairs, stray]
      simp only [read, StrayAt.cons_stray_iff stray, Except.error.injEq]
      constructor
      · rintro rfl
        exact ⟨high, 0, ⟨rfl, rfl⟩, rfl⟩
      · rintro ⟨b, _, ⟨rfl, rfl⟩, rfl⟩
        rfl
  | case4 text position single =>
      obtain rfl := decodePairs_short even single
      exact iff_of_false nofun nofun

theorem decode_eq_error_iff {text : Bytes} {fault : Fault} :
    decode text = .error fault ↔ Misspelled text fault := by
  unfold decode
  split
  · next odd =>
      constructor
      · rintro ⟨⟩
        exact .oddLength odd
      · rintro (_ | ⟨even, -⟩)
        · rfl
        · omega
  · next even =>
      rw [decodePairs_eq_error_iff (by omega)]
      constructor
      · rintro ⟨b, count, stray, rfl⟩
        rw [Nat.zero_add]
        exact .digit (by omega) stray
      · rintro (odd | ⟨-, stray⟩)
        · omega
        · exact ⟨_, _, stray, by rw [Nat.zero_add]⟩

theorem trim_encodeUpper (bytes : Bytes) : trim (encodeUpper bytes) = encodeUpper bytes := by
  refine trim_eq_self fun c member => ?_
  obtain ⟨n, half, rfl⟩ := List.mem_map.mp (encodeUpper_toList bytes ▸ member)
  exact (upperDigit_plain (halvesOf_small half)).1

theorem toUpper_encodeUpper (bytes : Bytes) : (encodeUpper bytes).toUpper = encodeUpper bytes := by
  rw [← String.toList_inj, String.toUpper, String.toList_map, encodeUpper_toList, List.map_map]
  exact List.map_congr_left fun n half => (upperDigit_plain (halvesOf_small half)).2

/-- The digits of some bytes read back, in blanks or not. -/
theorem decode_trim_encodeUpper (bytes : Bytes) :
    decode (Utf8.encode (trim (encodeUpper bytes))) = .ok bytes := by
  rw [trim_encodeUpper]
  exact decode_eq_ok_iff.mpr (toUpper_encodeUpper bytes)

end CardGateway.Text.Hex
