import CardGateway.Text.Utf8

/-!
# Well-formed UTF-8

The strict reading of a byte sequence finds a text exactly where the sequence is the encoding of that
text. One way goes by the shapes of characters that the reader accepts, the other by the sizes of the
characters that are written.
-/

namespace CardGateway.Text.Utf8

theorem lead_eq (b : UInt8) : lead b =
    if b.toNat < 0x80 then .char (Char.ofNat b.toNat)
    else if b.toNat < 0xC2 then .bad
    else if b.toNat < 0xE0 then .pending ⟨0, 0x80, 0xBF, b.toNat % 32⟩
    else if b.toNat = 0xE0 then .pending ⟨1, 0xA0, 0xBF, 0⟩
    else if b.toNat = 0xED then .pending ⟨1, 0x80, 0x9F, 13⟩
    else if b.toNat < 0xF0 then .pending ⟨1, 0x80, 0xBF, b.toNat % 16⟩
    else if b.toNat = 0xF0 then .pending ⟨2, 0x90, 0xBF, 0⟩
    else if b.toNat < 0xF4 then .pending ⟨2, 0x80, 0xBF, b.toNat % 8⟩
    else if b.toNat = 0xF4 then .pending ⟨2, 0x80, 0x8F, 4⟩
    else .bad := by
  simp only [lead, UInt8.lt_iff_toNat_lt, beq_iff_eq, ← UInt8.toNat_inj]
  rfl

theorem toNat_ofNat {n : Nat} (valid : n.isValidChar) : (Char.ofNat n).toNat = n := by
  have found : Char.ofNat n = Char.ofNatAux n valid := dif_pos valid
  rw [found]
  rfl

theorem toUInt8_eq {n : Nat} {b : UInt8} (same : n = b.toNat) : n.toUInt8 = b := by
  subst same
  exact UInt8.ofNat_toNat

/-- What a lead byte says of the bytes behind it. -/
theorem lead_pending {b : UInt8} {p : Pending} (h : lead b = .pending p) :
    0x80 ≤ p.low.toNat ∧ p.high.toNat ≤ 0xBF ∧
      ((p.left = 0 ∧ 0xC2 ≤ b.toNat ∧ b.toNat < 0xE0 ∧ p.bits = b.toNat % 32) ∨
        (p.left = 1 ∧ 0xE0 ≤ b.toNat ∧ b.toNat < 0xF0 ∧ p.bits = b.toNat % 16 ∧
          (b.toNat = 0xE0 → 0xA0 ≤ p.low.toNat) ∧ (b.toNat = 0xED → p.high.toNat ≤ 0x9F)) ∨
        (p.left = 2 ∧ 0xF0 ≤ b.toNat ∧ b.toNat < 0xF5 ∧ p.bits = b.toNat % 8 ∧
          (b.toNat = 0xF0 → 0x90 ≤ p.low.toNat) ∧ (b.toNat = 0xF4 → p.high.toNat ≤ 0x8F))) := by
  rw [lead_eq] at h
  by_cases one : b.toNat < 0x80
  · rw [if_pos one] at h
    cases h
  rw [if_neg one] at h
  by_cases stray : b.toNat < 0xC2
  · rw [if_pos stray] at h
    cases h
  rw [if_neg stray] at h
  by_cases two : b.toNat < 0xE0
  · rw [if_pos two] at h
    obtain rfl := Lead.pending.inj h
    exact ⟨by simp, by simp, .inl ⟨rfl, Nat.le_of_not_lt stray, two, rfl⟩⟩
  rw [if_neg two] at h
  have wide : 0xE0 ≤ b.toNat := Nat.le_of_not_lt two
  by_cases first : b.toNat = 0xE0
  · rw [if_pos first] at h
    obtain rfl := Lead.pending.inj h
    exact ⟨by simp, by simp, .inr (.inl ⟨rfl, wide, by omega, by simp [first], by simp, by omega⟩)⟩
  rw [if_neg first] at h
  by_cases surrogate : b.toNat = 0xED
  · rw [if_pos surrogate] at h
    obtain rfl := Lead.pending.inj h
    exact ⟨by simp, by simp, .inr (.inl ⟨rfl, wide, by omega, by simp [surrogate], by omega, by simp⟩)⟩
  rw [if_neg surrogate] at h
  by_cases three : b.toNat < 0xF0
  · rw [if_pos three] at h
    obtain rfl := Lead.pending.inj h
    exact ⟨by simp, by simp, .inr (.inl ⟨rfl, wide, three, rfl, by omega, by omega⟩)⟩
  rw [if_neg three] at h
  have widest : 0xF0 ≤ b.toNat := Nat.le_of_not_lt three
  by_cases fourth : b.toNat = 0xF0
  · rw [if_pos fourth] at h
    obtain rfl := Lead.pending.inj h
    exact ⟨by simp, by simp, .inr (.inr ⟨rfl, widest, by omega, by simp [fourth], by simp, by omega⟩)⟩
  rw [if_neg fourth] at h
  by_cases middle : b.toNat < 0xF4
  · rw [if_pos middle] at h
    obtain rfl := Lead.pending.inj h
    exact ⟨by simp, by simp, .inr (.inr ⟨rfl, widest, by omega, rfl, by omega, by omega⟩)⟩
  rw [if_neg middle] at h
  by_cases last : b.toNat = 0xF4
  · rw [if_pos last] at h
    obtain rfl := Lead.pending.inj h
    exact ⟨by simp, by simp, .inr (.inr ⟨rfl, widest, by omega, by simp [last], by omega, by simp⟩)⟩
  rw [if_neg last] at h
  cases h

theorem encodeChar_one {b : UInt8} {c : Char} (h : lead b = .char c) : encodeChar c = [b] := by
  have single : b.toNat < 0x80 ∧ c = Char.ofNat b.toNat := by
    rw [lead_eq] at h
    by_cases ascii : b.toNat < 0x80
    · rw [if_pos ascii] at h
      exact ⟨ascii, (Lead.char.inj h).symm⟩
    · grind
  obtain ⟨ascii, rfl⟩ := single
  have valid : b.toNat.isValidChar := by
    left
    omega
  unfold encodeChar
  rw [toNat_ofNat valid]
  dsimp only
  rw [if_pos ascii, toUInt8_eq (b := b) rfl]

theorem encodeChar_two {b c : UInt8} (lead : 0xC2 ≤ b.toNat ∧ b.toNat < 0xE0)
    (next : 0x80 ≤ c.toNat ∧ c.toNat ≤ 0xBF) :
    encodeChar (Char.ofNat (b.toNat % 32 * 64 + c.toNat % 64)) = [b, c] := by
  have valid : (b.toNat % 32 * 64 + c.toNat % 64).isValidChar := by
    left
    omega
  unfold encodeChar
  rw [toNat_ofNat valid]
  dsimp only
  rw [if_neg (by omega), if_pos (by omega), toUInt8_eq (b := b) (by omega),
    toUInt8_eq (b := c) (by omega)]

theorem encodeChar_three {b c d : UInt8} (lead : 0xE0 ≤ b.toNat ∧ b.toNat < 0xF0)
    (next : 0x80 ≤ c.toNat ∧ c.toNat ≤ 0xBF) (low : b.toNat = 0xE0 → 0xA0 ≤ c.toNat)
    (high : b.toNat = 0xED → c.toNat ≤ 0x9F) (last : 0x80 ≤ d.toNat ∧ d.toNat ≤ 0xBF) :
    encodeChar (Char.ofNat ((b.toNat % 16 * 64 + c.toNat % 64) * 64 + d.toNat % 64)) =
      [b, c, d] := by
  have valid : ((b.toNat % 16 * 64 + c.toNat % 64) * 64 + d.toNat % 64).isValidChar := by
    by_cases before : (b.toNat % 16 * 64 + c.toNat % 64) * 64 + d.toNat % 64 < 0xD800
    · exact .inl before
    · right
      omega
  unfold encodeChar
  rw [toNat_ofNat valid]
  dsimp only
  rw [if_neg (by omega), if_neg (by omega), if_pos (by omega), toUInt8_eq (b := b) (by omega),
    toUInt8_eq (b := c) (by omega), toUInt8_eq (b := d) (by omega)]

theorem encodeChar_four {b c d e : UInt8} (lead : 0xF0 ≤ b.toNat ∧ b.toNat < 0xF5)
    (next : 0x80 ≤ c.toNat ∧ c.toNat ≤ 0xBF) (low : b.toNat = 0xF0 → 0x90 ≤ c.toNat)
    (high : b.toNat = 0xF4 → c.toNat ≤ 0x8F) (third : 0x80 ≤ d.toNat ∧ d.toNat ≤ 0xBF)
    (last : 0x80 ≤ e.toNat ∧ e.toNat ≤ 0xBF) :
    encodeChar (Char.ofNat
      (((b.toNat % 8 * 64 + c.toNat % 64) * 64 + d.toNat % 64) * 64 + e.toNat % 64)) =
        [b, c, d, e] := by
  have valid : (((b.toNat % 8 * 64 + c.toNat % 64) * 64 + d.toNat % 64) * 64 +
      e.toNat % 64).isValidChar := by
    right
    omega
  unfold encodeChar
  rw [toNat_ofNat valid]
  dsimp only
  rw [if_neg (by omega), if_neg (by omega), if_neg (by omega), toUInt8_eq (b := b) (by omega),
    toUInt8_eq (b := c) (by omega), toUInt8_eq (b := d) (by omega),
    toUInt8_eq (b := e) (by omega)]

/-- A character that is read to its end takes the next byte from the range that is expected. -/
theorem scan_pending {p : Pending} {bytes : Bytes} {chars : List Char}
    (h : scan (some p) bytes = chars.map some) :
    ∃ b rest, bytes = b :: rest ∧ p.low.toNat ≤ b.toNat ∧ b.toNat ≤ p.high.toNat ∧
      (match p.left with
        | 0 => some (Char.ofNat (p.bits * 64 + b.toNat % 64)) :: scan none rest
        | left + 1 => scan (some ⟨left, 0x80, 0xBF, p.bits * 64 + b.toNat % 64⟩) rest) =
          chars.map some := by
  have broken (found : List (Option Char)) : none :: found ≠ chars.map some := by
    cases chars <;> simp
  cases bytes with
  | nil => exact absurd h (broken _)
  | cons b rest =>
      rw [scan] at h
      by_cases within : (p.low ≤ b && b ≤ p.high) = true
      · rw [if_pos within] at h
        simp only [Bool.and_eq_true, decide_eq_true_eq] at within
        exact ⟨b, rest, rfl, UInt8.le_iff_toNat_le.mp within.1,
          UInt8.le_iff_toNat_le.mp within.2, h⟩
      · rw [if_neg within] at h
        cases first : lead b with
        | char c => rw [first] at h; exact absurd h (broken _)
        | pending q => rw [first] at h; exact absurd h (broken _)
        | bad => rw [first] at h; exact absurd h (broken _)

/-- What reads as a character is its encoding. -/
theorem scan_cons {bytes : Bytes} {c : Char} {chars : List Char}
    (h : scan none bytes = (c :: chars).map some) :
    ∃ rest, bytes = encodeChar c ++ rest ∧ scan none rest = chars.map some := by
  cases bytes with
  | nil => cases h
  | cons b rest =>
      rw [scan] at h
      cases first : lead b with
      | char found =>
          rw [first] at h
          obtain ⟨same, later⟩ := List.cons.inj h
          obtain rfl := Option.some.inj same
          exact ⟨rest, by rw [encodeChar_one first]; rfl, later⟩
      | bad => rw [first] at h; cases (List.cons.inj h).1
      | pending p =>
          rw [first] at h
          obtain ⟨lowest, highest, shape⟩ := lead_pending first
          obtain ⟨second, rest, rfl, lower, upper, h⟩ := scan_pending h
          rcases shape with ⟨left, range⟩ | ⟨left, range⟩ | ⟨left, range⟩
          · rw [left] at h
            obtain ⟨same, later⟩ := List.cons.inj h
            obtain rfl := Option.some.inj same
            refine ⟨rest, ?_, later⟩
            rw [range.2.2, encodeChar_two ⟨range.1, range.2.1⟩ (by omega)]
            rfl
          · rw [left] at h
            obtain ⟨third, rest, rfl, third_low, third_high, h⟩ := scan_pending h
            obtain ⟨same, later⟩ := List.cons.inj h
            obtain rfl := Option.some.inj same
            refine ⟨rest, ?_, later⟩
            obtain ⟨above, below, bits, low, high⟩ := range
            have tail : 0x80 ≤ third.toNat ∧ third.toNat ≤ 0xBF := ⟨third_low, third_high⟩
            dsimp only
            rw [bits, encodeChar_three ⟨above, below⟩ (by omega) (by omega) (by omega) tail]
            rfl
          · rw [left] at h
            obtain ⟨third, rest, rfl, third_low, third_high, h⟩ := scan_pending h
            obtain ⟨fourth, rest, rfl, fourth_low, fourth_high, h⟩ := scan_pending h
            obtain ⟨same, later⟩ := List.cons.inj h
            obtain rfl := Option.some.inj same
            refine ⟨rest, ?_, later⟩
            obtain ⟨above, below, bits, low, high⟩ := range
            have tail : 0x80 ≤ third.toNat ∧ third.toNat ≤ 0xBF := ⟨third_low, third_high⟩
            have last : 0x80 ≤ fourth.toNat ∧ fourth.toNat ≤ 0xBF := ⟨fourth_low, fourth_high⟩
            dsimp only
            rw [bits, encodeChar_four ⟨above, below⟩ (by omega) (by omega) (by omega) tail last]
            rfl

theorem scan_some_ne_nil (p : Pending) (bytes : Bytes) : scan (some p) bytes ≠ [] := by
  induction bytes generalizing p with
  | nil => simp [scan]
  | cons b rest ih =>
      rw [scan]
      by_cases within : (p.low ≤ b && b ≤ p.high) = true
      · rw [if_pos within]
        cases p.left with
        | zero => simp
        | succ left => exact ih _
      · rw [if_neg within]
        cases lead b <;> simp

theorem scan_none_eq_nil {bytes : Bytes} (h : scan none bytes = []) : bytes = [] := by
  cases bytes with
  | nil => rfl
  | cons b rest =>
      rw [scan] at h
      cases first : lead b with
      | char c => rw [first] at h; cases h
      | pending p => rw [first] at h; exact absurd h (scan_some_ne_nil p rest)
      | bad => rw [first] at h; cases h

/-- What reads as characters throughout is their encoding. -/
theorem scan_sound {bytes : Bytes} {chars : List Char} (h : scan none bytes = chars.map some) :
    bytes = chars.flatMap encodeChar := by
  induction chars generalizing bytes with
  | nil => exact scan_none_eq_nil h
  | cons c chars ih =>
      obtain ⟨rest, rfl, later⟩ := scan_cons h
      rw [ih later, List.flatMap_cons]

theorem eq_map_some {found : List (Option Char)} {chars : List Char}
    (h : found.mapM id = some chars) : found = chars.map some := by
  induction found generalizing chars with
  | nil =>
      obtain rfl : [] = chars := by simpa using h
      rfl
  | cons first rest ih =>
      obtain ⟨c, rfl, others, later, rfl⟩ : ∃ c, first = some c ∧
          ∃ others, rest.mapM id = some others ∧ c :: others = chars := by
        simpa [List.mapM_cons, Option.bind_eq_some_iff] using h
      rw [ih later, List.map_cons]

/-- A byte sequence that has a text is the encoding of that text. -/
theorem encode_of_decode? {bytes : Bytes} {text : String} (h : decode? bytes = some text) :
    encode text = bytes := by
  obtain ⟨chars, found, rfl⟩ := Option.map_eq_some_iff.mp h
  rw [encode_ofList]
  exact (scan_sound (eq_map_some found)).symm

theorem toNat_toUInt8 {n : Nat} (small : n < 256) : n.toUInt8.toNat = n := by
  simp only [Nat.toUInt8, UInt8.toNat_ofNat']
  omega

/-- A lead byte before a next byte with the bits of `m` that its range admits. -/
def Leads (b : UInt8) (left bits m : Nat) : Prop :=
  ∃ p, lead b = .pending p ∧ p.left = left ∧ p.bits = bits ∧
    p.low.toNat ≤ 0x80 + m % 64 ∧ 0x80 + m % 64 ≤ p.high.toNat

theorem leads_two {n : Nat} (above : 0x80 ≤ n) (below : n < 0x800) :
    Leads (0xC0 + n / 64).toUInt8 0 (n / 64) n := by
  refine ⟨⟨0, 0x80, 0xBF, n / 64⟩, ?_, rfl, rfl, by simp, by simp; omega⟩
  rw [lead_eq, toNat_toUInt8 (by omega), if_neg (by omega), if_neg (by omega), if_pos (by omega)]
  congr 2
  omega

theorem leads_three {n : Nat} (above : 0x800 ≤ n) (below : n < 0x10000) (valid : n.isValidChar) :
    Leads (0xE0 + n / 4096).toUInt8 1 (n / 4096) (n / 64) := by
  have gap : n < 0xD800 ∨ 0xDFFF < n := by
    rcases valid with low | ⟨high, _⟩
    · exact .inl low
    · exact .inr high
  unfold Leads
  rw [lead_eq, toNat_toUInt8 (by omega), if_neg (by omega), if_neg (by omega), if_neg (by omega)]
  by_cases first : 0xE0 + n / 4096 = 0xE0
  · rw [if_pos first]
    refine ⟨_, rfl, rfl, ?_, ?_, ?_⟩
    · dsimp only
      omega
    · simp
      omega
    · simp
      omega
  rw [if_neg first]
  by_cases surrogate : 0xE0 + n / 4096 = 0xED
  · rw [if_pos surrogate]
    refine ⟨_, rfl, rfl, ?_, ?_, ?_⟩
    · dsimp only
      omega
    · simp
    · simp
      omega
  rw [if_neg surrogate, if_pos (by omega)]
  refine ⟨_, rfl, rfl, ?_, ?_, ?_⟩
  · dsimp only
    omega
  · simp
  · simp
    omega

theorem leads_four {n : Nat} (above : 0x10000 ≤ n) (below : n < 0x110000) :
    Leads (0xF0 + n / 262144).toUInt8 2 (n / 262144) (n / 4096) := by
  unfold Leads
  rw [lead_eq, toNat_toUInt8 (by omega), if_neg (by omega), if_neg (by omega), if_neg (by omega),
    if_neg (by omega), if_neg (by omega), if_neg (by omega)]
  by_cases first : 0xF0 + n / 262144 = 0xF0
  · rw [if_pos first]
    refine ⟨_, rfl, rfl, ?_, ?_, ?_⟩
    · dsimp only
      omega
    · simp
      omega
    · simp
      omega
  rw [if_neg first]
  by_cases middle : 0xF0 + n / 262144 < 0xF4
  · rw [if_pos middle]
    refine ⟨_, rfl, rfl, ?_, ?_, ?_⟩
    · dsimp only
      omega
    · simp
    · simp
      omega
  rw [if_neg middle, if_pos (by omega)]
  refine ⟨_, rfl, rfl, ?_, ?_, ?_⟩
  · dsimp only
    omega
  · simp
  · simp
    omega

/-- What is read once so many bytes of a character are left, with the bits so far. -/
def resume (left bits : Nat) (rest : Bytes) : List (Option Char) :=
  match left with
  | 0 => some (Char.ofNat bits) :: scan none rest
  | left + 1 => scan (some ⟨left, 0x80, 0xBF, bits⟩) rest

theorem resume_zero (bits : Nat) (rest : Bytes) :
    resume 0 bits rest = some (Char.ofNat bits) :: scan none rest := rfl

/-- A byte behind the lead byte of a character adds six bits to it. -/
theorem scan_pending_cons {p : Pending} {m : Nat} (lower : p.low.toNat ≤ 0x80 + m % 64)
    (upper : 0x80 + m % 64 ≤ p.high.toNat) (rest : Bytes) :
    scan (some p) ((0x80 + m % 64).toUInt8 :: rest) = resume p.left (p.bits * 64 + m % 64) rest := by
  have value : (0x80 + m % 64).toUInt8.toNat = 0x80 + m % 64 := toNat_toUInt8 (by omega)
  have within : (p.low ≤ (0x80 + m % 64).toUInt8 && (0x80 + m % 64).toUInt8 ≤ p.high) = true := by
    simp only [Bool.and_eq_true, decide_eq_true_eq, UInt8.le_iff_toNat_le, value]
    exact ⟨lower, upper⟩
  have six : (0x80 + m % 64) % 64 = m % 64 := by omega
  rw [scan, if_pos within]
  simp only [value, six]
  cases p.left with
  | zero => rfl
  | succ left => rfl

/-- The range is always the same behind the second byte. -/
theorem resume_succ (left bits m : Nat) (rest : Bytes) :
    resume (left + 1) bits ((0x80 + m % 64).toUInt8 :: rest) =
      resume left (bits * 64 + m % 64) rest := by
  rw [resume]
  refine scan_pending_cons ?_ ?_ rest
  · simp
  · simp
    omega

theorem Leads.scan_cons {b : UInt8} {left bits m : Nat} (h : Leads b left bits m) (rest : Bytes) :
    scan none (b :: (0x80 + m % 64).toUInt8 :: rest) = resume left (bits * 64 + m % 64) rest := by
  obtain ⟨p, first, rfl, rfl, lower, upper⟩ := h
  rw [scan, first]
  exact scan_pending_cons lower upper rest

theorem scan_encodeChar (c : Char) (rest : Bytes) :
    scan none (encodeChar c ++ rest) = some c :: scan none rest := by
  have same : Char.ofNat c.toNat = c := Char.ofNat_toNat c
  have valid : c.toNat.isValidChar := c.valid
  unfold encodeChar
  dsimp only
  generalize c.toNat = n at same valid
  have below : n < 0x110000 := by
    rcases valid with low | ⟨_, high⟩
    · omega
    · exact high
  by_cases one : n < 0x80
  · rw [if_pos one, List.singleton_append, scan, lead_eq, toNat_toUInt8 (by omega), if_pos one, same]
  rw [if_neg one]
  by_cases two : n < 0x800
  · have whole : n / 64 * 64 + n % 64 = n := by omega
    rw [if_pos two, List.cons_append, List.singleton_append,
      (leads_two (Nat.le_of_not_lt one) two).scan_cons, resume_zero, whole, same]
  rw [if_neg two]
  by_cases three : n < 0x10000
  · have whole : (n / 4096 * 64 + n / 64 % 64) * 64 + n % 64 = n := by omega
    rw [if_pos three, List.cons_append, List.cons_append, List.singleton_append,
      (leads_three (Nat.le_of_not_lt two) three valid).scan_cons, resume_succ, resume_zero, whole, same]
  · have whole : ((n / 262144 * 64 + n / 4096 % 64) * 64 + n / 64 % 64) * 64 + n % 64 = n := by
      omega
    rw [if_neg three, List.cons_append, List.cons_append, List.cons_append, List.singleton_append,
      (leads_four (Nat.le_of_not_lt three) below).scan_cons, resume_succ, resume_succ, resume_zero,
      whole, same]

theorem scan_encode (chars : List Char) : scan none (chars.flatMap encodeChar) = chars.map some := by
  induction chars with
  | nil => rfl
  | cons c chars ih => rw [List.flatMap_cons, scan_encodeChar, ih, List.map_cons]

theorem mapM_map_some (chars : List Char) : (chars.map some).mapM id = some chars := by
  induction chars with
  | nil => rfl
  | cons c chars ih => simp [List.mapM_cons, ih]

/-- The encoding of a text reads as that text. -/
theorem decode?_encode (text : String) : decode? (encode text) = some text := by
  rw [decode?, encode, scan_encode, mapM_map_some, Option.map_some, String.ofList_toList]

theorem decode?_eq_some_iff {bytes : Bytes} {text : String} :
    decode? bytes = some text ↔ encode text = bytes := by
  constructor
  · exact encode_of_decode?
  · rintro rfl
    exact decode?_encode text

/-- Characters of one byte are encoded as that byte. -/
theorem encodeChar_ofNat {b : UInt8} (ascii : b.toNat < 0x80) :
    encodeChar (Char.ofNat b.toNat) = [b] := by
  refine encodeChar_one ?_
  rw [lead_eq, if_pos ascii]

theorem encode_ascii {bytes : Bytes} (ascii : ∀ b ∈ bytes, b.toNat < 0x80) :
    (bytes.map fun b => Char.ofNat b.toNat).flatMap encodeChar = bytes := by
  induction bytes with
  | nil => rfl
  | cons b rest ih =>
      rw [List.map_cons, List.flatMap_cons, encodeChar_ofNat (ascii b (by simp)),
        ih fun c member => ascii c (List.mem_cons_of_mem b member)]
      rfl

/-- The bytes of a longer form are none of the first 128. -/
theorem high_of_mem_encodeChar {c : Char} (high : 0x80 ≤ c.toNat) {b : UInt8}
    (member : b ∈ encodeChar c) : 0x80 ≤ b.toNat := by
  have valid : c.toNat.isValidChar := c.valid
  have below : c.toNat < 0x110000 := by
    rcases valid with low | ⟨_, small⟩
    · omega
    · exact small
  have far {n : Nat} (least : 0x80 ≤ n) (most : n < 0x100) : 0x80 ≤ n.toUInt8.toNat := by
    rw [toNat_toUInt8 most]
    exact least
  unfold encodeChar at member
  dsimp only at member
  rw [if_neg (Nat.not_lt.mpr high)] at member
  split at member
  · simp only [List.mem_cons, List.not_mem_nil, or_false] at member
    rcases member with rfl | rfl <;> exact far (by omega) (by omega)
  split at member
  · simp only [List.mem_cons, List.not_mem_nil, or_false] at member
    rcases member with rfl | rfl | rfl <;> exact far (by omega) (by omega)
  · simp only [List.mem_cons, List.not_mem_nil, or_false] at member
    rcases member with rfl | rfl | rfl | rfl <;> exact far (by omega) (by omega)

/-- The encodings of different texts differ. -/
theorem encodeChar_flatMap_inj {first second : List Char}
    (same : first.flatMap encodeChar = second.flatMap encodeChar) : first = second := by
  have scanned := congrArg (scan none) same
  rw [scan_encode, scan_encode] at scanned
  exact (List.map_inj_right fun _ _ => Option.some.inj).mp scanned

end CardGateway.Text.Utf8
