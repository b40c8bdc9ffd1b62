import CardGateway.Proofs.Faults
import CardGateway.Proofs.Utf8
import CardGateway.Text.Base64
import CardGateway.Text.Blank

/-!
# Base64 texts and their bytes

A text is read exactly where it is what is written for some bytes, in either alphabet. So a byte string
has one text, and a text that differs in a symbol, in the bits in excess or in the padding has none.
-/

namespace CardGateway.Text.Base64

variable {v : Variant}

theorem symbolValue_symbol {n : Nat} (small : n < 64) : symbolValue v (symbol v n) = some n := by
  revert n
  cases v <;> decide

theorem symbolValue_eq_some_iff {b : UInt8} {n : Nat} :
    symbolValue v b = some n ↔ n < 64 ∧ b = symbol v n := by
  have table : ∀ k < 256, (symbolValue v k.toUInt8).all
      (fun n => decide (n < 64) && symbol v n == k.toUInt8) = true := by
    cases v <;> decide +kernel
  constructor
  · intro valued
    have row := table b.toNat b.toNat_lt
    have same : b.toNat.toUInt8 = b := UInt8.ofNat_toNat
    rw [same, valued, Option.all_some, Bool.and_eq_true, decide_eq_true_eq, beq_iff_eq] at row
    exact ⟨row.1, row.2.symm⟩
  · rintro ⟨small, rfl⟩
    exact symbolValue_symbol small

theorem symbol_ne_pad {n : Nat} (small : n < 64) : symbol v n ≠ pad := by
  revert n
  cases v <;> decide

theorem valueAt_eq_ok_iff {offset : Nat} {b : UInt8} {n : Nat} :
    valueAt v offset b = .ok n ↔ n < 64 ∧ b = symbol v n := by
  rw [← symbolValue_eq_some_iff]
  unfold valueAt
  cases symbolValue v b with
  | none => simp
  | some value => simp

section LastQuad

variable {start index count : Nat} {values : List Nat} {last : UInt8} {text : Bytes}

/-- Behind padding only padding is read. -/
theorem lastQuad_padded {first : Nat} {found : List Nat × UInt8 × Nat} (late : 2 ≤ index) :
    lastQuad v start index values last (some (first, count)) text = .ok found ↔
      ∃ more, text = List.replicate more pad ∧ found = (values, last, count + more) := by
  induction text generalizing index count with
  | nil =>
      simp only [lastQuad, Option.map_some, Option.getD_some, Except.ok.injEq]
      constructor
      · rintro rfl
        exact ⟨0, rfl, rfl⟩
      · rintro ⟨more, padding, rfl⟩
        obtain rfl : more = 0 := by simpa using padding.symm
        rfl
  | cons b rest ih =>
      by_cases pads : b = pad
      · subst pads
        simp only [lastQuad, beq_self_eq_true, if_true, Nat.not_lt.mpr late, if_false]
        rw [ih (Nat.le_succ_of_le late)]
        constructor
        · rintro ⟨more, rfl, rfl⟩
          exact ⟨more + 1, rfl, by rw [Nat.add_assoc, Nat.add_comm 1]⟩
        · rintro ⟨more, same, rfl⟩
          cases more with
          | zero => cases same
          | succ more =>
              exact ⟨more, (List.cons.inj same).2, by rw [Nat.add_assoc, Nat.add_comm 1]⟩
      · have other : (b == pad) = false := by simpa using pads
        simp only [lastQuad, other, Bool.false_eq_true, if_false]
        constructor
        · intro impossible
          cases impossible
        · rintro ⟨more, same, rfl⟩
          cases more with
          | zero => cases same
          | succ more => exact absurd (List.cons.inj same).1 pads

/-- The last quad is a row of symbols with padding behind two of them at least. -/
theorem lastQuad_sound {found : List Nat × UInt8 × Nat}
    (h : lastQuad v start index values last none text = .ok found) :
    ∃ new : List Nat, text = new.map (symbol v) ++ List.replicate found.2.2 pad ∧
      found.1 = new.reverse ++ values ∧ ∀ n ∈ new, n < 64 := by
  induction text generalizing index values last with
  | nil =>
      obtain rfl := Except.ok.inj h
      exact ⟨[], rfl, rfl, by simp⟩
  | cons b rest ih =>
      by_cases pads : b = pad
      · subst pads
        by_cases early : index < 2
        · simp [lastQuad, early] at h
        · simp only [lastQuad, beq_self_eq_true, if_true, early, if_false] at h
          obtain ⟨more, rfl, rfl⟩ :=
            (lastQuad_padded (Nat.le_succ_of_le (Nat.le_of_not_lt early))).mp h
          refine ⟨[], ?_, rfl, by simp⟩
          rw [Nat.add_comm]
          rfl
      · have other : (b == pad) = false := by simpa using pads
        simp only [lastQuad, other, Bool.false_eq_true, if_false] at h
        cases valued : symbolValue v b with
        | none => simp [valued] at h
        | some n =>
            obtain ⟨small, rfl⟩ := symbolValue_eq_some_iff.mp valued
            simp only [valued] at h
            obtain ⟨new, rfl, read, smaller⟩ := ih h
            refine ⟨n :: new, rfl, by simp [read], ?_⟩
            intro other member
            rcases List.mem_cons.mp member with rfl | later
            · exact small
            · exact smaller other later

theorem lastQuad_complete {new : List Nat} (small : ∀ n ∈ new, n < 64)
    (due : count ≠ 0 → 2 ≤ index + new.length) :
    ∃ seen, lastQuad v start index values last none (new.map (symbol v) ++ List.replicate count pad) =
      .ok (new.reverse ++ values, seen, count) := by
  induction new generalizing index values last with
  | nil =>
      cases count with
      | zero => exact ⟨last, rfl⟩
      | succ count =>
          have late : 2 ≤ index := due (Nat.succ_ne_zero count)
          refine ⟨last, ?_⟩
          simp only [List.map_nil, List.nil_append, List.replicate_succ, lastQuad, beq_self_eq_true,
            if_true, Nat.not_lt.mpr late, if_false]
          exact (lastQuad_padded (Nat.le_succ_of_le late)).mpr ⟨count, rfl, by rw [Nat.add_comm]; rfl⟩
  | cons n new ih =>
      have smallest : n < 64 := small n (by simp)
      have other : (symbol v n == pad) = false := by simpa using symbol_ne_pad smallest
      obtain ⟨seen, read⟩ := @ih (index + 1) (n :: values) (symbol v n)
        (fun k member => small k (List.mem_cons_of_mem _ member))
        (fun padded => by have := due padded; rw [List.length_cons] at this; omega)
      refine ⟨seen, ?_⟩
      simp only [List.map_cons, List.cons_append, lastQuad, other, Bool.false_eq_true, if_false,
        symbolValue_symbol smallest, read]
      simp

end LastQuad

/-- Four values of six bits hold three bytes. -/
theorem three_bytes {a b c : Nat} (small : a < 256 ∧ b < 256 ∧ c < 256) {n : Nat}
    (whole : n = (a * 256 + b) * 256 + c) :
    n / 262144 < 64 ∧ n / 4096 % 64 < 64 ∧ n / 64 % 64 < 64 ∧ n % 64 < 64 ∧
      ((n / 262144 * 64 + n / 4096 % 64) * 64 + n / 64 % 64) * 64 + n % 64 = n := by
  omega

theorem encode_mem {bytes : Bytes} {b : UInt8} (member : b ∈ encode v bytes) :
    v = .standard ∧ b = pad ∨ ∃ n < 64, b = symbol v n := by
  have padded {count : Nat} (member : b ∈ padding v count) : v = .standard ∧ b = pad := by
    cases v with
    | standard => exact ⟨rfl, List.eq_of_mem_replicate member⟩
    | urlSafe => cases member
  induction bytes using encode.induct with
  | case1 => cases member
  | case2 a =>
      have small := a.toNat_lt
      simp only [encode, List.mem_cons] at member
      rcases member with rfl | rfl | member
      · exact .inr ⟨_, by omega, rfl⟩
      · exact .inr ⟨_, by omega, rfl⟩
      · exact .inl (padded member)
  | case3 a b =>
      have small := a.toNat_lt
      have smaller := b.toNat_lt
      simp only [encode, List.mem_cons] at member
      rcases member with rfl | rfl | rfl | member
      · exact .inr ⟨_, by omega, rfl⟩
      · exact .inr ⟨_, by omega, rfl⟩
      · exact .inr ⟨_, by omega, rfl⟩
      · exact .inl (padded member)
  | case4 a b c rest ih =>
      obtain ⟨first, second, third, fourth, _⟩ :=
        three_bytes ⟨a.toNat_lt, b.toNat_lt, c.toNat_lt⟩ rfl
      simp only [encode, List.mem_cons] at member
      rcases member with rfl | rfl | rfl | rfl | member
      · exact .inr ⟨_, first, rfl⟩
      · exact .inr ⟨_, second, rfl⟩
      · exact .inr ⟨_, third, rfl⟩
      · exact .inr ⟨_, fourth, rfl⟩
      · exact ih member

/-- No text ends in a single byte behind whole quads. -/
theorem encode_length (bytes : Bytes) : (encode v bytes).length % 4 ≠ 1 := by
  induction bytes using encode.induct with
  | case1 => simp [encode]
  | case2 a => cases v <;> simp [encode, padding]
  | case3 a b => cases v <;> simp [encode, padding]
  | case4 a b c rest ih =>
      simp only [encode, List.length_cons]
      omega

section End

variable {start : Nat} {text bytes : Bytes}

/-- Whether so many symbols are followed by the right count of paddings. -/
def Fits (v : Variant) (symbols count : Nat) : Prop :=
  match v with
  | .standard => (count + symbols) % 4 = 0
  | .urlSafe => count = 0

theorem fits_iff {symbols count : Nat} (enough : 2 ≤ symbols) (few : symbols + count ≤ 4) :
    Fits v symbols count ↔ padding v (4 - symbols) = List.replicate count pad := by
  cases v with
  | standard =>
      simp only [Fits, padding, List.replicate_inj, or_true, and_true]
      omega
  | urlSafe => rw [Fits, padding, eq_comm (a := []), List.replicate_eq_nil_iff]

/-- The bytes of a last quad without excess bits are written as that quad. -/
theorem encode_unpack {values : List Nat} (small : ∀ n ∈ values, n < 64) (enough : 2 ≤ values.length)
    (few : values.length ≤ 4) (exact : (unpack values).2 = true) :
    encode v (unpack values).1 = values.map (symbol v) ++ padding v (4 - values.length) := by
  rcases values with _ | ⟨a, _ | ⟨b, _ | ⟨c, _ | ⟨d, _ | ⟨e, rest⟩⟩⟩⟩⟩
  · simp at enough
  · simp at enough
  · have first : a < 64 := small a (by simp)
    have second : b < 64 := small b (by simp)
    have spare : b % 16 = 0 := by simpa [unpack] using exact
    have whole : (a * 4 + b / 16).toUInt8.toNat = a * 4 + b / 16 := Utf8.toNat_toUInt8 (by omega)
    have high : (a * 4 + b / 16) * 16 / 64 = a := by omega
    have low : (a * 4 + b / 16) * 16 % 64 = b := by omega
    simp only [unpack, encode, whole, high, low]
    rfl
  · have first : a < 64 := small a (by simp)
    have second : b < 64 := small b (by simp)
    have third : c < 64 := small c (by simp)
    have spare : c % 4 = 0 := by simpa [unpack] using exact
    have whole : (a * 4 + b / 16).toUInt8.toNat = a * 4 + b / 16 := Utf8.toNat_toUInt8 (by omega)
    have other : (b % 16 * 16 + c / 4).toUInt8.toNat = b % 16 * 16 + c / 4 :=
      Utf8.toNat_toUInt8 (by omega)
    obtain ⟨n, joined⟩ : ∃ n, n = ((a * 4 + b / 16) * 256 + (b % 16 * 16 + c / 4)) * 4 := ⟨_, rfl⟩
    have high : n / 4096 = a := by omega
    have middle : n / 64 % 64 = b := by omega
    have low : n % 64 = c := by omega
    simp only [unpack, encode, whole, other, ← joined, high, middle, low]
    rfl
  · have first : a < 64 := small a (by simp)
    have second : b < 64 := small b (by simp)
    have third : c < 64 := small c (by simp)
    have fourth : d < 64 := small d (by simp)
    have whole : (a * 4 + b / 16).toUInt8.toNat = a * 4 + b / 16 := Utf8.toNat_toUInt8 (by omega)
    have other : (b % 16 * 16 + c / 4).toUInt8.toNat = b % 16 * 16 + c / 4 :=
      Utf8.toNat_toUInt8 (by omega)
    have last : (c % 4 * 64 + d).toUInt8.toNat = c % 4 * 64 + d := Utf8.toNat_toUInt8 (by omega)
    obtain ⟨n, joined⟩ : ∃ n, n = ((a * 4 + b / 16) * 256 + (b % 16 * 16 + c / 4)) * 256 +
      (c % 4 * 64 + d) := ⟨_, rfl⟩
    have highest : n / 262144 = a := by omega
    have high : n / 4096 % 64 = b := by omega
    have low : n / 64 % 64 = c := by omega
    have lowest : n % 64 = d := by omega
    simp only [unpack, encode, whole, other, last, ← joined, highest, high, low, lowest]
    cases v <;> rfl
  · simp only [List.length_cons] at few
    omega

/-- Up to three bytes are written as a last quad that is read as these bytes. -/
theorem exists_unpack (filled : bytes ≠ []) (few : bytes.length ≤ 3) :
    ∃ values : List Nat, (∀ n ∈ values, n < 64) ∧ values.length = bytes.length + 1 ∧
      unpack values = (bytes, true) ∧
        encode v bytes = values.map (symbol v) ++ padding v (4 - values.length) := by
  rcases bytes with _ | ⟨a, _ | ⟨b, _ | ⟨c, _ | ⟨d, rest⟩⟩⟩⟩
  · exact absurd rfl filled
  · have small := a.toNat_lt
    refine ⟨[a.toNat * 16 / 64, a.toNat * 16 % 64], ?_, rfl, ?_, rfl⟩
    · simp only [List.mem_cons, List.not_mem_nil, or_false, forall_eq_or_imp, forall_eq]
      omega
    · have first : (a.toNat * 16 / 64 * 4 + a.toNat * 16 % 64 / 16).toUInt8 = a :=
        Utf8.toUInt8_eq (by omega)
      have spare : a.toNat * 16 % 64 % 16 = 0 := by omega
      simp only [unpack, first, spare, beq_self_eq_true]
  · have small := a.toNat_lt
    have smaller := b.toNat_lt
    obtain ⟨n, joined⟩ : ∃ n, n = (a.toNat * 256 + b.toNat) * 4 := ⟨_, rfl⟩
    refine ⟨[n / 4096, n / 64 % 64, n % 64], ?_, rfl, ?_, ?_⟩
    · simp only [List.mem_cons, List.not_mem_nil, or_false, forall_eq_or_imp, forall_eq]
      omega
    · have first : (n / 4096 * 4 + n / 64 % 64 / 16).toUInt8 = a := Utf8.toUInt8_eq (by omega)
      have second : (n / 64 % 64 % 16 * 16 + n % 64 / 4).toUInt8 = b := Utf8.toUInt8_eq (by omega)
      have spare : n % 64 % 4 = 0 := by omega
      simp only [unpack, first, second, spare, beq_self_eq_true]
    · simp only [encode, ← joined]
      rfl
  · have small := a.toNat_lt
    have smaller := b.toNat_lt
    have smallest := c.toNat_lt
    obtain ⟨n, joined⟩ : ∃ n, n = (a.toNat * 256 + b.toNat) * 256 + c.toNat := ⟨_, rfl⟩
    refine ⟨[n / 262144, n / 4096 % 64, n / 64 % 64, n % 64], ?_, rfl, ?_, ?_⟩
    · simp only [List.mem_cons, List.not_mem_nil, or_false, forall_eq_or_imp, forall_eq]
      omega
    · have first : (n / 262144 * 4 + n / 4096 % 64 / 16).toUInt8 = a := Utf8.toUInt8_eq (by omega)
      have second : (n / 4096 % 64 % 16 * 16 + n / 64 % 64 / 4).toUInt8 = b :=
        Utf8.toUInt8_eq (by omega)
      have third : (n / 64 % 64 % 4 * 64 + n % 64).toUInt8 = c := Utf8.toUInt8_eq (by omega)
      simp only [unpack, first, second, third]
    · simp only [encode, ← joined]
      cases v <;> rfl
  · simp only [List.length_cons] at few
    omega

theorem encode_ne_nil {first : UInt8} {rest : Bytes} : encode v (first :: rest) ≠ [] := by
  rcases rest with _ | ⟨second, _ | ⟨third, rest⟩⟩ <;> simp [encode]

/-- The checks of a last quad, in their order. -/
theorem decodeEnd_eq_ok_iff_checked :
    decodeEnd v start text = .ok bytes ↔ ∃ values last count,
      lastQuad v start 0 [] 0 none text = .ok (values, last, count) ∧ 2 ≤ values.length ∧
        Fits v values.length count ∧ unpack values.reverse = (bytes, true) := by
  unfold decodeEnd
  rw [bind_eq_ok_iff]
  simp only [Prod.exists]
  refine exists_congr fun values => exists_congr fun last => exists_congr fun count =>
    and_congr_right fun _ => ?_
  by_cases single : values.length < 2
  · have short : ¬ 2 ≤ values.length := Nat.not_le.mpr single
    simp [single, short]
  · have long : 2 ≤ values.length := Nat.le_of_not_lt single
    obtain ⟨read, exact⟩ := unpack values.reverse
    cases v with
    | standard =>
        by_cases padded : (count + values.length) % 4 = 0
        · cases exact <;> simp [Fits, single, long, padded]
        · simp [Fits, single, padded]
    | urlSafe =>
        by_cases padded : count = 0
        · cases exact <;> simp [Fits, single, long, padded]
        · simp [Fits, single, padded]

/-- A last quad is read exactly where it is what is written for its bytes. -/
theorem decodeEnd_eq_ok_iff (filled : text ≠ []) (few : text.length ≤ 4) :
    decodeEnd v start text = .ok bytes ↔ text = encode v bytes := by
  rw [decodeEnd_eq_ok_iff_checked]
  constructor
  · rintro ⟨read, last, count, quad, long, fits, unpacked⟩
    obtain ⟨values, rfl, reversed, small⟩ := lastQuad_sound quad
    obtain rfl : read = values.reverse := by simpa using reversed
    simp only [List.length_append, List.length_map, List.length_replicate] at few
    simp only [List.length_reverse] at long fits
    rw [List.reverse_reverse] at unpacked
    have whole := encode_unpack (v := v) small long (Nat.le_trans (Nat.le_add_right _ _) few)
      (by rw [unpacked])
    rw [unpacked, (fits_iff long few).mp fits] at whole
    exact whole.symm
  · rintro rfl
    have short : bytes.length ≤ 3 := by
      rcases bytes with _ | ⟨a, _ | ⟨b, _ | ⟨c, _ | ⟨d, rest⟩⟩⟩⟩
      · simp
      · simp
      · simp
      · simp
      · have more : 0 < (encode v (d :: rest)).length := List.length_pos_iff.mpr encode_ne_nil
        simp only [encode, List.length_cons] at few more
        omega
    have held : bytes ≠ [] := by
      rintro rfl
      exact filled rfl
    obtain ⟨values, small, longer, unpacked, written⟩ := exists_unpack (v := v) held short
    have long : 2 ≤ values.length := by
      have full : 0 < bytes.length := List.length_pos_iff.mpr held
      omega
    obtain ⟨count, counted⟩ : ∃ count, padding v (4 - values.length) = List.replicate count pad := by
      cases v with
      | standard => exact ⟨_, rfl⟩
      | urlSafe => exact ⟨0, rfl⟩
    rw [counted] at written
    rw [written, List.length_append, List.length_map, List.length_replicate] at few
    obtain ⟨seen, quad⟩ : ∃ seen, lastQuad v start 0 [] 0 none
        (values.map (symbol v) ++ List.replicate count pad) = .ok (values.reverse ++ [], seen, count) :=
      lastQuad_complete small fun _ => by omega
    rw [List.append_nil] at quad
    refine ⟨values.reverse, seen, count, written ▸ quad, ?_, ?_, ?_⟩
    · rwa [List.length_reverse]
    · rw [List.length_reverse]
      exact (fits_iff long few).mpr counted
    · rwa [List.reverse_reverse]

end End

/-- Four values of six bits are written for the three bytes that they hold. -/
theorem encode_quad {k l m n : Nat} (small : k < 64 ∧ l < 64 ∧ m < 64 ∧ n < 64) {whole : Nat}
    (joined : ((k * 64 + l) * 64 + m) * 64 + n = whole) (rest : Bytes) :
    encode v ((whole / 65536).toUInt8 :: (whole / 256 % 256).toUInt8 :: (whole % 256).toUInt8 :: rest) =
      symbol v k :: symbol v l :: symbol v m :: symbol v n :: encode v rest := by
  have high : (whole / 65536).toUInt8.toNat = whole / 65536 := Utf8.toNat_toUInt8 (by omega)
  have middle : (whole / 256 % 256).toUInt8.toNat = whole / 256 % 256 :=
    Utf8.toNat_toUInt8 (by omega)
  have low : (whole % 256).toUInt8.toNat = whole % 256 := Utf8.toNat_toUInt8 (by omega)
  have again : (whole / 65536 * 256 + whole / 256 % 256) * 256 + whole % 256 = whole := by omega
  have partK : whole / 262144 = k := by omega
  have partL : whole / 4096 % 64 = l := by omega
  have partM : whole / 64 % 64 = m := by omega
  have partN : whole % 64 = n := by omega
  simp only [encode, high, middle, low, again, partK, partL, partM, partN]

/-- Four values of six bits hold the three bytes for which they are written. -/
theorem bytes_quad {x y z : UInt8} {whole : Nat}
    (joined : (x.toNat * 256 + y.toNat) * 256 + z.toNat = whole) :
    (whole / 65536).toUInt8 = x ∧ (whole / 256 % 256).toUInt8 = y ∧ (whole % 256).toUInt8 = z := by
  have smallX := x.toNat_lt
  have smallY := y.toNat_lt
  have smallZ := z.toNat_lt
  exact ⟨Utf8.toUInt8_eq (by omega), Utf8.toUInt8_eq (by omega), Utf8.toUInt8_eq (by omega)⟩

/-- A text is read quad by quad exactly where it is what is written for its bytes. -/
theorem decodeFrom_eq_ok_iff {offset : Nat} {text bytes : Bytes} (filled : text ≠ []) :
    decodeFrom v offset text = .ok bytes ↔ text = encode v bytes := by
  induction offset, text using decodeFrom.induct generalizing bytes with
  | case1 offset a b c d e rest ih =>
      constructor
      · intro done
        rw [decodeFrom] at done
        obtain ⟨k, first, done⟩ := bind_eq_ok_iff.mp done
        obtain ⟨l, second, done⟩ := bind_eq_ok_iff.mp done
        obtain ⟨m, third, done⟩ := bind_eq_ok_iff.mp done
        obtain ⟨n, fourth, done⟩ := bind_eq_ok_iff.mp done
        obtain ⟨others, further, done⟩ := bind_eq_ok_iff.mp done
        obtain rfl := Except.ok.inj done
        obtain ⟨smallK, rfl⟩ := valueAt_eq_ok_iff.mp first
        obtain ⟨smallL, rfl⟩ := valueAt_eq_ok_iff.mp second
        obtain ⟨smallM, rfl⟩ := valueAt_eq_ok_iff.mp third
        obtain ⟨smallN, rfl⟩ := valueAt_eq_ok_iff.mp fourth
        rw [(ih (by simp)).mp further, encode_quad ⟨smallK, smallL, smallM, smallN⟩ rfl]
      · intro written
        rcases bytes with _ | ⟨x, _ | ⟨y, _ | ⟨z, others⟩⟩⟩
        · cases written
        · cases v <;> simp [encode, padding] at written
        · cases v <;> simp [encode, padding] at written
        · obtain ⟨smallK, smallL, smallM, smallN, joined⟩ :=
            three_bytes ⟨x.toNat_lt, y.toNat_lt, z.toNat_lt⟩ rfl
          obtain ⟨high, middle, low⟩ := bytes_quad (x := x) (y := y) (z := z) rfl
          simp only [encode, List.cons.injEq] at written
          obtain ⟨rfl, rfl, rfl, rfl, later⟩ := written
          rw [decodeFrom, valueAt_eq_ok_iff.mpr ⟨smallK, rfl⟩, valueAt_eq_ok_iff.mpr ⟨smallL, rfl⟩,
            valueAt_eq_ok_iff.mpr ⟨smallM, rfl⟩, valueAt_eq_ok_iff.mpr ⟨smallN, rfl⟩]
          simp only [ok_bind, joined, high, middle, low, (ih (by simp)).mpr later, pure_eq_ok]
  | case2 offset text short =>
      have few : text.length ≤ 4 := by
        rcases text with _ | ⟨a, _ | ⟨b, _ | ⟨c, _ | ⟨d, _ | ⟨e, rest⟩⟩⟩⟩⟩
        · simp
        · simp
        · simp
        · simp
        · simp
        · exact absurd rfl (short a b c d e rest)
      rw [decodeFrom.eq_2 v offset text short]
      exact decodeEnd_eq_ok_iff filled few

/-- A text is read exactly where it is what is written for its bytes. -/
theorem decode_eq_ok_iff {text bytes : Bytes} :
    decode v text = .ok bytes ↔ text = encode v bytes := by
  cases text with
  | nil =>
      cases bytes with
      | nil => simp [decode, encode]
      | cons a rest =>
          have filled : encode v (a :: rest) ≠ [] := encode_ne_nil
          simpa [decode] using filled.symm
  | cons b rest =>
      constructor
      · intro done
        unfold decode at done
        cases stray : strayByte v (b :: rest) with
        | some fault => simp [stray] at done
        | none =>
            rw [stray] at done
            exact (decodeFrom_eq_ok_iff (List.cons_ne_nil b rest)).mp done
      · intro written
        have whole : strayByte v (b :: rest) = none := by
          have length : ((b :: rest).length % 4 == 1) = false := by
            rw [written]
            simpa using encode_length bytes
          rw [strayByte, length]
          rfl
        unfold decode
        rw [whole]
        exact (decodeFrom_eq_ok_iff (List.cons_ne_nil b rest)).mpr written

/-- What is written is letters, digits and a few signs. -/
theorem encode_plain {bytes : Bytes} {b : UInt8} (member : b ∈ encode v bytes) :
    b.toNat < 0x80 ∧ isBlank (Char.ofNat b.toNat) = false ∧ Char.ofNat b.toNat ≠ '.' := by
  have signs : ∀ n < 64, (symbol v n).toNat < 0x80 ∧
      isBlank (Char.ofNat (symbol v n).toNat) = false ∧ Char.ofNat (symbol v n).toNat ≠ '.' := by
    cases v <;> decide
  rcases encode_mem member with ⟨-, rfl⟩ | ⟨n, small, rfl⟩
  · decide
  · exact signs n small

@[simp] theorem encode_encodeText (bytes : Bytes) :
    Utf8.encode (encodeText v bytes) = encode v bytes := by
  rw [encodeText, Utf8.encode_ofList]
  exact Utf8.encode_ascii fun b member => (encode_plain member).1

/-- A text is read as the bytes that it is written for. -/
theorem decode_text_eq_ok_iff {text : String} {bytes : Bytes} :
    decode v (Utf8.encode text) = .ok bytes ↔ text = encodeText v bytes := by
  rw [decode_eq_ok_iff, ← encode_encodeText]
  constructor
  · intro same
    exact String.toList_inj.mp (Utf8.encodeChar_flatMap_inj same)
  · rintro rfl
    rfl

theorem encodeText_solid {bytes : Bytes} {c : Char} (member : c ∈ (encodeText v bytes).toList) :
    isBlank c = false ∧ c ≠ '.' := by
  rw [encodeText, String.toList_ofList] at member
  obtain ⟨b, inside, rfl⟩ := List.mem_map.mp member
  exact (encode_plain inside).2

/-- The URL-safe variant is never padded. -/
theorem encodeText_unpadded (bytes : Bytes) : '=' ∉ (encodeText .urlSafe bytes).toList := by
  intro member
  rw [encodeText, String.toList_ofList] at member
  obtain ⟨b, inside, same⟩ := List.mem_map.mp member
  have symbols : ∀ n < 64, Char.ofNat (symbol .urlSafe n).toNat ≠ '=' := by decide
  rcases encode_mem inside with ⟨standard, -⟩ | ⟨n, small, rfl⟩
  · cases standard
  · exact symbols n small same

/-- The text of some bytes reads back, in blanks or not. -/
theorem decode_trim_encodeText (bytes : Bytes) :
    decode v (Utf8.encode (trim (encodeText v bytes))) = .ok bytes := by
  rw [trim_eq_self fun c member => (encodeText_solid member).1, encode_encodeText]
  exact decode_eq_ok_iff.mpr rfl

end CardGateway.Text.Base64
