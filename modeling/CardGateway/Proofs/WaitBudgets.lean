import Mathlib.Algebra.Group.Nat.Defs
import CardGateway.Message.Command
import CardGateway.Proofs.JsonDocument
import CardGateway.Proofs.JsonMembers
import CardGateway.Proofs.LongLiterals

/-!
# Wait budgets of integers

A request may say as an integer literal or in a string how many seconds it leaves. Strings are
understood however long they are, literals as long as there is a double for them; either way the
integer bounds the wait, between nothing and an hour.
-/

namespace CardGateway

open CardGateway.Json CardGateway.Number CardGateway.Text

namespace Wait

/-- The integer with a sign and a size. -/
def signed (negative : Bool) (size : Nat) : Int := if negative then -size else size

/-- As many seconds as an integer says, but no less than none and no more than an hour. -/
def clamped (n : Int) : Millis := (min (max n 0) limitSeconds).toNat * 1000

inductive SignText : Bool → List Char → Prop where
  | absent : SignText false []
  | plus : SignText false ['+']
  | minus : SignText true ['-']

inductive IntegerLiteral : Int → Node → Prop where
  | mk {negative : Bool} {whole : List Nat} {text : Bytes}
      (numeral : Numeral ⟨negative, whole, none, none⟩ text) :
      IntegerLiteral (signed negative (Number.digitsValue whole))
        (.number ⟨negative, whole, none, none⟩ .complete)

/-- A string with an integer, in blanks or not. -/
inductive IntegerText : Int → Node → Prop where
  | mk {raw : Bytes} {s : String} {ahead sign digits behind : List Char} {negative : Bool}
      (read : readText raw = .ok s) (spelled : s.toList = ahead ++ (sign ++ digits) ++ behind)
      (blank : ∀ c ∈ ahead ++ behind, isBlank c = true) (signs : SignText negative sign)
      (filled : digits ≠ []) (decimal : ∀ c ∈ digits, c.isDigit = true) :
      IntegerText (signed negative (decimalValue digits)) (.text raw)

section Spellings

theorem integerLiteral_natural (n : Nat) : IntegerLiteral n (Value.natural n).node := by
  have literal := IntegerLiteral.mk (numeral_toDigits n)
  rwa [digitsValue_digitsOf] at literal

theorem integerText_repr (n : Nat) : IntegerText n (Value.text (Nat.repr n)).node := by
  have value : decimalValue (Nat.toDigits 10 n) = n := by
    have digits := digitsValue_digitsOf n
    rwa [digitsOf, Number.digitsValue, List.foldl_map] at digits
  have decimal : ∀ c ∈ Nat.toDigits 10 n, c.isDigit = true :=
    fun c member => Nat.isDigit_of_mem_toDigits (by decide) (by decide) member
  have text := @IntegerText.mk _ (Nat.repr n) [] [] (Nat.toDigits 10 n) [] false
    (readText_rawText _) (by simp [Nat.repr])
    (fun c member => absurd member List.not_mem_nil) .absent (by simp) decimal
  rwa [value] at text

end Spellings

section Values

theorem clamped_mono {n m : Int} (le : n ≤ m) : clamped n ≤ clamped m := by
  have seconds : min (max n 0) limitSeconds ≤ min (max m 0) limitSeconds := by omega
  exact Nat.mul_le_mul_right 1000 (Int.toNat_le_toNat seconds)

theorem budget_some (n : UInt64) : budget (some n) = min n.toNat limitSeconds * 1000 := by
  show (if n.toNat < limitSeconds then n.toNat * 1000 else limitSeconds * 1000) = _
  split
  · next less => rw [Nat.min_eq_left (Nat.le_of_lt less)]
  · next more => rw [Nat.min_eq_right (Nat.not_lt.mp more)]

theorem secondsOf_toNat (n : Nat) : (secondsOf n).toNat = min n 0xFFFFFFFFFFFFFFFF := by
  rw [secondsOf]
  split
  · next small =>
      rw [Nat.min_eq_left (Nat.lt_succ_iff.mp small)]
      exact UInt64.toNat_ofNat_of_lt' small
  · next large =>
      rw [Nat.min_eq_right (Nat.le_of_lt (Nat.not_lt.mp large))]
      rfl

theorem budget_secondsOf (n : Nat) : budget (some (secondsOf n)) = clamped n := by
  rw [budget_some, secondsOf_toNat, clamped]
  simp only [limitSeconds, Millis]
  omega

def ofSigned (negative : Bool) (size : Nat) : UInt64 := if negative then 0 else secondsOf size

theorem budget_ofSigned (negative : Bool) (size : Nat) :
    budget (some (ofSigned negative size)) = clamped (signed negative size) := by
  cases negative with
  | false => exact budget_secondsOf size
  | true =>
      have lowest : max (-(size : Int)) 0 = 0 := by omega
      rw [clamped, signed, if_pos rfl, lowest]
      rfl

end Values

section Texts

theorem ofText_of_spelled {s : String} {ahead sign digits behind : List Char} {negative : Bool}
    (spelled : s.toList = ahead ++ (sign ++ digits) ++ behind)
    (blank : ∀ c ∈ ahead ++ behind, isBlank c = true) (signs : SignText negative sign)
    (filled : digits ≠ []) (decimal : ∀ c ∈ digits, c.isDigit = true) :
    ofText s = .some (ofSigned negative (decimalValue digits)) := by
  have unblank : ∀ c ∈ sign, isBlank c = false := by
    cases signs with
    | absent => exact nofun
    | plus | minus => exact fun c member => List.mem_singleton.mp member ▸ rfl
  have solid : ∀ c ∈ sign ++ digits, isBlank c = false := by
    intro c member
    exact (List.mem_append.mp member).elim (unblank c) fun digit =>
      isBlank_of_isDigit (decimal c digit)
  have all : isDecimal digits = true := by
    simpa [isDecimal, filled] using decimal
  rw [ofText, spelled, trimChars_surrounded blank solid (by simp [filled])]
  cases signs with
  | plus | minus => simp [all, ofSigned]
  | absent =>
      cases digits with
      | nil => exact absurd rfl filled
      | cons c rest =>
          have digit := decimal c List.mem_cons_self
          have minus : c ≠ '-' := fun same => absurd (same ▸ digit) (by decide)
          have plus : c ≠ '+' := fun same => absurd (same ▸ digit) (by decide)
          simp [all, ofSigned, minus, plus]

end Texts

section Nodes

variable {n : Int} {node : Node}

/-- A node is read as a wait that lasts as long as an integer says. -/
def Lasts (node : Node) (n : Int) : Prop :=
  ∃ wait, read node = .ok wait ∧ budget wait = clamped n

theorem IntegerText.lasts (text : IntegerText n node) : Lasts node n := by
  obtain ⟨raw, spelled, blank, signs, filled, decimal⟩ := text
  next s _ _ digits _ negative =>
  refine ⟨_, ?_, budget_ofSigned negative (decimalValue digits)⟩
  rw [read, raw, ok_bind, ofText_of_spelled spelled blank signs filled decimal]
  rfl

theorem natAbs_signed (negative : Bool) (size : Nat) : (signed negative size).natAbs = size := by
  cases negative with
  | false => rfl
  | true => exact Int.natAbs_neg size

theorem read_number (text : NumberText) :
    read (.number text .complete) = (Number.ofText text).map ofNumber := by
  rw [read, readNumber]
  cases Number.ofText text <;> rfl

/-- A double is read as the wait that the integer next to it asks for. -/
theorem ofNumber_double {negative : Bool} {size : Nat} {x : Binary64} (solid : x.isWhole = true)
    (hour : negative = false → limitSeconds ≤ size ∧ limitSeconds ≤ x.floor) :
    budget (ofNumber (.float negative x)) = clamped (signed negative size) := by
  cases negative with
  | true =>
      rw [ofNumber, solid]
      exact budget_ofSigned true size
  | false =>
      obtain ⟨more, great⟩ := hour rfl
      rw [ofNumber, solid]
      show budget (some (secondsOf x.floor)) = clamped size
      rw [budget_secondsOf]
      simp only [clamped, Millis]
      omega

theorem IntegerLiteral.read (literal : IntegerLiteral n node) :
    n.natAbs < Number.literalLimit ∧ Lasts node n ∨
      Number.literalLimit ≤ n.natAbs ∧ read node = .error .numberRange := by
  obtain ⟨numeral⟩ := literal
  next negative whole _ =>
  have reading := Number.reading_ofText numeral.decimal negative
  rw [natAbs_signed, Lasts, read_number]
  generalize Number.ofText ⟨negative, whole, none, none⟩ = number at reading
  generalize Number.digitsValue whole = size at reading
  cases reading with
  | natural small => exact .inl ⟨Number.lt_literalLimit small, _, rfl, budget_ofSigned false _⟩
  | negative small =>
      have below := Number.lt_literalLimit (Nat.lt_of_le_of_lt small (by decide))
      exact .inl ⟨below, _, rfl, budget_ofSigned true _⟩
  | zero solid =>
      refine .inl ⟨Number.lt_literalLimit (by decide), _, rfl, ofNumber_double solid ?_⟩
      exact fun unsigned => absurd unsigned (by decide)
  | double large below solid great =>
      refine .inl ⟨below, _, rfl, ofNumber_double solid fun _ => ⟨?_, ?_⟩⟩
      · exact Nat.le_trans (by decide) large
      · exact Nat.le_trans (by decide) great
  | past beyond => exact .inr ⟨beyond, rfl⟩

end Nodes

end Wait

theorem ListTokensRequest.waitLens : Fields.Lens Wait.field ListTokensRequest.fields
    (fun (_, _, wait, _) => wait)
    fun wait (session, filters, _, rest) => (session, filters, wait, rest) :=
  .there (.there .here)

theorem ListCertificatesRequest.waitLens : Fields.Lens Wait.field ListCertificatesRequest.fields
    (fun (_, _, _, _, wait, _) => wait)
    fun wait (session, slot, pin, filters, _, rest) => (session, slot, pin, filters, wait, rest) :=
  .there (.there (.there (.there .here)))

theorem SignRequest.waitLens : Fields.Lens Wait.field SignRequest.fields
    (fun (_, _, _, _, _, wait, _) => wait)
    fun wait (session, slot, didName, pin, message, _, rest) =>
      (session, slot, didName, pin, message, wait, rest) :=
  .there (.there (.there (.there (.there .here))))

inductive WaitKind where
  | listTokens
  | listCertificates
  | sign

namespace WaitKind

@[reducible]
def Request : WaitKind → Type
  | listTokens => ListTokensRequest
  | listCertificates => ListCertificatesRequest
  | sign => SignRequest

def codec : (kind : WaitKind) → Codec kind.Request
  | listTokens => ListTokensRequest.codec
  | listCertificates => ListCertificatesRequest.codec
  | sign => SignRequest.codec

def command : (kind : WaitKind) → kind.Request → Command
  | listTokens => .listTokens
  | listCertificates => .listCertificates
  | sign => .sign

def wait : (kind : WaitKind) → kind.Request → Option UInt64
  | listTokens, request => request.maxWait
  | listCertificates, request => request.maxWait
  | sign, request => request.maxWait

def withWait : (kind : WaitKind) → Option UInt64 → kind.Request → kind.Request
  | listTokens, wait, request => { request with maxWait := wait }
  | listCertificates, wait, request => { request with maxWait := wait }
  | sign, wait, request => { request with maxWait := wait }

section Decoding

variable (kind : WaitKind) {key : Bytes} {before after : List (Bytes × Node)} {node other : Node}
  {text : Bytes} (named : readText key = .ok "MaxWaitSeconds")
  (denotes : Denotes text (.record (.closed (before ++ (key, node) :: after))))

theorem budget_withWait (wait : Option UInt64) (request : kind.Request) :
    (kind.command (kind.withWait wait request)).budget? = some (Wait.budget wait) := by
  cases kind <;> rfl

include named denotes

/-- A request that is read with some wait is read with any other that its member may say. -/
theorem decode_withWait {base : kind.Request} {wait : Option UInt64}
    (valid : kind.codec.read (.record (.closed (before ++ (key, other) :: after))) = .ok base)
    (read : Wait.read node = .ok wait) :
    kind.codec.decode text = .ok (kind.withWait wait base) := by
  cases kind with
  | listTokens =>
      exact ListTokensRequest.waitLens.decode_replace (by decide) (fun _ => rfl) (fun _ => rfl)
        named denotes valid read
  | listCertificates =>
      exact ListCertificatesRequest.waitLens.decode_replace (by decide) (fun _ => rfl)
        (fun _ => rfl) named denotes valid read
  | sign =>
      exact SignRequest.waitLens.decode_replace (by decide) (fun _ => rfl) (fun _ => rfl) named
        denotes valid read

/-- No request is read when its wait is not. -/
theorem read_of_decode {request : kind.Request} (decoded : kind.codec.decode text = .ok request) :
    Wait.read node = .ok (kind.wait request) := by
  cases kind with
  | listTokens =>
      exact ListTokensRequest.waitLens.read_of_decode (by decide) (fun _ => rfl) (fun _ => rfl)
        named denotes decoded
  | listCertificates =>
      exact ListCertificatesRequest.waitLens.read_of_decode (by decide) (fun _ => rfl)
        (fun _ => rfl) named denotes decoded
  | sign =>
      exact SignRequest.waitLens.read_of_decode (by decide) (fun _ => rfl) (fun _ => rfl) named
        denotes decoded

/-- A request that is read with some wait is read with an integer in a string or below the limit of
literals, and leaves as many seconds as that says; with a literal past the limit it is not read. -/
theorem integer_bounds_wait {base : kind.Request} {n : Int}
    (valid : kind.codec.read (.record (.closed (before ++ (key, other) :: after))) = .ok base) :
    (Wait.IntegerText n node ∨
        Wait.IntegerLiteral n node ∧ n.natAbs < Number.literalLimit →
      ∃ wait, kind.codec.decode text = .ok (kind.withWait wait base) ∧
        (kind.command (kind.withWait wait base)).budget? = some (Wait.clamped n)) ∧
    (Wait.IntegerLiteral n node → Number.literalLimit ≤ n.natAbs →
      ∀ request, kind.codec.decode text ≠ .ok request) ∧
    ∀ m, n ≤ m → Wait.clamped n ≤ Wait.clamped m := by
  refine ⟨fun spelled => ?_, fun literal past request decoded => ?_,
    fun m le => Wait.clamped_mono le⟩
  · obtain ⟨wait, read, budget⟩ : Wait.Lasts node n := by
      rcases spelled with text | ⟨literal, below⟩
      · exact text.lasts
      · rcases literal.read with ⟨-, lasts⟩ | ⟨past, -⟩
        · exact lasts
        · exact absurd below (Nat.not_lt.mpr past)
    exact ⟨wait, kind.decode_withWait named denotes valid read,
      (kind.budget_withWait wait base).trans (congrArg some budget)⟩
  · have read := kind.read_of_decode named denotes decoded
    rcases literal.read with ⟨below, -⟩ | ⟨-, refused⟩
    · exact Nat.not_lt.mpr past below
    · rw [refused] at read
      cases read

end Decoding

end WaitKind

namespace ListTokensRequest

def waiting (wait : Value) : Value :=
  .record [("TokenInfo", .list []), ("MaxWaitSeconds", wait)]

theorem denotes_waiting (wait : Value) : Denotes (waiting wait).toBytes
    (.record (.closed ([(rawText "TokenInfo", .list (.closed []))] ++
      (rawText "MaxWaitSeconds", wait.node) :: []))) :=
  (waiting wait).denotes_toBytes

theorem read_waiting : ListTokensRequest.codec.read
    (.record (.closed ([(rawText "TokenInfo", .list (.closed []))] ++
      (rawText "MaxWaitSeconds", .null) :: []))) = .ok ⟨none, [], none⟩ := by
  rfl

/-- Seven seconds with a sign, a zero and blanks are counted, and more than 64 bits hold. -/
theorem seconds_counted_in_both_forms :
    (∃ wait,
      ListTokensRequest.codec.decode (waiting (.text " +07 ")).toBytes = .ok ⟨none, [], wait⟩ ∧
        (Command.listTokens ⟨none, [], wait⟩).budget? = some 7000) ∧
    ∃ wait,
      ListTokensRequest.codec.decode (waiting (.natural 0x10000000000000000)).toBytes =
        .ok ⟨none, [], wait⟩ ∧ (Command.listTokens ⟨none, [], wait⟩).budget? = some 3600000 := by
  have named := readText_rawText "MaxWaitSeconds"
  have seven : Wait.IntegerText 7 (Value.text " +07 ").node :=
    @Wait.IntegerText.mk _ " +07 " [' '] ['+'] ['0', '7'] [' '] false (readText_rawText " +07 ")
      rfl (List.all_eq_true.mp rfl) .plus (List.cons_ne_nil _ _) (List.all_eq_true.mp rfl)
  have long := Wait.integerLiteral_natural 0x10000000000000000
  have below : 0x10000000000000000 < Number.literalLimit := by decide +kernel
  exact ⟨(WaitKind.integer_bounds_wait .listTokens named (denotes_waiting _) read_waiting).1
      (.inl seven),
    (WaitKind.integer_bounds_wait .listTokens named (denotes_waiting _) read_waiting).1
      (.inr ⟨long, below⟩)⟩

@[irreducible]
def ages : Nat := 10 * 10 ^ 308

/-- An integer that a request may have in a string, and not as a literal. -/
theorem long_literal_refused :
    (Wait.IntegerText ages (Value.text (Nat.repr ages)).node ∧
      ∃ wait, ListTokensRequest.codec.decode (waiting (.text (Nat.repr ages))).toBytes =
        .ok ⟨none, [], wait⟩ ∧ Wait.budget wait = Wait.clamped ages) ∧
    Wait.IntegerLiteral ages (Value.natural ages).node ∧
      ∀ request, ListTokensRequest.codec.decode (waiting (.natural ages)).toBytes ≠ .ok request := by
  have text := Wait.integerText_repr ages
  have literal := Wait.integerLiteral_natural ages
  have named := readText_rawText "MaxWaitSeconds"
  refine ⟨⟨text, ?_⟩, literal, fun request decoded => ?_⟩
  · obtain ⟨wait, read, budget⟩ := text.lasts
    exact ⟨wait, WaitKind.decode_withWait .listTokens named (denotes_waiting _) read_waiting read,
      budget⟩
  · have read := WaitKind.read_of_decode .listTokens named (denotes_waiting _) decoded
    have past : Number.literalLimit ≤ ages := by decide +kernel
    rcases literal.read with ⟨below, -⟩ | ⟨-, refused⟩
    · exact Nat.not_lt.mpr past below
    · rw [refused] at read
      cases read

end ListTokensRequest

end CardGateway
