import CardGateway.Proofs.JsonGrammar

/-!
# Texts that are accepted

A text in which nothing is wrong is a text of the grammar. So the texts that are read as some shape,
with nothing behind it and with no fault in it, are those that denote it.
-/

namespace CardGateway.Json

open CardGateway.Text

/-! ## Strings, words and numbers -/

theorem exists_quoted {text rest : Bytes} (skipped : skipText text = .ok rest) :
    ∃ raw, text = raw ++ rest ∧ Quoted raw := by
  fun_induction skipText text with
  | case2 a b c d more ih =>
      obtain ⟨n, value, later⟩ := bind_eq_ok_iff.mp skipped
      obtain ⟨raw, rfl, quoted⟩ := ih later
      exact ⟨_, rfl, .code value quoted⟩
  | case5 e more _ _ known ih =>
      obtain ⟨raw, rfl, quoted⟩ := ih skipped
      exact ⟨_, rfl, .short known quoted⟩
  | case7 b more _ _ _ _ closing =>
      obtain rfl := Except.ok.inj skipped
      obtain rfl := beq_iff_eq.mp closing
      exact ⟨[quote], rfl, .close⟩
  | case9 b more _ _ alone escaping unquoted high ih =>
      obtain ⟨raw, rfl, quoted⟩ := ih skipped
      refine ⟨b :: raw, rfl, .plain ⟨?_, ?_, ?_⟩ quoted⟩
      · exact Nat.not_lt.mp fun low => high (UInt8.lt_iff_toNat_lt.mpr low)
      · rintro rfl
        exact unquoted rfl
      · rintro rfl
        cases raw with
        | nil => cases quoted
        | cons e raw => exact escaping e _ rfl rfl
  | _ => cases skipped

namespace Document

theorem of_splitText {text raw rest tail : Bytes} (split : splitText text = (raw, rest))
    (skipped : skipText raw = .ok tail) : text = raw ++ rest ∧ Quoted raw := by
  cases found : skipText text with
  | ok behind =>
      obtain ⟨inside, rfl, quoted⟩ := exists_quoted found
      rw [splitText_quoted quoted] at split
      obtain ⟨rfl, rfl⟩ := Prod.mk.inj split
      exact ⟨rfl, quoted⟩
  | error fault =>
      rw [splitText, found] at split
      obtain ⟨rfl, rfl⟩ := Prod.mk.inj split
      rw [found] at skipped
      cases skipped

theorem of_scanWord {node found : Node} {word text rest : Bytes}
    (scanned : scanWord node word text = (found, rest)) (skipped : found.skip = .ok ()) :
    found = node ∧ text = word ++ rest := by
  induction word generalizing text with
  | nil =>
      obtain ⟨rfl, rfl⟩ := Prod.mk.inj scanned
      exact ⟨rfl, rfl⟩
  | cons w word ih =>
      cases text with
      | nil =>
          obtain ⟨rfl, -⟩ := Prod.mk.inj scanned
          cases skipped
      | cons b text =>
          rw [scanWord] at scanned
          split at scanned
          · next same =>
              obtain ⟨rfl, rfl⟩ := ih scanned
              rw [beq_iff_eq.mp same]
              exact ⟨rfl, rfl⟩
          · obtain ⟨rfl, -⟩ := Prod.mk.inj scanned
            cases skipped

theorem exists_blanks (text : Bytes) : ∃ blanks, text = blanks ++ skipSpace text ∧ Blank blanks :=
  ⟨text.takeWhile isSpace, List.takeWhile_append_dropWhile.symm,
    List.all_eq_true.mp List.all_takeWhile⟩

end Document

theorem exists_digits {text rest : Bytes} {values : List Nat}
    (scanned : scanDigits text = (values, rest)) : ∃ digits, text = digits ++ rest ∧
      (∀ b ∈ digits, isDigit b = true) ∧ values = digitValues digits := by
  induction text generalizing values with
  | nil =>
      obtain ⟨rfl, rfl⟩ := Prod.mk.inj scanned
      exact ⟨[], rfl, fun _ member => absurd member List.not_mem_nil, rfl⟩
  | cons b text ih =>
      rw [scanDigits] at scanned
      split at scanned
      · next digit =>
          obtain ⟨rfl, rfl⟩ := Prod.mk.inj scanned
          obtain ⟨digits, same, all, values⟩ := ih (Prod.eta _).symm
          refine ⟨b :: digits, by rw [List.cons_append, ← same], ?_, ?_⟩
          · exact List.forall_mem_cons.mpr ⟨digit, all⟩
          · rw [values]
            rfl
      · obtain ⟨rfl, rfl⟩ := Prod.mk.inj scanned
        exact ⟨[], rfl, fun _ member => absurd member List.not_mem_nil, rfl⟩

theorem exists_some_digits {text rest : Bytes} {values : List Nat} (filled : values ≠ [])
    (scanned : scanDigits text = (values, rest)) :
    ∃ digits, text = digits ++ rest ∧ Digits digits ∧ values = digitValues digits := by
  obtain ⟨digits, same, all, rfl⟩ := exists_digits scanned
  refine ⟨digits, same, ⟨?_, all⟩, rfl⟩
  rintro rfl
  exact filled rfl

theorem noDigits_ne (text : Bytes) : noDigits text ≠ .complete := by
  cases text <;> simp [noDigits]

theorem exists_sign {text rest : Bytes} {negative : Bool}
    (scanned : scanSign text = (negative, rest)) :
    ∃ sign, text = sign ++ rest ∧ Sign negative sign := by
  cases text with
  | nil =>
      obtain ⟨rfl, rfl⟩ := Prod.mk.inj scanned
      exact ⟨[], rfl, .absent⟩
  | cons b text =>
      rw [scanSign] at scanned
      split at scanned
      · next minus =>
          obtain ⟨rfl, rfl⟩ := Prod.mk.inj scanned
          exact ⟨[b], rfl, beq_iff_eq.mp minus ▸ .minus⟩
      · split at scanned
        · next plus =>
            obtain ⟨rfl, rfl⟩ := Prod.mk.inj scanned
            exact ⟨[b], rfl, beq_iff_eq.mp plus ▸ .plus⟩
        · obtain ⟨rfl, rfl⟩ := Prod.mk.inj scanned
          exact ⟨[], rfl, .absent⟩

section Numbers

variable {negative : Bool} {whole : List Nat} {number : NumberText} {text rest : Bytes}

theorem of_scanExponent {fraction : Option (List Nat)}
    (scanned : scanExponent ⟨negative, whole, fraction, none⟩ text = (number, .complete, rest)) :
    ∃ exponent power, text = power ++ rest ∧ Exponent exponent power ∧
      number = ⟨negative, whole, fraction, exponent⟩ := by
  cases text with
  | nil =>
      obtain ⟨rfl, -, rfl⟩ := by simpa [scanExponent] using scanned
      exact ⟨none, [], rfl, .absent, rfl⟩
  | cons e text =>
      rw [scanExponent] at scanned
      split at scanned
      · next letter =>
          rcases signed : scanSign text with ⟨down, tail⟩
          obtain ⟨sign, rfl, marked⟩ := exists_sign signed
          rw [signed] at scanned
          dsimp only at scanned
          split at scanned
          · next empty =>
              obtain ⟨-, stop, -⟩ := by simpa using scanned
              exact absurd stop (noDigits_ne _)
          · next values behind filled found =>
              obtain ⟨rfl, -, rfl⟩ := by simpa using scanned
              obtain ⟨digits, rfl, proper, rfl⟩ := exists_some_digits filled found
              have exponent := Exponent.power (by simpa using letter) marked proper
              exact ⟨_, e :: (sign ++ digits), by simp, exponent, rfl⟩
      · obtain ⟨rfl, -, rfl⟩ := by simpa using scanned
        exact ⟨none, [], rfl, .absent, rfl⟩

theorem of_scanFraction
    (scanned : scanFraction ⟨negative, whole, none, none⟩ text = (number, .complete, rest)) :
    ∃ fraction exponent point power, text = point ++ (power ++ rest) ∧
      Fraction fraction point ∧ Exponent exponent power ∧
      number = ⟨negative, whole, fraction, exponent⟩ := by
  cases text with
  | nil =>
      obtain ⟨rfl, -, rfl⟩ := by simpa [scanFraction] using scanned
      exact ⟨none, none, [], [], rfl, .absent, .absent, rfl⟩
  | cons b text =>
      rw [scanFraction] at scanned
      split at scanned
      · next point =>
          split at scanned
          · next empty =>
              obtain ⟨-, stop, -⟩ := by simpa using scanned
              exact absurd stop (noDigits_ne _)
          · next values behind filled found =>
              obtain ⟨digits, rfl, proper, rfl⟩ := exists_some_digits filled found
              obtain ⟨exponent, power, rfl, raised, rfl⟩ := of_scanExponent scanned
              obtain rfl := beq_iff_eq.mp point
              exact ⟨_, exponent, 0x2E :: digits, power, rfl, .point proper, raised, rfl⟩
      · obtain ⟨exponent, power, same, raised, rfl⟩ := of_scanExponent scanned
        exact ⟨none, exponent, [], power, same, .absent, raised, rfl⟩

/-- The digits of a whole part are none of the two forms that end a number early. -/
theorem whole_of_values {digits : Bytes} (proper : Digits digits)
    (long : ∀ d others, digitValues digits ≠ 0 :: d :: others) : Whole digits := by
  refine ⟨proper, fun zero => ?_⟩
  match digits, zero with
  | [b], zero => rw [Option.some.inj zero]
  | b :: c :: more, zero =>
      obtain rfl := Option.some.inj zero
      exact absurd rfl (long _ (digitValues more))

theorem exists_magnitude {values : List Nat} {behind : Bytes}
    (found : scanDigits text = (values, behind)) (filled : values ≠ [])
    (long : ∀ d others, values ≠ 0 :: d :: others)
    (scanned : scanFraction ⟨negative, values, none, none⟩ behind = (number, .complete, rest)) :
    ∃ whole fraction exponent size, text = size ++ rest ∧ Magnitude whole fraction exponent size ∧
      number = ⟨negative, whole, fraction, exponent⟩ := by
  obtain ⟨digits, rfl, proper, rfl⟩ := exists_some_digits filled found
  obtain ⟨fraction, exponent, point, power, rfl, pointed, raised, rfl⟩ := of_scanFraction scanned
  exact ⟨_, fraction, exponent, digits ++ (point ++ power), by simp,
    .mk (whole_of_values proper long) pointed raised, rfl⟩

theorem of_scanNumber (scanned : scanNumber text = (number, .complete, rest)) :
    ∃ numeral, text = numeral ++ rest ∧ Numeral number numeral := by
  cases text with
  | nil => cases scanned
  | cons b text =>
      cases minus : b == 0x2D with
      | true =>
          simp only [scanNumber, minus, if_true] at scanned
          split at scanned
          · obtain ⟨-, stop, -⟩ := by simpa using scanned
            exact absurd stop (noDigits_ne _)
          · simp at scanned
          · next values behind filled long found =>
              obtain ⟨whole, fraction, exponent, size, rfl, sized, rfl⟩ :=
                exists_magnitude found filled long scanned
              obtain rfl := beq_iff_eq.mp minus
              exact ⟨0x2D :: size, rfl, .negative sized⟩
      | false =>
          simp only [scanNumber, minus, Bool.false_eq_true, if_false] at scanned
          split at scanned
          · obtain ⟨-, stop, -⟩ := by simpa using scanned
            exact absurd stop (noDigits_ne _)
          · simp at scanned
          · next values behind filled long found =>
              obtain ⟨whole, fraction, exponent, size, same, sized, rfl⟩ :=
                exists_magnitude found filled long scanned
              exact ⟨size, same, .positive sized⟩

end Numbers

/-! ## Values -/

theorem Blank.append {before after : Bytes} (ahead : Blank before) (behind : Blank after) :
    Blank (before ++ after) := by
  intro b member
  rcases List.mem_append.mp member with early | late
  · exact ahead b early
  · exact behind b late

theorem Gap.append_blank {first : Bool} {gap blanks : Bytes} (apart : Gap first gap)
    (blank : Blank blanks) : Gap first (gap ++ blanks) := by
  cases apart with
  | opening before => exact .opening (before.append blank)
  | comma ahead behind =>
      rw [List.append_assoc, List.cons_append]
      exact .comma ahead (behind.append blank)

theorem Node.skipText_of_skip {raw : Bytes} (skipped : (Node.text raw).skip = .ok ()) :
    ∃ tail, skipText raw = .ok tail := by
  rw [Node.skip] at skipped
  cases passed : skipText raw with
  | ok tail => exact ⟨tail, rfl⟩
  | error fault =>
      rw [passed] at skipped
      cases skipped

theorem Node.complete_of_skip {number : NumberText} {stop : NumberStop}
    (skipped : (Node.number number stop).skip = .ok ()) : stop = .complete := by
  rw [Node.skip] at skipped
  split at skipped
  · next complete => exact complete
  · cases skipped

theorem Items.skip_item {node : Node} {items : Items}
    (skipped : (Items.item node items).skip = .ok ()) : node.skip = .ok () ∧ items.skip = .ok () := by
  rw [Items.skip] at skipped
  obtain ⟨⟨⟩, one, others⟩ := bind_eq_ok_iff.mp skipped
  exact ⟨one, others⟩

theorem Members.skip_member {key : Bytes} {node : Node} {members : Members}
    (skipped : (Members.member key node members).skip = .ok ()) :
    (∃ tail, skipText key = .ok tail) ∧ node.skip = .ok () ∧ members.skip = .ok () := by
  rw [Members.skip] at skipped
  obtain ⟨tail, quoted, skipped⟩ := bind_eq_ok_iff.mp skipped
  obtain ⟨⟨⟩, one, others⟩ := bind_eq_ok_iff.mp skipped
  exact ⟨⟨tail, quoted⟩, one, others⟩

namespace Document

section Advance

variable {α : Type} {close : UInt8} {stop : ListStop → α} {scan : Bytes → α × Bytes} {first : Bool}
  {text rest : Bytes} {found : α}

/-- Where no item or member follows, the closing bracket stands, or nothing that may stand there. -/
theorem of_advance (advanced : advance close stop scan first text = (found, rest)) :
    (∃ s, s ≠ .closed ∧ found = stop s) ∨
      (found = stop .closed ∧ ∃ blanks, text = blanks ++ close :: rest ∧ Blank blanks) ∨
      ∃ gap more, text = gap ++ more ∧ Gap first gap ∧ scan more = (found, rest) := by
  obtain ⟨before, same, ahead⟩ := exists_blanks text
  rw [advance] at advanced
  split at advanced
  · exact .inl ⟨.cut, by decide, (Prod.mk.inj advanced).1.symm⟩
  next b tail front =>
  rw [front] at same
  split at advanced
  · next closes =>
      obtain ⟨rfl, rfl⟩ := Prod.mk.inj advanced
      exact .inr (.inl ⟨rfl, before, by rw [same, beq_iff_eq.mp closes], ahead⟩)
  split at advanced
  · next opening =>
      rw [opening]
      exact .inr (.inr ⟨before, b :: tail, same, .opening ahead, advanced⟩)
  next later =>
  split at advanced
  · next comma =>
      obtain ⟨after, same', behind⟩ := exists_blanks tail
      split at advanced
      · exact .inl ⟨.cutAfterComma, by decide, (Prod.mk.inj advanced).1.symm⟩
      next c tail front' =>
      split at advanced
      · exact .inl ⟨.danglingComma, by decide, (Prod.mk.inj advanced).1.symm⟩
      rw [Bool.eq_false_iff.mpr later]
      refine .inr (.inr ⟨before ++ 0x2C :: after, c :: tail, ?_, .comma ahead behind, advanced⟩)
      rw [same, same', front', beq_iff_eq.mp comma, List.append_assoc, List.cons_append]
  · exact .inl ⟨.noComma, by decide, (Prod.mk.inj advanced).1.symm⟩

end Advance

/-- What so many calls scan off the front of a text, if there is no fault in it, is spelled there:
a value behind blanks, an item or a member behind any gap that may stand before it. -/
structure Sound (fuel : Nat) : Prop where
  node {text rest : Bytes} {node : Node} (scanned : scanNode fuel text = (node, rest))
    (skipped : node.skip = .ok ()) :
    ∃ blanks core, text = blanks ++ (core ++ rest) ∧ Blank blanks ∧ Spelling (.node node) core
  items {first : Bool} {text rest : Bytes} {items : Items}
    (scanned : scanItems fuel first text = (items, rest)) (skipped : items.skip = .ok ()) :
    ∃ core, text = core ++ rest ∧ Spelling (.items first items) core
  item {first : Bool} {gap text rest : Bytes} {items : Items} (apart : Gap first gap)
    (scanned : scanItem fuel text = (items, rest)) (skipped : items.skip = .ok ()) :
    ∃ core, gap ++ text = core ++ rest ∧ Spelling (.items first items) core
  members {first : Bool} {text rest : Bytes} {members : Members}
    (scanned : scanMembers fuel first text = (members, rest)) (skipped : members.skip = .ok ()) :
    ∃ core, text = core ++ rest ∧ Spelling (.members first members) core
  member {first : Bool} {gap text rest : Bytes} {members : Members} (apart : Gap first gap)
    (scanned : scanMember fuel text = (members, rest)) (skipped : members.skip = .ok ()) :
    ∃ core, gap ++ text = core ++ rest ∧ Spelling (.members first members) core

namespace Sound

variable {fuel : Nat} (sound : Sound fuel) {first : Bool} {gap text rest : Bytes}

theorem zero : Sound 0 where
  node scanned skipped := by
    obtain ⟨rfl, -⟩ := Prod.mk.inj scanned
    cases skipped
  items scanned skipped := by
    obtain ⟨rfl, -⟩ := Prod.mk.inj scanned
    cases skipped
  item _ scanned skipped := by
    obtain ⟨rfl, -⟩ := Prod.mk.inj scanned
    cases skipped
  members scanned skipped := by
    obtain ⟨rfl, -⟩ := Prod.mk.inj scanned
    cases skipped
  member _ scanned skipped := by
    obtain ⟨rfl, -⟩ := Prod.mk.inj scanned
    cases skipped

include sound

theorem scanNode_succ {node : Node} (scanned : scanNode (fuel + 1) text = (node, rest))
    (skipped : node.skip = .ok ()) :
    ∃ blanks core, text = blanks ++ (core ++ rest) ∧ Blank blanks ∧ Spelling (.node node) core := by
  obtain ⟨blanks, same, blank⟩ := exists_blanks text
  suffices ∃ core, skipSpace text = core ++ rest ∧ Spelling (.node node) core by
    obtain ⟨core, found, spelled⟩ := this
    exact ⟨blanks, core, found ▸ same, blank, spelled⟩
  rw [scanNode] at scanned
  split at scanned
  · obtain ⟨rfl, -⟩ := Prod.mk.inj scanned
    cases skipped
  next b tail front =>
  rw [front]
  split at scanned
  · next opens =>
      rcases taken : splitText tail with ⟨raw, behind⟩
      rw [taken] at scanned
      obtain ⟨rfl, rfl⟩ := Prod.mk.inj scanned
      obtain ⟨_, passed⟩ := Node.skipText_of_skip skipped
      obtain ⟨rfl, quoted⟩ := of_splitText taken passed
      exact ⟨quote :: raw, by rw [beq_iff_eq.mp opens]; rfl, .text quoted⟩
  split at scanned
  · next opens =>
      rcases inside : scanItems fuel true tail with ⟨items, behind⟩
      rw [inside] at scanned
      obtain ⟨rfl, rfl⟩ := Prod.mk.inj scanned
      obtain ⟨core, rfl, spelled⟩ := sound.items inside skipped
      exact ⟨0x5B :: core, by rw [beq_iff_eq.mp opens]; rfl, .list spelled⟩
  split at scanned
  · next opens =>
      rcases inside : scanMembers fuel true tail with ⟨members, behind⟩
      rw [inside] at scanned
      obtain ⟨rfl, rfl⟩ := Prod.mk.inj scanned
      obtain ⟨core, rfl, spelled⟩ := sound.members inside skipped
      exact ⟨0x7B :: core, by rw [beq_iff_eq.mp opens]; rfl, .record spelled⟩
  split at scanned
  · next letter =>
      obtain ⟨rfl, rfl⟩ := of_scanWord scanned skipped
      exact ⟨_, by rw [beq_iff_eq.mp letter]; rfl, .null⟩
  split at scanned
  · next letter =>
      obtain ⟨rfl, rfl⟩ := of_scanWord scanned skipped
      exact ⟨_, by rw [beq_iff_eq.mp letter]; rfl, .yes⟩
  split at scanned
  · next letter =>
      obtain ⟨rfl, rfl⟩ := of_scanWord scanned skipped
      exact ⟨_, by rw [beq_iff_eq.mp letter]; rfl, .no⟩
  split at scanned
  · next begins =>
      rcases digits : scanNumber (b :: tail) with ⟨number, stop, behind⟩
      rw [digits] at scanned
      obtain ⟨rfl, rfl⟩ := Prod.mk.inj scanned
      obtain rfl := Node.complete_of_skip skipped
      obtain ⟨numeral, same, proper⟩ := of_scanNumber digits
      exact ⟨numeral, same, .number proper⟩
  · obtain ⟨rfl, -⟩ := Prod.mk.inj scanned
    cases skipped

theorem scanItem_succ {items : Items} (apart : Gap first gap)
    (scanned : scanItem (fuel + 1) text = (items, rest)) (skipped : items.skip = .ok ()) :
    ∃ core, gap ++ text = core ++ rest ∧ Spelling (.items first items) core := by
  rcases one : scanNode fuel text with ⟨node, middle⟩
  rcases others : scanItems fuel false middle with ⟨items', behind⟩
  rw [scanItem_eq one others] at scanned
  obtain ⟨rfl, rfl⟩ := Prod.mk.inj scanned
  obtain ⟨one_ok, others_ok⟩ := Items.skip_item skipped
  obtain ⟨blanks, core, rfl, blank, value⟩ := sound.node one one_ok
  obtain ⟨more, rfl, later⟩ := sound.items others others_ok
  exact ⟨_, by simp, .item (apart.append_blank blank) value later⟩

theorem scanItems_succ {items : Items} (scanned : scanItems (fuel + 1) first text = (items, rest))
    (skipped : items.skip = .ok ()) :
    ∃ core, text = core ++ rest ∧ Spelling (.items first items) core := by
  rw [Document.scanItems_succ] at scanned
  rcases of_advance scanned with ⟨s, broken, rfl⟩ | ⟨rfl, blanks, rfl, blank⟩ |
    ⟨gap, more, rfl, apart, scanned⟩
  · cases s with
    | closed => exact absurd rfl broken
    | _ => cases skipped
  · exact ⟨blanks ++ [0x5D], by simp, .endItems blank⟩
  · exact sound.item apart scanned skipped

theorem scanMembers_succ {members : Members}
    (scanned : scanMembers (fuel + 1) first text = (members, rest))
    (skipped : members.skip = .ok ()) :
    ∃ core, text = core ++ rest ∧ Spelling (.members first members) core := by
  rw [Document.scanMembers_succ] at scanned
  rcases of_advance scanned with ⟨s, broken, rfl⟩ | ⟨rfl, blanks, rfl, blank⟩ |
    ⟨gap, more, rfl, apart, scanned⟩
  · cases s with
    | closed => exact absurd rfl broken
    | _ => cases skipped
  · exact ⟨blanks ++ [0x7D], by simp, .endMembers blank⟩
  · exact sound.member apart scanned skipped

theorem scanMember_succ {members : Members} (apart : Gap first gap)
    (scanned : scanMember (fuel + 1) text = (members, rest)) (skipped : members.skip = .ok ()) :
    ∃ core, gap ++ text = core ++ rest ∧ Spelling (.members first members) core := by
  cases text with
  | nil =>
      obtain ⟨rfl, -⟩ := Prod.mk.inj scanned
      cases skipped
  | cons b text =>
  rw [scanMember] at scanned
  split at scanned
  · next opens =>
      rcases taken : splitText text with ⟨key, tail⟩
      rw [taken] at scanned
      dsimp only at scanned
      obtain ⟨before, same, ahead⟩ := exists_blanks tail
      split at scanned
      · obtain ⟨rfl, -⟩ := Prod.mk.inj scanned
        obtain ⟨-, broken, -⟩ := Members.skip_member skipped
        cases broken
      next c tail' front =>
      rw [front] at same
      split at scanned
      · next colon =>
          rcases one : scanNode fuel tail' with ⟨node, middle⟩
          rcases others : scanMembers fuel false middle with ⟨members', behind⟩
          simp only [one, others] at scanned
          obtain ⟨rfl, rfl⟩ := Prod.mk.inj scanned
          obtain ⟨⟨_, passed⟩, one_ok, others_ok⟩ := Members.skip_member skipped
          obtain ⟨rfl, quoted⟩ := of_splitText taken passed
          obtain ⟨after, core, rfl, behind, value⟩ := sound.node one one_ok
          obtain ⟨more, rfl, later⟩ := sound.members others others_ok
          refine ⟨_, ?_, .member apart quoted ahead behind value later⟩
          rw [same, beq_iff_eq.mp opens, beq_iff_eq.mp colon]
          simp
      · obtain ⟨rfl, -⟩ := Prod.mk.inj scanned
        obtain ⟨-, broken, -⟩ := Members.skip_member skipped
        cases broken
  · obtain ⟨rfl, -⟩ := Prod.mk.inj scanned
    cases skipped

theorem succ : Sound (fuel + 1) where
  node := sound.scanNode_succ
  items := sound.scanItems_succ
  item := sound.scanItem_succ
  members := sound.scanMembers_succ
  member := sound.scanMember_succ

end Sound

theorem sound : ∀ fuel, Sound fuel
  | 0 => .zero
  | fuel + 1 => (sound fuel).succ

end Document

/-- The texts that are read as a shape, with no fault in them and nothing behind them. -/
theorem denotes_iff {text : Bytes} {node : Node} :
    Denotes text node ↔ Document.parse text = ⟨node, false⟩ ∧ node.skip = .ok () := by
  refine ⟨fun denotes => ⟨denotes.parse_eq, denotes.skip_eq⟩, ?_⟩
  rintro ⟨parsed, skipped⟩
  rw [Document.parse] at parsed
  rcases scanned : Document.scanNode (3 * text.length + 3) text with ⟨root, rest⟩
  rw [scanned] at parsed
  obtain ⟨rfl, ends⟩ := Document.mk.inj parsed
  obtain ⟨before, core, same, ahead, value⟩ := (Document.sound _).node scanned skipped
  obtain ⟨after, all, behind⟩ := Document.exists_blanks rest
  have spent : Document.skipSpace rest = [] := by simpa using ends
  rw [spent, List.append_nil] at all
  subst all
  exact same ▸ .mk ahead value behind

end CardGateway.Json
