import Mathlib.Data.List.Basic
import Mathlib.Tactic.MkIffOfInductiveProp
import CardGateway.Card.Fixture

/-!
# Filters from loose to strict

A token fits a filter if it has all that the filter sets. Fitting is a preorder on descriptions of
tokens: from any one it goes down to the filter that sets nothing, and two filters that agree have a
common one above them.
-/

namespace CardGateway

namespace TokenInfo

variable {α : Type} {value one other : Option α} {token filter second : TokenInfo}

/-- The token has what the filter sets. -/
@[mk_iff]
structure Fits (token filter : TokenInfo) : Prop where
  slot : ∀ x ∈ filter.slot, x ∈ token.slot
  reader : ∀ x ∈ filter.reader, x ∈ token.reader
  cardType : ∀ x ∈ filter.cardType, x ∈ token.cardType
  hasCertificates : ∀ x ∈ filter.hasCertificates, x ∈ token.hasCertificates
  algorithms : filter.algorithms ⊆ token.algorithms

/-- The filters set nothing that differs. -/
structure Agree (filter second : TokenInfo) : Prop where
  slot : ∀ x ∈ filter.slot, ∀ y ∈ second.slot, x = y
  reader : ∀ x ∈ filter.reader, ∀ y ∈ second.reader, x = y
  cardType : ∀ x ∈ filter.cardType, ∀ y ∈ second.cardType, x = y
  hasCertificates : ∀ x ∈ filter.hasCertificates, ∀ y ∈ second.hasCertificates, x = y

/-- The filter that sets what either of two sets. -/
def joined (filter second : TokenInfo) : TokenInfo where
  slot := filter.slot.or second.slot
  reader := filter.reader.or second.reader
  cardType := filter.cardType.or second.cardType
  algorithms := filter.algorithms ++ second.algorithms
  hasCertificates := filter.hasCertificates.or second.hasCertificates

theorem meets_iff [DecidableEq α] {wanted : Option α} :
    meets value wanted = true ↔ ∀ x ∈ wanted, x ∈ value := by
  cases wanted <;> simp [meets]

theorem satisfies_iff : token.satisfies filter = true ↔ Fits token filter := by
  simp only [satisfies, Bool.and_eq_true, meets_iff, List.all_eq_true, List.contains_iff_mem,
    and_assoc, fits_iff, List.subset_def]

theorem Fits.trans {first : TokenInfo} (upper : Fits first token) (lower : Fits token filter) :
    Fits first filter where
  slot x set := upper.slot x (lower.slot x set)
  reader x set := upper.reader x (lower.reader x set)
  cardType x set := upper.cardType x (lower.cardType x set)
  hasCertificates x set := upper.hasCertificates x (lower.hasCertificates x set)
  algorithms := List.Subset.trans lower.algorithms upper.algorithms

theorem fits_unrestricted (token : TokenInfo) : Fits token unrestricted where
  slot := nofun
  reader := nofun
  cardType := nofun
  hasCertificates := nofun
  algorithms := List.nil_subset _

theorem mem_iff_mem_of_both (up : ∀ x ∈ other, x ∈ one) (down : ∀ x ∈ one, x ∈ other) :
    one = other :=
  Option.ext fun x => ⟨down x, up x⟩

/-- Descriptions that fit each other differ at most in how they list the algorithms. -/
theorem fits_and_fits_iff : Fits token filter ∧ Fits filter token ↔
    token.slot = filter.slot ∧ token.reader = filter.reader ∧ token.cardType = filter.cardType ∧
      token.hasCertificates = filter.hasCertificates ∧
      ∀ algorithm, algorithm ∈ token.algorithms ↔ algorithm ∈ filter.algorithms := by
  constructor
  · rintro ⟨up, down⟩
    exact ⟨mem_iff_mem_of_both up.slot down.slot, mem_iff_mem_of_both up.reader down.reader,
      mem_iff_mem_of_both up.cardType down.cardType,
      mem_iff_mem_of_both up.hasCertificates down.hasCertificates,
      fun algorithm => ⟨@down.algorithms algorithm, @up.algorithms algorithm⟩⟩
  · rintro ⟨slot, reader, cardType, hasCertificates, algorithms⟩
    constructor
    · exact ⟨fun x => slot ▸ id, fun x => reader ▸ id, fun x => cardType ▸ id,
        fun x => hasCertificates ▸ id, fun x => (algorithms x).mpr⟩
    · exact ⟨fun x => slot ▸ id, fun x => reader ▸ id, fun x => cardType ▸ id,
        fun x => hasCertificates ▸ id, fun x => (algorithms x).mp⟩

/-- What is set in either of two values that agree. -/
theorem forall_mem_or_iff (agree : ∀ x ∈ one, ∀ y ∈ other, x = y) :
    (∀ x ∈ one.or other, x ∈ value) ↔ (∀ x ∈ one, x ∈ value) ∧ ∀ x ∈ other, x ∈ value := by
  cases one with
  | none => simp
  | some x =>
      cases other with
      | none => simp
      | some y =>
          obtain rfl := agree x rfl y rfl
          simp

theorem fits_joined_iff (agree : Agree filter second) :
    Fits token (joined filter second) ↔ Fits token filter ∧ Fits token second := by
  simp only [fits_iff, joined, forall_mem_or_iff agree.slot, forall_mem_or_iff agree.reader,
    forall_mem_or_iff agree.cardType, forall_mem_or_iff agree.hasCertificates, List.append_subset]
  constructor
  · rintro ⟨slot, reader, cardType, hasCertificates, algorithms⟩
    exact ⟨⟨slot.1, reader.1, cardType.1, hasCertificates.1, algorithms.1⟩,
      ⟨slot.2, reader.2, cardType.2, hasCertificates.2, algorithms.2⟩⟩
  · rintro ⟨⟨slot, reader, cardType, hasCertificates, algorithms⟩,
      ⟨slot', reader', cardType', hasCertificates', algorithms'⟩⟩
    exact ⟨⟨slot, slot'⟩, ⟨reader, reader'⟩, ⟨cardType, cardType'⟩,
      ⟨hasCertificates, hasCertificates'⟩, ⟨algorithms, algorithms'⟩⟩

theorem satisfiesAny_iff {filters : List TokenInfo} : token.satisfiesAny filters = true ↔
    filters = [] ∨ ∃ filter ∈ filters, token.satisfies filter = true := by
  simp only [satisfiesAny, Bool.or_eq_true, List.isEmpty_iff, List.any_eq_true]

end TokenInfo

namespace Fixture

variable {card : Fixture} {filters more : List TokenInfo} {info : TokenInfo}

theorem mem_matched_iff : info ∈ (card.findTokens filters).matched ↔
    info ∈ card.tokens.map Token.info ∧ info.satisfiesAny filters = true :=
  List.mem_filter

/-- A search finds what is asked for as often as there are such tokens. -/
theorem count_matched (info : TokenInfo) : (card.findTokens filters).matched.count info =
    if info.satisfiesAny filters = true then (card.tokens.map Token.info).count info else 0 := by
  split
  · next asked => exact List.count_filter asked
  · next unasked => exact List.count_eq_zero.mpr fun found => unasked (mem_matched_iff.mp found).2

/-- What is found is found again by its own description. -/
theorem count_matched_le (card : Fixture) (filters : List TokenInfo) (info : TokenInfo) :
    (card.findTokens filters).matched.count info ≤
      (card.findTokens [info]).matched.count info := by
  have own : info.satisfiesAny [info] = true :=
    TokenInfo.satisfiesAny_iff.mpr (.inr ⟨info, List.mem_singleton_self info, info.satisfies_refl⟩)
  rw [count_matched, count_matched, if_pos own]
  split
  · exact Nat.le_refl _
  · exact Nat.zero_le _

/-- More filters lose no token. -/
theorem matched_sublist (restricted : filters ≠ []) (subset : filters ⊆ more) :
    (card.findTokens filters).matched.Sublist (card.findTokens more).matched := by
  refine List.monotone_filter_right _ fun info asked => ?_
  obtain free | ⟨filter, member, fits⟩ := TokenInfo.satisfiesAny_iff.mp asked
  · exact absurd free restricted
  · exact TokenInfo.satisfiesAny_iff.mpr (.inr ⟨filter, subset member, fits⟩)

end Fixture

namespace TokenInfo

/-- Filters are a preorder from loose to strict, in which the unrestricted one is below all and two that
agree are below just what is above their join. So on a card a token that is found is found again by its
own description, and a list of filters that grows, but not from nothing, loses no token. -/
theorem filters_go_from_loose_to_strict :
    (∀ token : TokenInfo, token.satisfies token = true) ∧
    (∀ first second third : TokenInfo, first.satisfies second = true →
      second.satisfies third = true → first.satisfies third = true) ∧
    (∀ token : TokenInfo, token.satisfies unrestricted = true) ∧
    (∀ first second : TokenInfo, first.satisfies second = true ∧ second.satisfies first = true ↔
      first.slot = second.slot ∧ first.reader = second.reader ∧ first.cardType = second.cardType ∧
        first.hasCertificates = second.hasCertificates ∧
        ∀ algorithm, algorithm ∈ first.algorithms ↔ algorithm ∈ second.algorithms) ∧
    (∀ token filter second : TokenInfo, Agree filter second →
      (token.satisfies (joined filter second) = true ↔
        token.satisfies filter = true ∧ token.satisfies second = true)) ∧
    (∀ (card : Fixture) (filters : List TokenInfo),
      ∀ info ∈ (card.findTokens filters).matched, info ∈ (card.findTokens [info]).matched ∧
        (card.findTokens filters).matched.count info ≤
          (card.findTokens [info]).matched.count info) ∧
    (∀ (card : Fixture) (filters more : List TokenInfo), filters ≠ [] → filters ⊆ more →
      (card.findTokens filters).matched.Sublist (card.findTokens more).matched) := by
  refine ⟨satisfies_refl, ?_, ?_, ?_, ?_, ?_, ?_⟩
  · intro first second third upper lower
    exact satisfies_iff.mpr ((satisfies_iff.mp upper).trans (satisfies_iff.mp lower))
  · intro token
    exact satisfies_iff.mpr (fits_unrestricted token)
  · intro first second
    rw [satisfies_iff, satisfies_iff, fits_and_fits_iff]
  · intro token filter second agree
    rw [satisfies_iff, satisfies_iff, satisfies_iff, fits_joined_iff agree]
  · intro card filters info found
    have again := Fixture.count_matched_le card filters info
    exact ⟨List.count_pos_iff.mp (Nat.lt_of_lt_of_le (List.count_pos_iff.mpr found) again), again⟩
  · intro card filters more restricted subset
    exact Fixture.matched_sublist restricted subset

/-- A reader with two cards alike, found by a filter that is the join of two and in turn looser than
what is found. -/
theorem token_found_by_looser_filters :
    let token : TokenInfo := ⟨some ⟨[1]⟩, some "r", none, ["RS256", "ES256"], some true⟩
    let filter : TokenInfo := ⟨none, some "r", none, ["ES256", "ES256"], none⟩
    let second : TokenInfo := ⟨none, some "r", none, ["RS256"], some true⟩
    let card : Fixture := ⟨[⟨token, ⟨[1]⟩, none, []⟩, ⟨token, ⟨[1]⟩, none, []⟩]⟩
    let found (filters : List TokenInfo) := (card.findTokens filters).matched
    token.satisfies (joined filter second) = true ∧ (joined filter second).satisfies filter = true ∧
      token.satisfies filter = true ∧ Agree filter second ∧ token.satisfies second = true ∧
      found [filter] = [token, token] ∧ (found [filter]).count token ≤ (found [token]).count token ∧
      (found [filter]).Sublist (found [second, filter]) := by
  intro token filter second card found
  obtain ⟨-, chain, -, -, join, again, grow⟩ := filters_go_from_loose_to_strict
  have upper : token.satisfies (joined filter second) = true := by decide
  have lower : (joined filter second).satisfies filter = true := by decide
  have agree : Agree filter second :=
    ⟨nofun, fun _ set _ set' => Option.some.inj (set.symm.trans set'), nofun, nofun⟩
  have both : found [filter] = [token, token] := by decide
  have member : token ∈ found [filter] := both ▸ List.mem_cons_self
  exact ⟨upper, lower, chain _ _ _ upper lower, agree, ((join _ _ _ agree).mp upper).2, both,
    (again card [filter] token member).2,
    grow card [filter] [second, filter] (List.cons_ne_nil _ _) (List.subset_cons_self _ _)⟩

end TokenInfo

end CardGateway
