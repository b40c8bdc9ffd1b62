import Mathlib.Data.Nat.Digits.Defs
import CardGateway.Proofs.Faults
import CardGateway.Url.Parse

/-!
# Where the parts of a URL stand

A question mark begins the query of a URL and a number sign its fragment. Nothing in front of them
holds such a mark in a URL of the secure web: names, addresses and numbers never do, and in what may be
any text they are encoded. So the text of such a URL falls apart into its parts again.
-/

namespace CardGateway.Url

open CardGateway.Text

def Unmarked (text : List Char) : Prop := ∀ c ∈ text, c ≠ '?' ∧ c ≠ '#'

instance (text : List Char) : Decidable (Unmarked text) :=
  List.decidableBAll (fun c => c ≠ '?' ∧ c ≠ '#') text

namespace Unmarked

variable {first second : List Char}

theorem nil : Unmarked [] := by simp [Unmarked]

theorem append (h : Unmarked first) (again : Unmarked second) : Unmarked (first ++ second) :=
  List.forall_mem_append.mpr ⟨h, again⟩

theorem cons {c : Char} (free : c ≠ '?' ∧ c ≠ '#') (h : Unmarked first) : Unmarked (c :: first) :=
  List.forall_mem_cons.mpr ⟨free, h⟩

theorem flatMap {α : Type} {items : List α} {f : α → List Char}
    (each : ∀ item ∈ items, Unmarked (f item)) : Unmarked (items.flatMap f) := by
  intro c member
  obtain ⟨item, listed, inside⟩ := List.mem_flatMap.mp member
  exact each item listed c inside

theorem intercalate {separator : Char} {parts : List (List Char)}
    (free : separator ≠ '?' ∧ separator ≠ '#') (each : ∀ part ∈ parts, Unmarked part) :
    Unmarked ([separator].intercalate parts) :=
  forall_mem_intercalate free each

end Unmarked

section Encoded

theorem encodeByte_unmarked (b : UInt8) : Unmarked (Percent.encodeByte b) := by
  have digit : ∀ n < 16, Percent.hexDigit n ≠ '?' ∧ Percent.hexDigit n ≠ '#' := by decide
  have size := b.toNat_lt
  exact .cons (by decide) (.cons (digit _ (by omega)) (.cons (digit _ (by omega)) .nil))

/-- What is encoded holds no character that is to be encoded, but for those in codes. -/
theorem mem_percentEncode {set : Percent.EncodeSet} {text : List Char} {c : Char}
    (member : c ∈ Percent.encode set text) : set c = false ∨ (c ≠ '?' ∧ c ≠ '#') := by
  obtain ⟨d, _, inside⟩ := List.mem_flatMap.mp member
  split at inside
  · exact .inr (Unmarked.flatMap (fun b _ => encodeByte_unmarked b) c inside)
  · next free =>
      obtain rfl := List.mem_singleton.mp inside
      exact .inl (Bool.not_eq_true _ ▸ free)

theorem percentEncode_unmarked {set : Percent.EncodeSet} (query : set '?' = true)
    (fragment : set '#' = true) (text : List Char) : Unmarked (Percent.encode set text) := by
  intro c member
  rcases mem_percentEncode member with free | unmarked
  · constructor
    · rintro rfl
      exact absurd (query.symm.trans free) (by decide)
    · rintro rfl
      exact absurd (fragment.symm.trans free) (by decide)
  · exact unmarked

theorem userinfoText_unmarked (info : List Char) : Unmarked (userinfoText info) := by
  have encoded (text : List Char) : Unmarked (Percent.encode Percent.userinfo text) :=
    percentEncode_unmarked (by decide) (by decide) text
  unfold userinfoText
  split
  · exact encoded _
  · exact encoded _
  · exact (encoded _).append (.cons (by decide) (encoded _))

end Encoded

section Numbers

theorem exists_of_mem_toDigits {base n : Nat} (wide : 1 < base) {c : Char}
    (member : c ∈ Nat.toDigits base n) : ∃ d < base, c = Nat.digitChar d := by
  induction n using Nat.strongRecOn with
  | ind n ih =>
      by_cases small : n < base
      · rw [Nat.toDigits_of_lt_base small, List.mem_singleton] at member
        exact ⟨n, small, member⟩
      · rw [Nat.toDigits_of_base_le wide (Nat.not_lt.mp small)] at member
        rcases List.mem_append.mp member with ahead | last
        · exact ih (n / base) (Nat.div_lt_self (by omega) wide) ahead
        · exact ⟨n % base, Nat.mod_lt n (by omega), List.mem_singleton.mp last⟩

theorem toDigits_unmarked {base : Nat} (wide : 1 < base) (most : base ≤ 16) (n : Nat) :
    Unmarked (Nat.toDigits base n) := by
  have digit : ∀ d < 16, Nat.digitChar d ≠ '?' ∧ Nat.digitChar d ≠ '#' := by decide
  intro c member
  obtain ⟨d, small, rfl⟩ := exists_of_mem_toDigits wide member
  exact digit d (Nat.lt_of_lt_of_le small most)

theorem toString_unmarked (n : Nat) : Unmarked (toString n).toList := by
  have digits : (toString n).toList = Nat.toDigits 10 n := by simp [Nat.repr]
  rw [digits]
  exact toDigits_unmarked (by decide) (by decide) n

theorem ipv4_unmarked (address : Nat) : Unmarked (Ipv4.text address).toList := by
  have part (i : Nat) : Unmarked (toString (address / Nat.pow 256 i % 256)).toList :=
    toString_unmarked _
  have dot : Unmarked ".".toList := by decide
  simp only [Ipv4.text, String.toList_append]
  exact ((((((part 3).append dot).append (part 2)).append dot).append (part 1)).append dot).append
    (part 0)

theorem ipv6_unmarked (pieces : List Nat) : Unmarked (Ipv6.text pieces).toList := by
  have joined (pieces : List Nat) : Unmarked (Ipv6.joined pieces) := by
    refine .intercalate (by decide) fun part member => ?_
    obtain ⟨n, _, rfl⟩ := List.mem_map.mp member
    exact toDigits_unmarked (by decide) (by decide) n
  simp only [Ipv6.text, String.toList_ofList]
  split
  · exact joined _
  · exact ((joined _).append (by decide)).append (joined _)

end Numbers

section Names

theorem bracketed_unmarked {text : List Char} {host : Host} (h : bracketed text = .ok host) :
    Unmarked host.text.toList := by
  unfold bracketed at h
  split at h
  · split at h
    · obtain rfl := Except.ok.inj h
      have opening : Unmarked "[".toList := by decide
      have closing : Unmarked "]".toList := by decide
      simp only [Host.text, String.toList_append]
      exact (opening.append (ipv6_unmarked _)).append closing
    · cases h
  · cases h

theorem mapped_unmarked [HostMapping] {domain : Bytes} {name : List Char}
    (mapped : HostMapping.ascii? domain = some name) : Unmarked name := by
  intro c member
  have allowed := HostMapping.allowed mapped c member
  constructor <;> (rintro rfl; exact absurd allowed (by decide))

theorem parseHost_unmarked [HostMapping] {text : List Char} {host : Host}
    (h : parseHost text = .ok host) : Unmarked host.text.toList := by
  unfold parseHost at h
  split at h
  · exact bracketed_unmarked h
  · split at h
    · cases h
    · cases h
    · next name ascii =>
        split at h
        · split at h
          · obtain rfl := Except.ok.inj h
            exact ipv4_unmarked _
          · cases h
        · obtain rfl := Except.ok.inj h
          simpa [Host.text] using mapped_unmarked ascii

end Names

section Paths

/-- A walk meets segments of the path and empty ones only. -/
theorem walk_unmarked {behind segments : List (List Char)}
    (past : ∀ segment ∈ behind, Unmarked segment) (next : ∀ segment ∈ segments, Unmarked segment) :
    ∀ segment ∈ walk behind segments, Unmarked segment := by
  have leaving {behind : List (List Char)} (past : ∀ segment ∈ behind, Unmarked segment) :
      ∀ segment ∈ leave behind, Unmarked segment := by
    unfold leave
    split
    · exact past
    · split
      · exact past
      · exact (List.forall_mem_cons.mp past).2
  have turned {behind : List (List Char)} (past : ∀ segment ∈ behind, Unmarked segment) :
      ∀ segment ∈ behind.reverse, Unmarked segment :=
    fun segment member => past segment (List.mem_reverse.mp member)
  fun_induction walk behind segments with
  | case1 behind => exact turned past
  | case2 behind last up => exact turned (List.forall_mem_cons.mpr ⟨.nil, leaving past⟩)
  | case3 behind last _ here => exact turned (List.forall_mem_cons.mpr ⟨.nil, past⟩)
  | case4 behind last _ _ =>
      exact turned (List.forall_mem_cons.mpr ⟨(List.forall_mem_cons.mp next).1, past⟩)
  | case5 behind segment rest _ up ih => exact ih (leaving past) (List.forall_mem_cons.mp next).2
  | case6 behind segment rest _ _ here ih => exact ih past (List.forall_mem_cons.mp next).2
  | case7 behind segment rest _ _ _ ih =>
      exact ih (List.forall_mem_cons.mpr ⟨(List.forall_mem_cons.mp next).1, past⟩)
        (List.forall_mem_cons.mp next).2

theorem pathBehindHost_unmarked (special : Bool) (text : List Char) :
    Unmarked (pathBehindHost special text).toList := by
  have rooted (text : List Char) : Unmarked (pathText (rootedPath special text)) := by
    have segments : ∀ segment ∈ rootedPath special text, Unmarked segment := by
      refine walk_unmarked (by simp) fun segment member => ?_
      obtain ⟨plain, _, rfl⟩ := List.mem_map.mp member
      exact percentEncode_unmarked (by decide) (by decide) plain
    exact .flatMap fun segment member => .cons (by decide) (segments segment member)
  unfold pathBehindHost
  rw [String.toList_ofList]
  split
  · split <;> decide
  · exact rooted _

end Paths

section Tails

variable {mark : Char} {front : List Char}

theorem takeWhile_marked (free : mark ∉ front) (behind : Option (List Char)) :
    (front ++ (behind.map (mark :: ·)).getD []).takeWhile (· != mark) = front := by
  have other : ∀ c ∈ front, (c != mark) = true := fun c member =>
    bne_iff_ne.mpr fun same => free (same ▸ member)
  rw [List.takeWhile_append_of_pos other]
  cases behind <;> simp

theorem dropWhile_marked (free : mark ∉ front) (behind : Option (List Char)) :
    (front ++ (behind.map (mark :: ·)).getD []).dropWhile (· != mark) =
      (behind.map (mark :: ·)).getD [] := by
  have other : ∀ c ∈ front, (c != mark) = true := fun c member =>
    bne_iff_ne.mpr fun same => free (same ▸ member)
  rw [List.dropWhile_append_of_pos other]
  cases behind <;> simp

/-- An unmarked text, a query without a number sign and any fragment are told apart. -/
theorem splitTail_append {base : List Char} (free : Unmarked base) {query : Option (List Char)}
    (whole : ∀ q ∈ query, '#' ∉ q) (fragment : Option (List Char)) :
    splitTail (base ++ (query.map ('?' :: ·)).getD [] ++ (fragment.map ('#' :: ·)).getD []) =
      ⟨base, query, fragment⟩ := by
  have noQuery : '?' ∉ base := fun member => (free _ member).1 rfl
  have noFragment : '#' ∉ base ++ (query.map ('?' :: ·)).getD [] := by
    intro member
    rcases List.mem_append.mp member with inBase | inQuery
    · exact (free _ inBase).2 rfl
    · cases query with
      | none => cases inQuery
      | some q =>
          rcases List.mem_cons.mp inQuery with mark | inside
          · cases mark
          · exact whole q rfl inside
  unfold splitTail
  dsimp only
  rw [takeWhile_marked noFragment, dropWhile_marked noFragment, takeWhile_marked noQuery,
    dropWhile_marked noQuery]
  cases query <;> cases fragment <;> rfl

theorem text_toList (url : Url) : url.text.toList =
    url.base.toList ++ ((url.query.map String.toList).map ('?' :: ·)).getD [] ++
      ((url.fragment.map String.toList).map ('#' :: ·)).getD [] := by
  unfold text
  cases url.query <;> cases url.fragment <;> simp

end Tails

section Read

theorem ok_of_guard {α : Type} {c : Prop} [Decidable c] {fault : Fault} {next : Unit → Parsed α}
    {value : α} (h : (if c then throw fault >>= next else next ()) = .ok value) : next () = .ok value := by
  split at h
  · cases h
  · exact h

theorem withTail_query_whole {url : Url} {query : String} (special : Bool) (tail : Tail)
    (found : query ∈ (withTail url special tail).query) : '#' ∉ query.toList := by
  obtain ⟨plain, _, rfl⟩ := Option.map_eq_some_iff.mp found
  rw [String.toList_ofList]
  intro member
  rcases mem_percentEncode member with free | unmarked
  · exact absurd free (by cases special <;> decide)
  · exact unmarked.2 rfl

variable [HostMapping] {scheme : String} {url : Url}

/-- A URL with an authority is put together from parts, of which the host is read from a text. -/
structure Assembled (scheme : String) (url : Url) (info : List Char) (host : Host) (port : Option Nat)
    (tail : Tail) : Prop where
  eq : url = withTail { bare scheme with
    userinfo := String.ofList (userinfoText info)
    host := if host == .name "" then none else some host
    port := port
    hasAuthority := true
    path := pathBehindHost (isSpecial scheme) tail.path } (isSpecial scheme) tail
  host : isSpecial scheme = true → ∃ text, parseHost text = .ok host

theorem parseAuthority_ok {text : List Char} (h : parseAuthority scheme text = .ok url) :
    ∃ info host port tail, Assembled scheme url info host port tail := by
  unfold parseAuthority at h
  extract_lets -underBinder special authority rest at h
  split at h
  next info hostPort _ =>
  have h := ok_of_guard h
  split at h
  next hostChars portChars _ =>
  have h := ok_of_guard h
  beta_reduce at h
  extract_lets -underBinder behindHost at h
  have ⟨host, read, h⟩ : ∃ host, (special = true → ∃ text, parseHost text = .ok host) ∧
      behindHost host = .ok url := by
    split at h
    · obtain ⟨host, read, h⟩ := bind_eq_ok_iff.mp h
      exact ⟨host, fun _ => ⟨_, read⟩, h⟩
    · next plain =>
        obtain ⟨host, _, h⟩ := bind_eq_ok_iff.mp h
        exact ⟨host, fun web => absurd web plain, h⟩
  have h := ok_of_guard h
  split at h
  next digits stray _ =>
  obtain ⟨port, _, h⟩ := bind_eq_ok_iff.mp h
  have h := ok_of_guard h
  exact ⟨info, host, port, splitTail (stray ++ rest), (Except.ok.inj h).symm, read⟩

theorem parseFile_scheme {text : List Char} (h : parseFile text = .ok url) :
    url.scheme = "file" := by
  unfold parseFile at h
  extract_lets -underBinder behind at h
  have ⟨found, h⟩ : ∃ found, behind found = .ok url := by
    split at h
    · split at h
      all_goals
        obtain ⟨found, _, h⟩ := bind_eq_ok_iff.mp h
        exact ⟨found, h⟩
    · obtain ⟨found, _, h⟩ := bind_eq_ok_iff.mp h
      exact ⟨found, h⟩
  rw [← Except.ok.inj h]
  rfl

theorem Assembled.unmarked {info : List Char} {host : Host} {port : Option Nat} {tail : Tail}
    (h : Assembled scheme url info host port tail) (special : isSpecial scheme = true)
    (plain : Unmarked scheme.toList) : Unmarked url.base.toList := by
  obtain ⟨rfl, read⟩ := h
  obtain ⟨text, read⟩ := read special
  have signs : Unmarked ":".toList ∧ Unmarked "//".toList ∧ Unmarked "@".toList := by decide
  obtain ⟨colon, slashes, sign⟩ := signs
  have user : Unmarked (if (String.ofList (userinfoText info)).isEmpty then ""
      else String.ofList (userinfoText info) ++ "@").toList := by
    split
    · decide
    · rw [String.toList_append, String.toList_ofList]
      exact (userinfoText_unmarked info).append sign
  have named : Unmarked ((Option.map Host.text (if host == .name "" then none else some host)).getD
      "").toList := by
    split
    · decide
    · exact parseHost_unmarked read
  simp only [base, authorityText, hostText, withTail, if_true, String.toList_append]
  refine ((plain.append colon).append (slashes.append ((user.append named).append ?_))).append
    (pathBehindHost_unmarked _ _)
  cases port with
  | none => decide
  | some n =>
      dsimp only
      rw [String.toList_append]
      exact colon.append (toString_unmarked n)

theorem Assembled.scheme_eq {info : List Char} {host : Host} {port : Option Nat} {tail : Tail}
    (h : Assembled scheme url info host port tail) : url.scheme = scheme := by
  rw [h.eq]
  rfl

/-- A URL of the secure web is one with an authority. -/
theorem parse_assembled {text : String} (parsed : parse text = .ok url)
    (secure : url.scheme = "https") :
    ∃ info host port tail, Assembled "https" url info host port tail := by
  unfold parse at parsed
  split at parsed
  · cases parsed
  · next scheme rest _ =>
      split at parsed
      · have other := parseFile_scheme parsed
        exact absurd (other.symm.trans secure) (by decide)
      · split at parsed
        · obtain ⟨info, host, port, tail, assembled⟩ := parseAuthority_ok parsed
          exact ⟨info, host, port, tail, (assembled.scheme_eq.symm.trans secure) ▸ assembled⟩
        · split at parsed
          · obtain ⟨info, host, port, tail, assembled⟩ := parseAuthority_ok parsed
            exact ⟨info, host, port, tail, (assembled.scheme_eq.symm.trans secure) ▸ assembled⟩
          · next plain _ _ =>
              obtain rfl := Except.ok.inj parsed
              have same : scheme = "https" := secure
              exact absurd (by rw [same]; decide) plain

/-- The text of a URL of the secure web falls apart into what stands in front of the query, the query
and the fragment, whatever query without a number sign it is given. -/
theorem splitTail_text {text : String} (parsed : parse text = .ok url)
    (secure : url.scheme = "https") {query : Option String} (whole : ∀ q ∈ query, '#' ∉ q.toList) :
    splitTail { url with query := query }.text.toList =
      ⟨url.base.toList, query.map String.toList, url.fragment.map String.toList⟩ := by
  obtain ⟨info, host, port, tail, assembled⟩ := parse_assembled parsed secure
  have free := assembled.unmarked (by decide) (by decide)
  rw [text_toList]
  refine splitTail_append free (fun q found => ?_) _
  obtain ⟨q, given, rfl⟩ := Option.map_eq_some_iff.mp found
  exact whole q given

theorem query_whole {text query : String} (parsed : parse text = .ok url)
    (secure : url.scheme = "https") (found : query ∈ url.query) : '#' ∉ query.toList := by
  obtain ⟨info, host, port, tail, assembled⟩ := parse_assembled parsed secure
  rw [assembled.eq] at found
  exact withTail_query_whole _ _ found

end Read

end CardGateway.Url
