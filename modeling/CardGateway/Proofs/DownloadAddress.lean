import CardGateway.Run.Setup

/-!
# Which download addresses are vetted

An address passes if it is a URL of the secure web and, where the list of hosts is enforced, some
entry of the list admits its host: the host itself, or a domain above it. Case and blanks around an
entry do not matter, and a blank entry admits nothing.
-/

namespace CardGateway

open CardGateway.Text

namespace UpdatePolicy

/-- An entry admits the host that it names, or each host below the domain that it names behind `*.`. -/
inductive Admits : String → String → Prop where
  | named {host : String} (exact : ∀ domain, host ≠ "*." ++ domain) : Admits host host
  | below {labels domain : String} (labelled : labels ≠ "") :
      Admits ("*." ++ domain) (labels ++ "." ++ domain)

/-- What is left of a host before its domain ends in a dot, behind something else. -/
theorem lead_iff {lead : List Char} :
    1 < lead.length ∧ lead.getLast? = some '.' ↔ ∃ labels, labels ≠ [] ∧ lead = labels ++ ['.'] := by
  constructor
  · rintro ⟨long, last⟩
    obtain ⟨labels, rfl⟩ := List.getLast?_eq_some_iff.mp last
    refine ⟨labels, ?_, rfl⟩
    rintro rfl
    exact absurd long (by decide)
  · rintro ⟨labels, filled, rfl⟩
    have long := List.length_pos_iff.mpr filled
    simp only [List.length_append, List.length_cons, List.length_nil, List.getLast?_concat, and_true]
    omega

theorem admits_domain_iff {domain host : List Char} :
    admits ('*' :: '.' :: domain) host = true ↔
      ∃ labels, labels ≠ [] ∧ host = labels ++ '.' :: domain := by
  simp only [admits, Bool.and_eq_true, decide_eq_true_eq, beq_iff_eq, List.isSuffixOf_iff_suffix,
    and_assoc]
  constructor
  · rintro ⟨⟨lead, rfl⟩, ending⟩
    rw [List.length_append, Nat.add_sub_cancel, List.take_left] at ending
    obtain ⟨labels, filled, rfl⟩ := lead_iff.mp ending
    exact ⟨labels, filled, by rw [List.append_assoc]; rfl⟩
  · rintro ⟨labels, filled, rfl⟩
    have split : labels ++ '.' :: domain = (labels ++ ['.']) ++ domain := by simp
    rw [split, List.length_append, Nat.add_sub_cancel, List.take_left]
    exact ⟨List.suffix_append _ _, lead_iff.mpr ⟨labels, filled, rfl⟩⟩

theorem admits_named_iff {entry host : List Char} (exact : ∀ domain, entry ≠ '*' :: '.' :: domain) :
    admits entry host = true ↔ entry = host := by
  unfold admits
  split
  · next domain => exact absurd rfl (exact domain)
  · exact beq_iff_eq

theorem toList_domain (domain : String) : ("*." ++ domain).toList = '*' :: '.' :: domain.toList := by
  rw [String.toList_append]
  rfl

theorem admits_iff {entry host : String} :
    admits entry.toList host.toList = true ↔ Admits entry host := by
  by_cases wild : ∃ domain, entry = "*." ++ domain
  · obtain ⟨domain, rfl⟩ := wild
    rw [toList_domain, admits_domain_iff]
    constructor
    · rintro ⟨labels, filled, same⟩
      have split : host = String.ofList labels ++ "." ++ domain := by
        rw [← String.toList_inj, same]
        simp
      rw [split]
      refine .below ?_
      rintro blank
      exact filled (by simpa using congrArg String.toList blank)
    · intro h
      generalize named : "*." ++ domain = entry at h
      cases h with
      | named exact => exact absurd named.symm (exact domain)
      | @below labels other labelled =>
          have same : domain.toList = other.toList := by
            have lists := congrArg String.toList named
            rw [toList_domain, toList_domain] at lists
            exact (List.cons.inj (List.cons.inj lists).2).2
          refine ⟨labels.toList, fun blank => labelled (String.toList_inj.mp blank), ?_⟩
          rw [same, String.toList_append, String.toList_append, List.append_assoc]
          rfl
  · have exact : ∀ domain, entry ≠ "*." ++ domain := fun domain same => wild ⟨domain, same⟩
    have unlisted : ∀ domain, entry.toList ≠ '*' :: '.' :: domain := by
      intro domain same
      refine exact (String.ofList domain) ?_
      rw [← String.toList_inj, toList_domain, String.toList_ofList, same]
    rw [admits_named_iff unlisted, String.toList_inj]
    constructor
    · rintro rfl
      exact .named exact
    · intro h
      cases h with
      | named exact => rfl
      | below labelled => exact absurd rfl (exact _)

theorem lowered_eq_empty_iff {text : String} : lowered text = "" ↔ text = "" := by
  rw [← String.toList_inj, ← String.toList_inj, lowered]
  simp

theorem admitsHost_iff {enforced : Bool} {entries : List String} {host : String} :
    (ofEntries enforced entries).admitsHost host = true ↔
      ∃ entry, entry ∈ entries ∧ trim entry ≠ "" ∧ Admits (lowered (trim entry)) host := by
  simp only [admitsHost, ofEntries, List.any_eq_true, List.mem_filter, List.mem_map, admits_iff,
    Bool.not_eq_true', String.isEmpty_eq_false_iff]
  constructor
  · rintro ⟨_, ⟨⟨entry, member, rfl⟩, filled⟩, admitted⟩
    exact ⟨entry, member, fun blank => filled (lowered_eq_empty_iff.mpr blank), admitted⟩
  · rintro ⟨entry, member, filled, admitted⟩
    exact ⟨_, ⟨⟨entry, member, rfl⟩, fun blank => filled (lowered_eq_empty_iff.mp blank)⟩, admitted⟩

variable [Url.HostMapping]

/-- An address that may be shown, with the URL that it is. -/
structure Vets (enforced : Bool) (entries : List String) (address : String) (url : Url) : Prop where
  parsed : Url.parse (trim address) = .ok url
  secure : url.scheme = "https"
  listed : enforced = true → ∃ host entry, url.hostText = some host ∧ entry ∈ entries ∧
    trim entry ≠ "" ∧ Admits (lowered (trim entry)) (lowered host)

theorem check_parsed {policy : UpdatePolicy} {address : String} {url found : Url}
    (parsed : Url.parse (trim address) = .ok found) :
    policy.check address = .ok url ↔ found = url ∧ found.scheme = "https" ∧
      (policy.enforced = true →
        ∃ host, found.hostText = some host ∧ policy.admitsHost (lowered host) = true) := by
  simp only [check, parsed, bind, Except.bind, pure, Except.pure, throw, throwThe, MonadExceptOf.throw]
  by_cases secure : found.scheme = "https"
  · cases enforcing : policy.enforced with
    | false => simp [secure]
    | true =>
        cases named : found.hostText with
        | none => simp [secure]
        | some host =>
            cases admitted : policy.admitsHost (lowered host) with
            | false => simp [secure, admitted]
            | true => simp [secure, admitted]
  · simp [secure]

/-- What the policy accepts are the addresses that may be shown. -/
theorem check_eq_ok_iff {enforced : Bool} {entries : List String} {address : String} {url : Url} :
    (ofEntries enforced entries).check address = .ok url ↔ Vets enforced entries address url := by
  cases parsed : Url.parse (trim address) with
  | error fault =>
      constructor
      · intro accepted
        simp only [check, parsed] at accepted
        cases accepted
      · intro vetted
        exact absurd (parsed.symm.trans vetted.parsed) (by simp)
  | ok found =>
      rw [check_parsed parsed]
      constructor
      · rintro ⟨rfl, secure, listed⟩
        refine ⟨parsed, secure, fun enforcing => ?_⟩
        obtain ⟨host, named, admitted⟩ := listed enforcing
        obtain ⟨entry, member, filled, admits⟩ := admitsHost_iff.mp admitted
        exact ⟨host, entry, named, member, filled, admits⟩
      · intro vetted
        obtain rfl := Except.ok.inj (parsed.symm.trans vetted.parsed)
        refine ⟨rfl, vetted.secure, fun enforcing => ?_⟩
        obtain ⟨host, entry, named, member, filled, admits⟩ := vetted.listed enforcing
        exact ⟨host, named, admitsHost_iff.mpr ⟨entry, member, filled, admits⟩⟩

end UpdatePolicy

end CardGateway
