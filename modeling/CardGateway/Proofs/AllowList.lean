import Mathlib.Control.Monad.Basic
import CardGateway.Proofs.DownloadAddress
import CardGateway.Proofs.Faults
import CardGateway.Url.Domain

/-!
# What the list of hosts lets through

The verdict on an address that is a URL depends on its scheme and its host alone, and a longer list
lets more through. An entry for a domain stays below the dot in front of that domain.
-/

namespace CardGateway.UpdatePolicy

open CardGateway.Text

/-- The verdict on a scheme and a host in lower case. -/
def verdict (policy : UpdatePolicy) (scheme : String) (host : Option String) : Except Fault Unit :=
  if scheme ≠ "https" then .error (.insecureScheme scheme)
  else if policy.enforced then
    match host with
    | none => .error .hostless
    | some host => if policy.admitsHost host then .ok () else .error (.hostNotAllowed host)
  else .ok ()

section Entries

variable {domain host lead : String}

/-- What an entry for a domain admits ends in a dot and the domain, with something in front. -/
theorem Admits.below_inv (admitted : Admits ("*." ++ domain) host) :
    ∃ labels, labels ≠ "" ∧ host = labels ++ "." ++ domain := by
  generalize entry : "*." ++ domain = wild at admitted
  cases admitted with
  | named exact => exact absurd entry.symm (exact domain)
  | @below labels second labelled =>
      have same : domain = second := String.append_right_inj _ |>.mp entry
      exact ⟨labels, labelled, by rw [same]⟩

/-- An entry for a domain does not admit hosts that end in the domain with no dot before it. -/
theorem not_admits_undotted (undotted : ∀ labels, lead ≠ labels ++ ".") :
    ¬ Admits ("*." ++ domain) (lead ++ domain) := by
  intro admitted
  obtain ⟨labels, -, same⟩ := admitted.below_inv
  exact undotted labels (String.append_left_inj _ |>.mp same)

theorem empty_undotted (labels : String) : "" ≠ labels ++ "." := by
  intro same
  have lengths := congrArg (fun text => text.toList.length) same
  simp at lengths

theorem admits_iff_named_or_below {entry : String} : Admits entry host ↔
    (∀ domain, entry ≠ "*." ++ domain) ∧ host = entry ∨
      ∃ labels domain, entry = "*." ++ domain ∧ labels ≠ "" ∧ host = labels ++ "." ++ domain := by
  constructor
  · intro admitted
    cases admitted with
    | named exact => exact .inl ⟨exact, rfl⟩
    | @below labels domain labelled => exact .inr ⟨labels, domain, rfl, labelled, rfl⟩
  · rintro (⟨exact, rfl⟩ | ⟨labels, domain, rfl, labelled, rfl⟩)
    · exact .named exact
    · exact .below labelled

end Entries

section Verdicts

variable [Url.HostMapping] {policy : UpdatePolicy} {enforced : Bool} {entries more : List String}
  {address other domain host lead : String} {url url' : Url}

theorem check_eq_verdict (parsed : Url.parse (trim address) = .ok url) :
    policy.check address =
      (policy.verdict url.scheme (url.hostText.map lowered)).map fun _ => url := by
  simp only [check, parsed, pure_eq_ok, ok_bind, verdict]
  by_cases secure : url.scheme = "https"
  case neg => simp [secure, Except.map]
  cases enforcing : policy.enforced with
  | false => simp [secure, Except.map]
  | true =>
      cases named : url.hostText with
      | none => simp [secure, Except.map]
      | some host =>
          cases admitted : policy.admitsHost (lowered host) with
          | false => simp [secure, admitted, Except.map]
          | true => simp [secure, admitted, Except.map]

/-- Scheme and host decide. -/
theorem verdict_congr (parsed : Url.parse (trim address) = .ok url)
    (parsed' : Url.parse (trim other) = .ok url') (scheme : url.scheme = url'.scheme)
    (host : url.hostText.map lowered = url'.hostText.map lowered) :
    (policy.check address).map (fun _ => ()) = (policy.check other).map fun _ => () := by
  have forget (url : Url) (result : Except Fault Unit) :
      (result.map fun _ => url).map (fun _ => ()) = result := by
    cases result <;> rfl
  rw [check_eq_verdict parsed, check_eq_verdict parsed', forget, forget, scheme, host]

/-- A list with one entry for a domain refuses what ends in the domain with no dot before it. -/
theorem refused_of_undotted {entry : String} (wild : lowered (trim entry) = "*." ++ domain)
    (parsed : Url.parse (trim address) = .ok url) (named : url.hostText = some host)
    (undotted : ∀ labels, lead ≠ labels ++ ".") (ending : lowered host = lead ++ domain) :
    (ofEntries true [entry]).check address ≠ .ok url' := by
  rw [ne_eq, check_eq_ok_iff]
  intro vets
  obtain rfl := Except.ok.inj (parsed.symm.trans vets.parsed)
  obtain ⟨found, listed, named', member, -, admitted⟩ := vets.listed rfl
  obtain rfl := List.mem_singleton.mp member
  obtain rfl := Option.some.inj (named.symm.trans named')
  rw [wild, ending] at admitted
  exact not_admits_undotted undotted admitted

theorem Vets.mono (subset : ∀ entry ∈ entries, entry ∈ more)
    (vets : Vets enforced entries address url) : Vets enforced more address url := by
  refine ⟨vets.parsed, vets.secure, fun enforcing => ?_⟩
  obtain ⟨host, entry, named, member, filled, admits⟩ := vets.listed enforcing
  exact ⟨host, entry, named, subset entry member, filled, admits⟩

/-- An address is let through if it is a URL of the secure web and, where the list is enforced, its host
is an entry or stands below one. So scheme and host alone decide about URLs, an entry for a domain lets
neither the domain itself through nor what merely ends like it, and more entries let more through. -/
theorem let_through_by_scheme_and_host (enforced : Bool) (entries : List String) :
    (∀ address url, (ofEntries enforced entries).check address = .ok url ↔
      Url.parse (trim address) = .ok url ∧ url.scheme = "https" ∧
      (enforced = true → ∃ host, url.hostText = some host ∧
        ∃ entry ∈ entries, trim entry ≠ "" ∧
          ((∀ domain, lowered (trim entry) ≠ "*." ++ domain) ∧
              lowered host = lowered (trim entry) ∨
            ∃ labels domain, lowered (trim entry) = "*." ++ domain ∧ labels ≠ "" ∧
              lowered host = labels ++ "." ++ domain))) ∧
    (∀ address other url url', Url.parse (trim address) = .ok url →
      Url.parse (trim other) = .ok url' → url.scheme = url'.scheme →
      url.hostText.map lowered = url'.hostText.map lowered →
      ((ofEntries enforced entries).check address).map (fun _ => ()) =
        ((ofEntries enforced entries).check other).map fun _ => ()) ∧
    (∀ entry domain address url host, lowered (trim entry) = "*." ++ domain →
      Url.parse (trim address) = .ok url → url.hostText = some host →
      (lowered host = domain ∨
        ∃ lead, (∀ labels, lead ≠ labels ++ ".") ∧ lowered host = lead ++ domain) →
      ∀ found, (ofEntries true [entry]).check address ≠ .ok found) ∧
    (∀ more, (∀ entry ∈ entries, entry ∈ more) →
      ∀ address url, (ofEntries enforced entries).check address = .ok url →
        (ofEntries enforced more).check address = .ok url) := by
  refine ⟨?_, ?_, ?_, ?_⟩
  · intro address url
    rw [check_eq_ok_iff]
    simp only [← admits_iff_named_or_below]
    constructor
    · intro vets
      refine ⟨vets.parsed, vets.secure, fun enforcing => ?_⟩
      obtain ⟨host, entry, named, member, filled, admits⟩ := vets.listed enforcing
      exact ⟨host, named, entry, member, filled, admits⟩
    · rintro ⟨parsed, secure, listed⟩
      refine ⟨parsed, secure, fun enforcing => ?_⟩
      obtain ⟨host, named, entry, member, filled, admits⟩ := listed enforcing
      exact ⟨host, entry, named, member, filled, admits⟩
  · intro address other url url' parsed parsed' scheme host
    exact verdict_congr parsed parsed' scheme host
  · intro entry domain address url host wild parsed named ending found
    rcases ending with same | ⟨lead, undotted, ending⟩
    · have ending : lowered host = "" ++ domain := by rw [same, String.empty_append]
      exact refused_of_undotted wild parsed named empty_undotted ending
    · exact refused_of_undotted wild parsed named undotted ending
  · intro more subset address url accepted
    rw [check_eq_ok_iff] at accepted ⊢
    exact accepted.mono subset

end Verdicts

/-- Two addresses at a host below a domain are let through. Neither are the domain itself, nor a host that
ends like another domain with no dot before it. -/
theorem subdomain_let_through :
    let policy := ofEntries true [" *.OpeneCard.org "]
    (∃ url, policy.check " https://user@Get.openecard.org:8443/a?b#c " = .ok url) ∧
      (policy.check " https://user@Get.openecard.org:8443/a?b#c ").map (fun _ => ()) =
        (policy.check "https://get.OPENECARD.org").map (fun _ => ()) ∧
      (∃ url, (ofEntries true ["", " *.OpeneCard.org "]).check
        " https://user@Get.openecard.org:8443/a?b#c " = .ok url) ∧
      (∀ url, policy.check "https://openecard.org" ≠ .ok url) ∧
      ∀ url, (ofEntries true ["*.card.org"]).check "https://openecard.org" ≠ .ok url := by
  intro policy
  obtain ⟨through, alike, undotted, longer⟩ :=
    let_through_by_scheme_and_host true [" *.OpeneCard.org "]
  have parsed : Url.parse (trim " https://user@Get.openecard.org:8443/a?b#c ") =
      .ok ⟨"https", "user", some (.name "get.openecard.org"), some 8443, true, "/a", some "b",
        some "c"⟩ := by
    decide +kernel
  have plain : Url.parse (trim "https://get.OPENECARD.org") =
      .ok ⟨"https", "", some (.name "get.openecard.org"), none, true, "/", none, none⟩ := by
    decide +kernel
  have domain : Url.parse (trim "https://openecard.org") =
      .ok ⟨"https", "", some (.name "openecard.org"), none, true, "/", none, none⟩ := by
    decide +kernel
  have wild : lowered (trim " *.OpeneCard.org ") = "*." ++ "openecard.org" := by decide +kernel
  have accepted := (through _ _).mpr ⟨parsed, rfl, fun _ => ⟨_, rfl, " *.OpeneCard.org ",
    List.mem_singleton_self _, by decide +kernel,
    .inr ⟨"get", "openecard.org", wild, by decide, by decide +kernel⟩⟩⟩
  refine ⟨⟨_, accepted⟩, alike _ _ _ _ parsed plain rfl rfl, ⟨_, longer _ ?_ _ _ accepted⟩, ?_, ?_⟩
  · intro entry member
    exact List.mem_cons_of_mem _ member
  · exact undotted _ "openecard.org" _ _ _ wild domain rfl (.inl (by decide +kernel))
  · refine undotted "*.card.org" "card.org" _ _ _ (by decide +kernel) domain rfl
      (.inr ⟨"opene", ?_, by decide +kernel⟩)
    intro labels same
    have last := congrArg (fun text => text.toList.getLast?) same
    simp at last

end CardGateway.UpdatePolicy
