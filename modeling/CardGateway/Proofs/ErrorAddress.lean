import CardGateway.Proofs.FormPairs
import CardGateway.Proofs.UrlParts
import CardGateway.Session.Basic
import CardGateway.Url.Domain

/-!
# Where the user is sent

The user of a failed session is sent to the session's address for errors, if that is a URL of the
secure web. The outcome is told at the end of its query: the pairs that were there are kept, and so are
all other parts of the URL, the fragment behind the query too.
-/

namespace CardGateway

namespace Session

/-- What stands in front of pairs that are appended to a query. -/
def lead (query : Option String) : String :=
  if query.getD "" = "" then "" else query.getD "" ++ "&"

/-- The target is the URL with the outcome at the end of its query. -/
structure Tells (blame : Blame) (url target : Url) : Prop where
  /-- Only the query is another one. -/
  kept : target = { url with query := target.query }
  query : target.query = some (lead url.query ++ "ResultMajor=error&ResultMinor=" ++ blame.text)
  pairs : ∀ query ∈ target.query, Url.formPairs query =
    Url.formPairs (url.query.getD "") ++ [("ResultMajor", "error"), ("ResultMinor", blame.text)]
  /-- The text still falls apart in the same places. -/
  parts : Url.splitTail target.text.toList =
    ⟨url.base.toList, target.query.map String.toList, url.fragment.map String.toList⟩

theorem extendQuery_outcome (query : Option String) (blame : Blame) :
    Url.extendQuery query (outcome blame) =
      lead query ++ "ResultMajor=error&ResultMinor=" ++ blame.text := by
  have major : Url.pairText ("ResultMajor", "error") = "ResultMajor=error" := by decide
  have told : "ResultMajor=error" ++ "&" ++ Url.pairText ("ResultMinor", blame.text) =
      "ResultMajor=error&ResultMinor=" ++ blame.text := by
    cases blame <;> decide
  have first : (if (query.getD "").isEmpty then "ResultMajor=error"
      else query.getD "" ++ "&" ++ "ResultMajor=error") = lead query ++ "ResultMajor=error" := by
    unfold lead
    by_cases blank : query.getD "" = ""
    · rw [blank]
      decide
    · rw [if_neg blank, if_neg (by simpa using blank)]
  have filled : ¬ (lead query ++ "ResultMajor=error").isEmpty = true := by simp
  unfold Url.extendQuery outcome
  rw [List.foldl_cons, List.foldl_cons, List.foldl_nil, major, first, if_neg filled]
  simp only [String.append_assoc, ← told]

section Redirected

variable [Url.HostMapping] {url : Url} {address : String}

inductive Refuses (address : String) : RedirectFault → Prop where
  | malformed {fault : Url.Fault} (parsed : Url.parse address = .error fault) :
      Refuses address (.malformed fault)
  | insecure {url : Url} (parsed : Url.parse address = .ok url) (scheme : url.scheme ≠ "https") :
      Refuses address (.scheme url.scheme)

theorem tells_withPairs (parsed : Url.parse address = .ok url) (secure : url.scheme = "https")
    (blame : Blame) : Tells blame url (url.withPairs (outcome blame)) where
  kept := rfl
  query := congrArg some (extendQuery_outcome url.query blame)
  pairs query found := by
    obtain rfl := Option.some.inj found
    exact Url.formPairs_extendQuery (outcome blame) url.query
  parts := by
    refine Url.splitTail_text parsed secure fun query found => ?_
    obtain rfl := Option.some.inj found
    have old : '#' ∉ (lead url.query).toList := by
      unfold lead
      split
      · decide
      · next filled =>
          cases given : url.query with
          | none => simp [given] at filled
          | some query =>
              have whole := Url.query_whole parsed secure given
              simpa using whole
    have added : '#' ∉ ("ResultMajor=error&ResultMinor=" ++ blame.text).toList := by
      cases blame <;> decide
    rw [extendQuery_outcome, String.append_assoc, String.toList_append, List.mem_append]
    exact not_or.mpr ⟨old, added⟩

/-- A session without an address sends the user nowhere. One with an address sends the user there and
tells the outcome, or it fails with the address as it is, if that is no URL of the secure web. -/
theorem redirect_tells_outcome (session : Session) (blame : Blame) :
    (session.errorAddress = none → session.redirect blame = .ok none) ∧
    ∀ address, session.errorAddress = some address →
      (∀ url, Url.parse address = .ok url → url.scheme = "https" →
        ∃ target, session.redirect blame = .ok (some target) ∧ Tells blame url target) ∧
      ((¬ ∃ url, Url.parse address = .ok url ∧ url.scheme = "https") →
        ∃ fault, session.redirect blame = .error (.redirect address fault) ∧
          Refuses address fault) := by
  unfold redirect
  refine ⟨fun missing => by rw [missing], fun address given => ?_⟩
  rw [given]
  dsimp only
  constructor
  · intro url parsed secure
    refine ⟨url.withPairs (outcome blame), ?_, tells_withPairs parsed secure blame⟩
    rw [parsed]
    exact if_neg (not_not_intro secure)
  · intro other
    cases parsed : Url.parse address with
    | error fault => exact ⟨_, rfl, .malformed parsed⟩
    | ok url =>
        have insecure : url.scheme ≠ "https" := fun secure => other ⟨url, parsed, secure⟩
        exact ⟨_, if_pos insecure, .insecure parsed insecure⟩

end Redirected

def helped (address : Option String) : Session := ⟨"s", Url.bare "https", address, none⟩

/-- An address with a name past ASCII, a query and a fragment. -/
def helpAddress : String := "https://u@Help.Bücher.example:8443/e?a=1&a=+#top"

/-- The outcome is told between the query and the fragment of an address, and an address of the plain
web is refused. -/
theorem outcome_told_before_fragment :
    (∃ target, redirect (helped (some helpAddress)) .client = .ok (some target) ∧
      target.text = "https://u@help.xn--bcher-kva.example:8443/e?a=1&a=+" ++
        "&ResultMajor=error&ResultMinor=clientError#top" ∧
      ∀ query ∈ target.query, Url.formPairs query =
        [("a", "1"), ("a", " "), ("ResultMajor", "error"), ("ResultMinor", "clientError")]) ∧
    redirect (helped none) .client = .ok none ∧
    ∃ fault, redirect (helped (some "http://help.example/")) .client =
      .error (.redirect "http://help.example/" fault) := by
  have parsed : Url.parse helpAddress = .ok ⟨"https", "u", some (.name "help.xn--bcher-kva.example"),
      some 8443, true, "/e", some "a=1&a=+", some "top"⟩ := by
    decide +kernel
  have plain : Url.parse "http://help.example/" =
      .ok ⟨"http", "", some (.name "help.example"), none, true, "/", none, none⟩ := by
    decide +kernel
  refine ⟨?_, (redirect_tells_outcome _ _).1 rfl, ?_⟩
  · obtain ⟨-, told⟩ := redirect_tells_outcome (helped (some helpAddress)) .client
    obtain ⟨target, sent, tells⟩ := (told _ rfl).1 _ parsed rfl
    refine ⟨target, sent, ?_, fun query found => ?_⟩
    · rw [tells.kept, tells.query]
      decide
    · rw [tells.pairs query found]
      decide
  · obtain ⟨-, told⟩ := redirect_tells_outcome (helped (some "http://help.example/")) .client
    obtain ⟨fault, refused, -⟩ := (told _ rfl).2 <| by
      rintro ⟨url, found, secure⟩
      obtain rfl := Except.ok.inj (plain.symm.trans found)
      exact absurd secure (by decide)
    exact ⟨fault, refused⟩

end Session

end CardGateway
