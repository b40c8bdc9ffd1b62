import CardGateway.Proofs.Acceptance
import CardGateway.Proofs.Conversation
import CardGateway.Rehearsal.Scripted
import Mathlib.Data.List.TakeWhile

/-!
# The gate of the hello

What a run does beyond greeting the server, and telling it that it is stopped, it does only behind an
answer that lets it: the code is good, the download address can be shown, and the signature covers
the challenge of the run.
-/

namespace CardGateway

open CardGateway.Text CardGateway.Json

theorem Text.trim_eq_empty_iff {text : String} : trim text = "" ↔ isBlankText text = true := by
  have blank : trimChars text.toList = [] ↔ ∀ c ∈ text.toList, isBlank c = true := by
    rw [trimChars, List.reverse_eq_nil_iff, List.dropWhile_eq_nil_iff]
    constructor
    · intro trailing c member
      by_cases leading : c ∈ text.toList.dropWhile isBlank
      · exact trailing c (List.mem_reverse.mpr leading)
      · rw [← List.takeWhile_append_dropWhile (p := isBlank) (l := text.toList)] at member
        have first := (List.mem_append.mp member).resolve_right leading
        exact List.mem_takeWhile_imp first
    · intro all c member
      exact all c ((List.dropWhile_sublist isBlank).subset (List.mem_reverse.mp member))
  rw [← String.toList_inj, trim_toList, String.toList_empty, blank, isBlankText, List.all_eq_true]

namespace Setup

/-- The store that a run believes: the one handed to it, else the one in the configured file, else the
one that comes with the client. -/
inductive Believes (setup : Setup) (store : TrustStore) : Prop where
  | handed (given : setup.trusted = some store)
  | configured (free : setup.trusted = none) {path document : String} {content : Bytes}
      (named : setup.config.trustStore = some path) (file : setup.readFile path = some content)
      (text : Utf8.decode? content = some document) (loads : TrustStore.ofToml document = .ok store)
  | bundled (free : setup.trusted = none) (unnamed : setup.config.trustStore = none)
      (loads : TrustStore.ofToml TrustStore.bundledDocument = .ok store)

theorem believes_iff {setup : Setup} {store : TrustStore} :
    setup.Believes store ↔ setup.trustStore = .ok store := by
  unfold trustStore
  constructor
  · intro h
    cases h with
    | handed given => simp [given]
    | configured free named file text loads =>
        simp [free, named, file, text, loads, TrustStore.ofFile]
    | bundled free unnamed loads => simpa [free, unnamed, TrustStore.bundled] using loads
  · cases given : setup.trusted with
    | some handed =>
        intro same
        obtain rfl := Except.ok.inj same
        exact .handed given
    | none =>
        cases named : setup.config.trustStore with
        | none => exact .bundled given named
        | some path =>
            intro loads
            dsimp only [TrustStore.ofFile] at loads
            cases file : setup.readFile path with
            | none => rw [file] at loads; cases loads
            | some content =>
                cases text : Utf8.decode? content with
                | none => rw [file] at loads; dsimp only at loads; rw [text] at loads; cases loads
                | some document =>
                    rw [file] at loads
                    dsimp only at loads
                    rw [text] at loads
                    exact .configured given named file text loads

/-- An answer to the hello with which the session goes on. -/
structure Admits [Url.HostMapping] (setup : Setup) (response : HelloResponse) : Prop where
  code : response.result = .ok ∨ response.result = .updateRecommended
  address : ∀ address, response.downloadAddress = some address → trim address = "" ∨
    ∃ url, setup.config.updatePolicy.check address = .ok url
  signature : setup.config.validateChallenge = true → ∃ store, setup.Believes store ∧
    store.accepts setup.challenge (response.signature.getD []) = true

theorem authenticate_eq_ok_iff [Url.HostMapping] {setup : Setup} {response : HelloResponse} :
    setup.authenticate response = .ok () ↔ (setup.config.validateChallenge = true →
      ∃ store, setup.Believes store ∧
        store.accepts setup.challenge (response.signature.getD []) = true) := by
  unfold authenticate
  cases setup.config.validateChallenge with
  | false => simp
  | true =>
      simp only [believes_iff, if_true, forall_const]
      cases setup.trustStore with
      | error fault => simp
      | ok store =>
          by_cases accepted : store.accepts setup.challenge (response.signature.getD []) = true
          · simp [accepted]
          · simp [accepted]

theorem weighUpdate_eq_ok_iff [Url.HostMapping] {setup : Setup} {response : HelloResponse} :
    (setup.weighUpdate response).2 = .ok () ↔ response.result ≠ .updateRequired ∧
      ∀ address, response.downloadAddress = some address → trim address = "" ∨
        ∃ url, setup.config.updatePolicy.check address = .ok url := by
  have insisting : setup.unlessOutdated (response.result == .updateRequired) = .ok () ↔
      response.result ≠ .updateRequired := by
    by_cases mandatory : response.result = .updateRequired
    · simp [unlessOutdated, mandatory]
    · simp [unlessOutdated, mandatory]
  unfold weighUpdate offered?
  cases response.downloadAddress with
  | none => simpa using insisting
  | some address =>
      by_cases blank : isBlankText address = true
      · have trimmed := trim_eq_empty_iff.mpr blank
        have offered : (some address).filter (fun address => !isBlankText address) = none := by
          simp [Option.filter, blank]
        simpa [offered, trimmed] using insisting
      · have filled : trim address ≠ "" := fun trimmed => blank (trim_eq_empty_iff.mp trimmed)
        have offered : (some address).filter (fun address => !isBlankText address) = some address := by
          simp [Option.filter, blank]
        rw [offered]
        cases checked : setup.config.updatePolicy.check address with
        | ok url => simpa [checked] using insisting
        | error fault => simp [checked, filled]

theorem judge_eq_ok_iff [Url.HostMapping] {setup : Setup} {response : HelloResponse} :
    (setup.judge response).2 = .ok () ↔ setup.Admits response := by
  have codes : response.result.isHelloAccepted = true ∧ response.result ≠ .updateRequired ↔
      response.result = .ok ∨ response.result = .updateRecommended := by
    cases response.result <;> simp [ResultCode.isHelloAccepted]
  constructor
  · intro good
    unfold judge at good
    cases accepted : response.result.isHelloAccepted with
    | false => simp [accepted] at good
    | true =>
        cases signed : setup.authenticate response with
        | error failure => simp [accepted, signed] at good
        | ok done =>
            simp only [accepted, signed, Bool.not_true, Bool.false_eq_true, if_false] at good
            obtain ⟨optional, address⟩ := weighUpdate_eq_ok_iff.mp good
            exact ⟨codes.mp ⟨accepted, optional⟩, address, authenticate_eq_ok_iff.mp signed⟩
  · rintro ⟨code, address, signature⟩
    obtain ⟨accepted, optional⟩ := codes.mpr code
    have signed := authenticate_eq_ok_iff.mpr signature
    simp only [judge, accepted, signed, Bool.not_true, Bool.false_eq_true, if_false]
    exact weighUpdate_eq_ok_iff.mpr ⟨optional, address⟩

/-- What a run does only behind an answer that admits it: posting anything but its hello and the notice
that it is stopped, and calling the card. -/
def Guards (setup : Setup) : Event → Prop
  | .send resource body => (resource, body) ≠ Post.hello.written setup ∧
      (resource, body) ≠ Post.stop.written setup
  | event => event.isCardCall = true

/-- Events that begin with a hello that holds the challenge of the run, and an answer that admits the
run. -/
def Hails [Url.HostMapping] (setup : Setup) (events : List Event) : Prop :=
  ∃ answer response rest, events = .enter .initial .helloSent ::
      .send (setup.session.resource .hello) (Value.toBytes (.record
        [("SessionIdentifier", .text setup.session.id), ("Version", .text clientVersion),
          ("Challenge", .text (Base64.encodeText .standard setup.challenge.bytes))])) ::
      .answer (.ok answer) :: rest ∧
    HelloResponse.codec.decode answer = .ok response ∧ setup.Admits response

theorem encode_hello (setup : Setup) : HelloRequest.codec.encode setup.hello =
    Value.toBytes (.record [("SessionIdentifier", .text setup.session.id),
      ("Version", .text clientVersion),
      ("Challenge", .text (Base64.encodeText .standard setup.challenge.bytes))]) := by
  have written : HelloRequest.codec.write setup.hello =
      .record [("SessionIdentifier", .text setup.session.id), ("Version", .text clientVersion),
        ("Challenge", .text (Base64.encodeText .standard setup.challenge.bytes))] := rfl
  rw [Codec.encode, written]

theorem guards_send_iff {setup : Setup} {resource : String} {body : Bytes} :
    setup.Guards (.send resource body) ↔ (resource, body) ≠ Post.hello.written setup ∧
      (resource, body) ≠ Post.stop.written setup :=
  Iff.rfl

theorem guards_of_endpoint (setup : Setup) (post : Post) (later : post.endpoint ≠ .hello)
    (earlier : post.endpoint ≠ .terminate) :
    setup.Guards (.send (post.written setup).1 (post.written setup).2) := by
  rw [guards_send_iff, Prod.eta]
  exact ⟨Post.written_ne later, Post.written_ne earlier⟩

theorem not_guards_of_clears {setup : Setup} {event : Event} (h : Act.Clears event) :
    ¬ setup.Guards event := by
  cases h <;> simp [Guards, Event.isCardCall]

theorem not_guards_of_exchanges {setup : Setup} {event : Event}
    (h : Act.Exchanges setup .hello event) : ¬ setup.Guards event := by
  cases h with
  | own =>
      intro guarded
      exact (guards_send_iff.mp guarded).1 (Prod.eta _)
  | notice =>
      intro guarded
      exact (guards_send_iff.mp guarded).2 (Prod.eta _)
  | answer answer => simp [Guards, Event.isCardCall]
  | terminated before => simp [Guards, Event.isCardCall]

end Setup

namespace Act

variable [Url.HostMapping] {σ : Type} {world : World σ} {setup : Setup} {run after : Run σ}

theorem Greeted.wrote {result : Except Halt Unit} (h : Greeted world setup run result after) :
    Run.Wrote (fun event => ¬ setup.Guards event) run after := by
  have hailed : Run.Wrote (fun event => ¬ setup.Guards event) run (run.entered .helloSent) :=
    .entered run (by simp [Setup.Guards, Event.isCardCall])
  have exchanged {result : Except Halt HelloResponse} {mid : Run σ}
      (answer : exchange world setup.session .hello (HelloRequest.codec.encode setup.hello)
        HelloResponse.codec (run.entered .helloSent) = (result, mid)) :
      Run.Wrote (fun event => ¬ setup.Guards event) run mid :=
    hailed.trans (((exchanged_post .hello answer).wrote).mono fun _ =>
      Setup.not_guards_of_exchanges)
  cases h with
  | admitted answer verdict => exact (exchanged answer).trans (.of_journal_eq rfl)
  | refused answer verdict => exact (exchanged answer).trans (.of_journal_eq rfl)
  | broken answer => exact exchanged answer

theorem Opened.greeting {state : σ} {first : Command} {opened : Run σ}
    (h : Opened world setup state first opened) :
    ∃ mid, Greeted world setup (Run.fresh state) (.ok ()) mid ∧ mid.journal <+: opened.journal := by
  cases h with
  | intro greeting asking =>
      rename_i mid
      have asked := (exchanged_post .getCommand asking).wrote
      exact ⟨mid, greeted_of_eq greeting, (mid.entered_grows .awaitingCommand).trans asked.grows⟩

/-- Either the greeting went well first, or nothing was done that has to wait for it. -/
theorem Conversed.greeting {bound : Nat} {state : σ} {result : Except Halt Terminate}
    (h : Conversed world setup bound state result after) :
    (∃ mid, Greeted world setup (Run.fresh state) (.ok ()) mid ∧ mid.events <+: after.events) ∨
      ∀ event ∈ after.events, ¬ setup.Guards event := by
  cases h with
  | unheard greeting =>
      obtain ⟨written, events, kind⟩ := (greeted_of_eq greeting).wrote.events
      refine .inr fun event member => kind event ?_
      simpa [events] using member
  | unasked greeting asking =>
      rename_i mid reason
      have asked := (exchanged_post .getCommand asking).wrote
      exact .inl ⟨mid, greeted_of_eq greeting,
        Run.events_grow ((mid.entered_grows .awaitingCommand).trans asked.grows)⟩
  | served opening serving =>
      obtain ⟨mid, greeted, growth⟩ := opening.greeting
      exact .inl ⟨mid, greeted, Run.events_grow (growth.trans serving.grows)⟩

end Act

namespace Setup

/-- Whatever is posted but the hello and the notice that the run is stopped, and whatever the card is
asked, comes behind the exchange of a hello with the challenge of the run, and behind an answer to it
that admits the run. -/
theorem guarded_event_follows_admission [Url.HostMapping] {σ : Type} (setup : Setup)
    (world : World σ) (bound : Nat) (state : σ) {before after : List Event} {event : Event}
    (split : (setup.run world bound state).2.events = before ++ event :: after)
    (guarded : setup.Guards event) :
    setup.Hails before := by
  obtain ⟨result, mid, _, conversed, _, cleaning⟩ := exists_conversed setup world bound state
  obtain ⟨cleared, events, kind⟩ := cleaning.events
  rw [events] at split
  rcases conversed.greeting with ⟨hailed, greeted, rest, grown⟩ | unguarded
  · obtain ⟨answer, response, opening, decoded, verdict⟩ := greeted.events_eq
    have outside : event ∉ hailed.events := by
      obtain ⟨written, wrote, harmless⟩ := greeted.wrote.events
      intro inside
      exact harmless event (by simpa [wrote] using inside) guarded
    rw [← grown, List.append_assoc] at split
    rcases split_append split with ⟨others, inside⟩ | ⟨more, rfl, _⟩
    · exact absurd (by rw [inside]; simp) outside
    refine ⟨answer, response, more, ?_, decoded, judge_eq_ok_iff.mp verdict⟩
    simp only [opening, Post.written_hello, encode_hello, List.cons_append, List.nil_append]
  · have member : event ∈ before ++ event :: after := by simp
    rw [← split] at member
    rcases List.mem_append.mp member with conversing | clearing
    · exact absurd guarded (unguarded event conversing)
    · exact absurd guarded (not_guards_of_clears (kind event clearing))

/-- A session whose server has to sign the challenge, with the private key 1. -/
def signed : Setup :=
  { plain with config := Config.standard, trusted := some ⟨[TrustStore.generatorKey], nofun⟩ }

/-- An answer to the hello with a signature, and with an address below a domain that is allowed. -/
def signing : Bytes :=
  let signature := Base64.encodeText .standard TrustStore.highSignature.toDer
  Value.toBytes (.record [("Result", .text "OK"), ("Signature", .text signature),
    ("DownloadAddress", .text "https://get.openecard.org/")])

/-- The request for a command is posted behind the shortest answer that is good, and behind one with
all that a setup may ask for. -/
theorem command_requested_behind_admission :
    (∃ before after, (plain.run (.scripted none) 0 [World.accepting]).2.events = before ++
        .send (Post.getCommand.written plain).1 (Post.getCommand.written plain).2 :: after ∧
      plain.Hails before) ∧
    ∃ before after, (signed.run (.scripted none) 0 [signing]).2.events = before ++
        .send (Post.getCommand.written signed).1 (Post.getCommand.written signed).2 :: after ∧
      signed.Hails before := by
  constructor
  · have posted : Post.getCommand.written plain ∈
        sent (plain.run (.scripted none) 0 [World.accepting]).2.events := by
      decide +kernel
    have guarded := guards_of_endpoint plain .getCommand (by decide) (by decide)
    obtain ⟨before, after, split⟩ := List.append_of_mem (mem_sent.mp posted)
    exact ⟨before, after, split, guarded_event_follows_admission plain (.scripted none) 0
      [World.accepting] split guarded⟩
  · have posted : Post.getCommand.written signed ∈
        sent (signed.run (.scripted none) 0 [signing]).2.events := by
      decide +kernel
    have guarded := guards_of_endpoint signed .getCommand (by decide) (by decide)
    obtain ⟨before, after, split⟩ := List.append_of_mem (mem_sent.mp posted)
    exact ⟨before, after, split, guarded_event_follows_admission signed (.scripted none) 0
      [signing] split guarded⟩

end Setup

end CardGateway
