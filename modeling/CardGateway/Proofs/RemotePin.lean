import CardGateway.Pin.Remote
import CardGateway.Proofs.Jwe
import CardGateway.Proofs.Utf8
import CardGateway.Session.Basic

/-!
# Where PINs and their keys come from

A PIN is what an encrypted text opens to under the key of the session, read as UTF-8. The key is the
one in the session token, where that names the protocol for encrypted PINs. A PIN that was sent and
gives no such text is unusable, for whatever reason.
-/

namespace CardGateway

open CardGateway.Text

namespace PinPolicy

variable {policy : PinPolicy} {encrypted : Option String} {text : String} {pin : Option Pin}

/-- The PIN, or none, with which a request goes to the card. -/
inductive Grants (policy : PinPolicy) : Option String → Option Pin → Prop where
  | unsent : Grants policy none none
  | disabled {text : String} (off : policy.allowed = false) : Grants policy (some text) none
  | empty {text : String} {key : PinKey} (allowed : policy.allowed = true)
      (held : policy.key = some key) (opens : Jwe.Opens key.bytes text []) :
      Grants policy (some text) none
  | sent {text : String} {key : PinKey} {pin : Pin} (allowed : policy.allowed = true)
      (held : policy.key = some key)
      (opens : Jwe.Opens key.bytes text (Utf8.encode pin.expose)) (filled : pin.chars ≠ []) :
      Grants policy (some text) (some pin)

/-- A PIN that was sent where it is allowed, but that no key opens to a text. -/
structure Unusable (policy : PinPolicy) (text : String) : Prop where
  allowed : policy.allowed = true
  closed : ∀ key characters, policy.key = some key →
    ¬ Jwe.Opens key.bytes text (Utf8.encode characters)

theorem Grants.of_text {key : PinKey} {characters : String} (allowed : policy.allowed = true)
    (held : policy.key = some key) (opens : Jwe.Opens key.bytes text (Utf8.encode characters))
    (filled : characters.toList ≠ []) : policy.Grants (some text) (some (.ofText characters)) := by
  refine .sent allowed held ?_ filled
  rwa [Pin.expose_ofText]

theorem Grants.of_unwrap (done : policy.unwrap encrypted = .ok pin) :
    policy.Grants encrypted pin := by
  cases encrypted with
  | none =>
      obtain rfl := Except.ok.inj done
      exact .unsent
  | some text =>
      unfold unwrap at done
      cases allowed : policy.allowed with
      | false =>
          simp only [allowed, Bool.not_false, if_true] at done
          obtain rfl := Except.ok.inj done
          exact .disabled allowed
      | true =>
          simp only [allowed, Bool.not_true, Bool.false_eq_true, if_false] at done
          cases held : policy.key with
          | none => simp [held] at done
          | some key =>
              rcases opening : key.decrypt text with fault | _ | ⟨b, rest⟩
              · simp [held, opening] at done
              · simp only [held, opening] at done
                obtain rfl := Except.ok.inj done
                exact .empty allowed held (Jwe.decrypt_eq_ok_iff.mp opening)
              · cases read : Utf8.decode? (b :: rest) with
                | none => simp [held, opening, read] at done
                | some characters =>
                    simp only [held, opening, read] at done
                    obtain rfl := Except.ok.inj done
                    have written := Utf8.encode_of_decode? read
                    have opens := Jwe.decrypt_eq_ok_iff.mp opening
                    rw [← written] at opens
                    refine .of_text allowed held opens ?_
                    intro blank
                    simp [Utf8.encode, blank] at written

theorem Grants.unwrap_eq (granted : policy.Grants encrypted pin) :
    policy.unwrap encrypted = .ok pin := by
  cases granted with
  | unsent => rfl
  | disabled off => simp [unwrap, off]
  | @empty text key allowed held opens =>
      have opening : key.decrypt text = .ok [] := Jwe.decrypt_eq_ok_iff.mpr opens
      simp [unwrap, allowed, held, opening]
  | @sent text key pin allowed held opens filled =>
      have opening : key.decrypt text = .ok (Utf8.encode pin.expose) :=
        Jwe.decrypt_eq_ok_iff.mpr opens
      have read : Utf8.decode? (Utf8.encode pin.expose) = some pin.expose :=
        Utf8.decode?_encode pin.expose
      have whole : Pin.ofText pin.expose = pin := by simp [Pin.ofText, Pin.expose]
      rcases plain : Utf8.encode pin.expose with _ | ⟨b, rest⟩
      · have blank : "" = pin.expose := by
          rw [plain] at read
          exact Option.some.inj read
        refine absurd ?_ filled
        simpa [Pin.expose] using (congrArg String.toList blank).symm
      · rw [plain] at opening read
        simp [unwrap, allowed, held, opening, read, whole]

/-- A PIN that was sent is unusable unless there is something that the policy grants for it. -/
theorem unusable_iff : policy.Unusable text ↔ ∀ pin, ¬ policy.Grants (some text) pin := by
  constructor
  · rintro ⟨allowed, closed⟩ pin granted
    cases granted with
    | disabled off => simp [allowed] at off
    | empty allowed held opens => exact closed _ "" held opens
    | sent allowed held opens filled => exact closed _ _ held opens
  · intro nothing
    have allowed : policy.allowed = true := by
      cases off : policy.allowed with
      | true => rfl
      | false => exact absurd (.disabled off) (nothing none)
    refine ⟨allowed, ?_⟩
    intro key characters held opens
    by_cases filled : characters.toList = []
    · rw [Utf8.encode, filled] at opens
      exact nothing none (.empty allowed held opens)
    · exact nothing _ (.of_text allowed held opens filled)

theorem unwrap_eq_error_iff :
    (∃ fault, policy.unwrap (some text) = .error fault) ↔ policy.Unusable text := by
  rw [unusable_iff]
  constructor
  · rintro ⟨fault, failed⟩ pin granted
    rw [granted.unwrap_eq] at failed
    cases failed
  · intro nothing
    cases unwrapped : policy.unwrap (some text) with
    | error fault => exact ⟨fault, rfl⟩
    | ok pin => exact absurd (.of_unwrap unwrapped) (nothing pin)

end PinPolicy

namespace PinKey

variable {key : PinKey} {bytes : Bytes} {text : String}

theorem ofBytes_eq_ok_iff : ofBytes bytes = .ok key ↔ bytes = key.bytes := by
  unfold ofBytes
  constructor
  · intro made
    split at made
    · obtain rfl := Except.ok.inj made
      rfl
    · cases made
  · rintro rfl
    rw [dif_pos key.fits]

/-- A key is read from a JSON Web Key of the type for byte strings. -/
theorem ofJwk_eq_ok_iff : ofJwk text = .ok key ↔
    ∃ value, Jwk.codec.decode (Utf8.encode text) = .ok ⟨"oct", some value⟩ ∧
      Base64.decode .urlSafe ((unpadded value).flatMap Utf8.encodeChar) = .ok key.bytes := by
  unfold ofJwk
  rcases Jwk.codec.decode (Utf8.encode text) with fault | ⟨keyType, value⟩
  · simp
  · by_cases octets : keyType = "oct"
    · cases value with
      | none => simp [octets]
      | some value =>
          cases read : Base64.decode .urlSafe ((unpadded value).flatMap Utf8.encodeChar) with
          | error fault =>
              simp [octets, read]
          | ok bytes =>
              simpa [octets, read] using ofBytes_eq_ok_iff
    · simp [octets]

end PinKey

namespace SessionToken

/-- A token carries a key for PINs: it names the protocol for encrypted PINs, and its parameters hold
a JSON Web Key of the type for byte strings and of a size that some content encryption has. -/
inductive Carries (token : SessionToken) (key : PinKey) : Prop where
  | intro {parameters : PathSecurity} {value : String}
      (protocol : token.protocol = some PathSecurity.pinEncryption)
      (given : token.parameters = some parameters)
      (octets : PinKey.Jwk.codec.decode (Utf8.encode parameters.jwk) = .ok ⟨"oct", some value⟩)
      (read : Base64.decode .urlSafe ((PinKey.unpadded value).flatMap Utf8.encodeChar) =
        .ok key.bytes) : Carries token key

variable {token : SessionToken} {key : PinKey}

theorem pinKey_eq_some_iff : token.pinKey = some key ↔ token.Carries key := by
  constructor
  · intro held
    unfold pinKey at held
    cases protocol : token.protocol with
    | none => simp [protocol] at held
    | some name =>
        cases given : token.parameters with
        | none => simp [protocol, given] at held
        | some parameters =>
            by_cases named : name = PathSecurity.pinEncryption
            case neg => simp [protocol, given, named] at held
            cases made : PinKey.ofJwk parameters.jwk with
            | error fault => simp [protocol, given, named, made, Except.toOption] at held
            | ok other =>
                obtain rfl : other = key := by
                  simpa [protocol, given, named, made, Except.toOption] using held
                obtain ⟨value, octets, read⟩ := PinKey.ofJwk_eq_ok_iff.mp made
                exact .intro (by rw [protocol, named]) given octets read
  · rintro ⟨protocol, given, octets, read⟩
    have made := PinKey.ofJwk_eq_ok_iff.mpr ⟨_, octets, read⟩
    simp [pinKey, protocol, given, made, Except.toOption]

end SessionToken

/-- The session of a token has the key that the token carries, and no other. -/
theorem Session.pinKey_of_ofToken [Url.HostMapping] {token : SessionToken} {session : Session}
    (made : ofToken token = .ok session) (key : PinKey) :
    session.pinKey = some key ↔ token.Carries key := by
  rw [← SessionToken.pinKey_eq_some_iff]
  unfold ofToken at made
  cases parsed : Url.parse token.server with
  | error fault => simp [parsed] at made
  | ok server =>
      by_cases hostless : server.host.isNone = true
      · simp [parsed, hostless] at made
      · simp only [parsed, hostless, Bool.false_eq_true, if_false] at made
        obtain rfl := Except.ok.inj made
        exact Iff.rfl

end CardGateway
