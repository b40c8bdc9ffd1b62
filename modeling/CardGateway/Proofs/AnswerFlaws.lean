import CardGateway.Http.Client

/-!
# Answers that go wrong

An answer breaks where its stream ends before it is whole, and where what stands for its chunks are no
chunks. It is not framed as it has to be where its head cannot be read, is too long or contradicts
itself. So the bytes that have come, and whether the stream has ended behind them, tell the fault.
-/

namespace CardGateway.Http

namespace Answer

/-- What makes bytes no answer, and no beginning of one if their stream has ended. -/
inductive Flawed (bytes : Bytes) (ended : Bool) : TransportFault → Prop where
  | cutHead (found : readHead (bytes.length + 1) bytes = .more) (short : bytes.length < headLimit)
      (closed : ended = true) : Flawed bytes ended .broken
  | cutLength {head : Head} {rest : Bytes} {count : Nat}
      (found : readHead (bytes.length + 1) bytes = .done head rest)
      (framing : Framing.ofHead? head = some (.length count)) (missing : rest.length < count)
      (closed : ended = true) : Flawed bytes ended .broken
  | cutChunks {head : Head} {rest : Bytes}
      (found : readHead (bytes.length + 1) bytes = .done head rest)
      (framing : Framing.ofHead? head = some .chunked) (missing : Chunked.read rest = .more)
      (closed : ended = true) : Flawed bytes ended .broken
  /-- The stream may go on. -/
  | noChunks {head : Head} {rest : Bytes}
      (found : readHead (bytes.length + 1) bytes = .done head rest)
      (framing : Framing.ofHead? head = some .chunked) (garbled : Chunked.read rest = .bad) :
      Flawed bytes ended .broken
  | noHead (garbled : readHead (bytes.length + 1) bytes = .bad) : Flawed bytes ended .framing
  | longHead (found : readHead (bytes.length + 1) bytes = .more) (long : headLimit ≤ bytes.length) :
      Flawed bytes ended .framing
  | contradiction {head : Head} {rest : Bytes}
      (found : readHead (bytes.length + 1) bytes = .done head rest)
      (framing : Framing.ofHead? head = none) : Flawed bytes ended .framing

variable {bytes : Bytes} {ended : Bool} {fault : TransportFault}

theorem Flawed.of_readBody {head : Head} {rest : Bytes}
    (found : readHead (bytes.length + 1) bytes = .done head rest)
    (read : readBody head rest ended = .fault fault) : Flawed bytes ended fault := by
  unfold readBody at read
  dsimp only at read
  split at read
  · next framing =>
      cases read
      exact .contradiction found framing
  · next count framing =>
      split at read
      · cases read
      · next missing =>
          cases ended with
          | true =>
              cases read
              exact .cutLength found framing (Nat.not_le.mp missing) rfl
          | false => cases read
  · next framing =>
      split at read
      · cases read
      · next missing =>
          cases ended with
          | true =>
              cases read
              exact .cutChunks found framing missing rfl
          | false => cases read
      · next garbled =>
          cases read
          exact .noChunks found framing garbled
  · cases ended <;> cases read

theorem read_eq_fault_iff : read bytes ended = .fault fault ↔ Flawed bytes ended fault := by
  constructor
  · intro flawed
    unfold read at flawed
    split at flawed
    · next head rest found => exact .of_readBody found flawed
    · next garbled =>
        cases flawed
        exact .noHead garbled
    · next found =>
        split at flawed
        · next long =>
            cases flawed
            exact .longHead found long
        · next short =>
            cases ended with
            | true =>
                cases flawed
                exact .cutHead found (Nat.not_le.mp short) rfl
            | false => cases flawed
  · intro flawed
    cases flawed with
    | cutHead found short closed => simp [read, found, Nat.not_le.mpr short, closed]
    | cutLength found framing missing closed =>
        simp [read, found, readBody, framing, Nat.not_le.mpr missing, closed]
    | cutChunks found framing missing closed =>
        simp [read, found, readBody, framing, missing, closed]
    | noChunks found framing garbled => simp [read, found, readBody, framing, garbled]
    | noHead garbled => simp [read, garbled]
    | longHead found long => simp [read, found, long]
    | contradiction found framing => simp [read, found, readBody, framing]

/-- At the end of its stream an answer is decided. -/
theorem read_ended_ne_more : read bytes true ≠ .more := by
  unfold read readBody
  repeat' split
  all_goals simp_all

/-- What bytes come to where they are enough. -/
def Progress.result? : Progress → Option (Except TransportFault Answer)
  | .more => none
  | .fault flaw => some (.error flaw)
  | .done answer => some (.ok answer)

theorem Progress.result?_eq_none_iff {progress : Progress} :
    progress.result? = none ↔ progress = .more := by
  cases progress <;> simp [result?]

theorem Progress.result?_eq_error_iff {progress : Progress} :
    progress.result? = some (.error fault) ↔ progress = .fault fault := by
  cases progress <;> simp [result?]

end Answer

namespace Arrival

variable {closes : Option Millis} {got : Bytes} {pieces : List (Millis × Bytes)}

def joined (pieces : List (Millis × Bytes)) : Bytes := pieces.flatMap Prod.snd

/-- None of the pieces that come behind some bytes decides the answer. -/
def Undecided (got : Bytes) (pieces : List (Millis × Bytes)) : Prop :=
  ∀ front, front <+: pieces → front ≠ [] → Answer.read (got ++ joined front) false = .more

theorem undecided_cons_iff {t : Millis} {piece : Bytes} :
    Undecided got ((t, piece) :: pieces) ↔
      Answer.read (got ++ piece) false = .more ∧ Undecided (got ++ piece) pieces := by
  constructor
  · intro undecided
    refine ⟨?_, fun front begins _ => ?_⟩
    · simpa [joined] using undecided [(t, piece)] (by simp) (by simp)
    · simpa [joined] using undecided ((t, piece) :: front) (by simpa using begins) (by simp)
  · rintro ⟨first, undecided⟩ front begins nonempty
    cases front with
    | nil => exact absurd rfl nonempty
    | cons head front =>
        obtain ⟨rfl, within⟩ := List.cons_prefix_cons.mp begins
        cases front with
        | nil => simpa [joined] using first
        | cons next rest => simpa [joined] using undecided _ within (by simp)

/-- What pieces bring to an answer that come behind some bytes: the bytes up to the first piece that may
decide it, or all of them where their stream ends. -/
inductive BringsFrom (closes : Option Millis) (got : Bytes) (pieces : List (Millis × Bytes))
    (bytes : Bytes) : Bool → Millis → Prop where
  | piece {before after : List (Millis × Bytes)} {t : Millis} {last : Bytes}
      (split : pieces = before ++ (t, last) :: after) (undecided : Undecided got before)
      (whole : bytes = got ++ joined before ++ last) : BringsFrom closes got pieces bytes false t
  | close {t : Millis} (closed : closes = some t) (undecided : Undecided got pieces)
      (whole : bytes = got ++ joined pieces) : BringsFrom closes got pieces bytes true t

variable {bytes piece : Bytes} {ended : Bool} {t u : Millis}

theorem bringsFrom_nil_iff :
    BringsFrom closes got [] bytes ended t ↔ bytes = got ∧ ended = true ∧ closes = some t := by
  constructor
  · intro brings
    cases brings with
    | piece split => simp at split
    | close closed undecided whole => exact ⟨by simpa [joined] using whole, rfl, closed⟩
  · rintro ⟨rfl, rfl, closed⟩
    exact .close closed (by simp [Undecided]) (by simp [joined])

theorem bringsFrom_cons_iff :
    BringsFrom closes got ((u, piece) :: pieces) bytes ended t ↔
      bytes = got ++ piece ∧ ended = false ∧ u = t ∨
        Answer.read (got ++ piece) false = .more ∧
          BringsFrom closes (got ++ piece) pieces bytes ended t := by
  constructor
  · intro brings
    cases brings with
    | @piece before after _ last split undecided whole =>
        cases before with
        | nil =>
            simp only [List.nil_append, List.cons.injEq, Prod.mk.injEq] at split
            obtain ⟨⟨rfl, rfl⟩, rfl⟩ := split
            exact .inl ⟨by simpa [joined] using whole, rfl, rfl⟩
        | cons first before =>
            simp only [List.cons_append, List.cons.injEq] at split
            obtain ⟨rfl, split⟩ := split
            obtain ⟨more, undecided⟩ := undecided_cons_iff.mp undecided
            exact .inr ⟨more, .piece split undecided (by simpa [joined] using whole)⟩
    | close closed undecided whole =>
        obtain ⟨more, undecided⟩ := undecided_cons_iff.mp undecided
        exact .inr ⟨more, .close closed undecided (by simpa [joined] using whole)⟩
  · rintro (⟨rfl, rfl, rfl⟩ | ⟨more, brings⟩)
    · have split : (u, piece) :: pieces = [] ++ (u, piece) :: pieces := rfl
      exact .piece split (by simp [Undecided]) (by simp [joined])
    · cases brings with
      | @piece before after _ last split undecided whole =>
          have longer : (u, piece) :: pieces = (u, piece) :: before ++ (t, last) :: after := by
            rw [split, List.cons_append]
          exact .piece longer (undecided_cons_iff.mpr ⟨more, undecided⟩) (by simpa [joined] using whole)
      | close closed undecided whole =>
          exact .close closed (undecided_cons_iff.mpr ⟨more, undecided⟩)
            (by simpa [joined] using whole)

theorem settleFrom_nil :
    settleFrom closes got [] =
      closes.bind fun t => (Answer.read got true).result?.map fun result => (result, t) := by
  cases closes with
  | none => rfl
  | some t =>
      rw [settleFrom]
      cases read : Answer.read got true with
      | more => exact absurd read Answer.read_ended_ne_more
      | fault flaw => rfl
      | done answer => rfl

theorem settleFrom_cons :
    settleFrom closes got ((u, piece) :: pieces) =
      ((Answer.read (got ++ piece) false).result?.map fun result => (result, u)).or
        (settleFrom closes (got ++ piece) pieces) := by
  rw [settleFrom]
  cases Answer.read (got ++ piece) false <;> rfl

/-- An answer settles at the instant at which enough of it has come, as what has come reads. -/
theorem settleFrom_eq_some_iff {result : Except TransportFault Answer} :
    settleFrom closes got pieces = some (result, t) ↔ ∃ bytes ended,
      BringsFrom closes got pieces bytes ended t ∧
        (Answer.read bytes ended).result? = some result := by
  induction pieces generalizing got with
  | nil =>
      simp only [settleFrom_nil, bringsFrom_nil_iff]
      constructor
      · intro settles
        obtain ⟨u, closed, told⟩ := Option.bind_eq_some_iff.mp settles
        obtain ⟨other, read, same⟩ := Option.map_eq_some_iff.mp told
        obtain ⟨rfl, rfl⟩ := Prod.mk.inj same
        exact ⟨got, true, ⟨rfl, rfl, closed⟩, read⟩
      · rintro ⟨bytes, ended, ⟨rfl, rfl, rfl⟩, read⟩
        simp [read]
  | cons first rest ih =>
      obtain ⟨u, piece⟩ := first
      simp only [settleFrom_cons, bringsFrom_cons_iff]
      constructor
      · intro settles
        rcases Option.or_eq_some_iff.mp settles with told | ⟨undecided, later⟩
        · obtain ⟨other, read, same⟩ := Option.map_eq_some_iff.mp told
          obtain ⟨rfl, rfl⟩ := Prod.mk.inj same
          exact ⟨_, _, .inl ⟨rfl, rfl, rfl⟩, read⟩
        · obtain ⟨bytes, ended, brings, read⟩ := ih.mp later
          have more := Answer.Progress.result?_eq_none_iff.mp (Option.map_eq_none_iff.mp undecided)
          exact ⟨bytes, ended, .inr ⟨more, brings⟩, read⟩
      · rintro ⟨bytes, ended, ⟨rfl, rfl, rfl⟩ | ⟨more, brings⟩, read⟩
        · simp [read]
        · rw [more]
          exact ih.mpr ⟨bytes, ended, brings, read⟩

/-- What an arrival brings to an answer. -/
def Brings (arrival : Arrival) : Bytes → Bool → Millis → Prop :=
  BringsFrom arrival.closes [] arrival.pieces

/-- What an arrival brings to an answer is flawed. -/
def Fails (arrival : Arrival) (fault : TransportFault) (t : Millis) : Prop :=
  ∃ bytes ended, arrival.Brings bytes ended t ∧ Answer.Flawed bytes ended fault

theorem settle_eq_error_iff {arrival : Arrival} {fault : TransportFault} :
    arrival.settle = some (.error fault, t) ↔ arrival.Fails fault t := by
  simp only [settle, settleFrom_eq_some_iff, Answer.Progress.result?_eq_error_iff,
    Answer.read_eq_fault_iff, Fails, Brings]

end Arrival

end CardGateway.Http
