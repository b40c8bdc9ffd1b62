import CardGateway.Http.Answer

/-!
# Answers and what comes behind them

A reader that is done at some bytes does not look at what comes behind them. So an answer that is whole
stays as it is whatever comes behind it, and only whether its stream may be used again depends on that.
-/

namespace CardGateway.Http

/-- A reader that is done is so with more bytes, too, and leaves them. -/
structure Settled {α : Type} (reader : Bytes → Reading α) : Prop where
  append : ∀ {bytes value rest}, reader bytes = .done value rest → ∀ more,
    reader (bytes ++ more) = .done value (rest ++ more)

namespace Settled

variable {α β : Type}

theorem done (value : α) : Settled fun bytes => Reading.done value bytes where
  append read more := by
    obtain ⟨rfl, rfl⟩ := Reading.done.inj read
    rfl

theorem bad : Settled fun _ => (Reading.bad : Reading α) where
  append read := by cases read

theorem bind {reader : Bytes → Reading α} {next : α → Bytes → Reading β} (first : Settled reader)
    (later : ∀ value, Settled (next value)) :
    Settled fun bytes => (reader bytes).bind fun value rest => next value rest where
  append {bytes value rest} read more := by
    cases found : reader bytes with
    | done middle behind =>
        rw [found] at read
        rw [first.append found more]
        exact (later middle).append read more
    | more =>
        rw [found] at read
        cases read
    | bad =>
        rw [found] at read
        cases read

end Settled

namespace Head

theorem settled_readLineEnd : Settled readLineEnd := by
  constructor
  intro bytes value rest read more
  unfold readLineEnd at read
  split at read
  · cases read
  · cases read
  · obtain ⟨-, rfl⟩ := Reading.done.inj read
    rfl
  · obtain ⟨-, rfl⟩ := Reading.done.inj read
    rfl
  · cases read

theorem settled_skipEmptyLines : Settled skipEmptyLines := by
  constructor
  intro bytes value rest read more
  induction bytes using skipEmptyLines.induct with
  | case1 tail ih =>
      rw [skipEmptyLines] at read
      rw [List.cons_append, skipEmptyLines]
      exact ih read
  | case2 tail ih =>
      rw [skipEmptyLines] at read
      rw [List.cons_append, List.cons_append, skipEmptyLines]
      exact ih read
  | case3 => cases read
  | case4 => cases read
  | case5 tail other empty =>
      rw [skipEmptyLines.eq_5 _ other empty] at read
      cases read
  | case6 bytes feed both none lone carriage =>
      rw [skipEmptyLines.eq_6 _ feed both none lone carriage] at read
      obtain ⟨-, rfl⟩ := Reading.done.inj read
      cases bytes with
      | nil => exact absurd rfl none
      | cons b tail =>
          have line : b ≠ 10 := fun same => feed tail (by rw [same])
          have solid : b ≠ 13 := by
            rintro rfl
            cases tail with
            | nil => exact lone rfl
            | cons c others => exact carriage (c :: others) rfl
          simp [skipEmptyLines, line, solid]

theorem settled_readVersion : Settled readVersion := by
  constructor
  intro bytes value rest read more
  unfold readVersion at read ⊢
  by_cases short : bytes.length < 8
  · rw [if_pos short] at read
    split at read <;> cases read
  · have enough : 8 ≤ bytes.length := Nat.not_lt.mp short
    have long : ¬ (bytes ++ more).length < 8 := by
      rw [List.length_append]
      omega
    rw [if_neg short] at read
    rw [if_neg long, List.take_append_of_le_length enough, List.drop_append_of_le_length enough]
    split at read
    · next first =>
        obtain ⟨rfl, rfl⟩ := Reading.done.inj read
        rw [if_pos first]
    · next first =>
        split at read
        · next second =>
            obtain ⟨rfl, rfl⟩ := Reading.done.inj read
            rw [if_neg first, if_pos second]
        · cases read

theorem settled_readByte (expected : UInt8) : Settled (readByte expected) := by
  constructor
  intro bytes value rest read more
  cases bytes with
  | nil => cases read
  | cons b tail =>
      simp only [readByte, List.cons_append] at read ⊢
      split at read
      · next same =>
          obtain ⟨-, rfl⟩ := Reading.done.inj read
          rw [if_pos same]
      · cases read

theorem settled_readDigits (count value : Nat) : Settled (readDigits count value) := by
  constructor
  intro bytes read rest done more
  induction count generalizing value bytes with
  | zero =>
      simp only [readDigits] at done ⊢
      obtain ⟨rfl, rfl⟩ := Reading.done.inj done
      rfl
  | succ count ih =>
      cases bytes with
      | nil => cases done
      | cons b tail =>
          simp only [readDigits, List.cons_append] at done ⊢
          split at done
          · next digit =>
              rw [if_pos digit]
              exact ih _ done
          · cases done

/-- The bytes of one kind at the beginning end where another one is found. -/
theorem stretch_append {p : UInt8 → Bool} {bytes tail : Bytes} {b : UInt8}
    (found : bytes.dropWhile p = b :: tail) (more : Bytes) :
    (bytes ++ more).takeWhile p = bytes.takeWhile p ∧
      (bytes ++ more).dropWhile p = b :: tail ++ more := by
  induction bytes with
  | nil => cases found
  | cons c others ih =>
      by_cases inside : p c = true
      · rw [List.dropWhile_cons_of_pos inside] at found
        simpa [inside] using ih found
      · rw [List.dropWhile_cons_of_neg inside] at found
        simp [inside, ← found]

/-- A line end is found behind bytes of one kind only where another one is found. -/
theorem found_of_readLineEnd {p : UInt8 → Bool} {bytes rest : Bytes} {value : Unit}
    (read : readLineEnd (bytes.dropWhile p) = .done value rest) :
    ∃ b tail, bytes.dropWhile p = b :: tail := by
  cases left : bytes.dropWhile p with
  | nil =>
      rw [left] at read
      cases read
  | cons b tail => exact ⟨b, tail, rfl⟩

theorem settled_skipReason : Settled skipReason := by
  constructor
  intro bytes value rest read more
  unfold skipReason at read
  split at read
  · obtain ⟨b, tail, found⟩ := found_of_readLineEnd read
    simp only [List.cons_append, skipReason, (stretch_append found more).2]
    rw [found] at read
    exact settled_readLineEnd.append read more
  · next other =>
      have found := settled_readLineEnd.append read more
      cases bytes with
      | nil => cases read
      | cons b tail =>
          have unlike : b ≠ 32 := fun same => other tail (by rw [same])
          simpa [skipReason, unlike] using found

theorem settled_readStatusLine : Settled readStatusLine :=
  settled_skipEmptyLines.bind fun _ => settled_readVersion.bind fun _ =>
    (settled_readByte 32).bind fun _ => (settled_readDigits 3 0).bind fun _ =>
      settled_skipReason.bind fun _ => .done _

theorem drop_takeWhile (p : UInt8 → Bool) (bytes : Bytes) :
    bytes.drop (bytes.takeWhile p).length = bytes.dropWhile p := by
  calc bytes.drop (bytes.takeWhile p).length
      = (bytes.takeWhile p ++ bytes.dropWhile p).drop (bytes.takeWhile p).length := by
        rw [List.takeWhile_append_dropWhile]
    _ = bytes.dropWhile p := List.drop_left

theorem settled_readField : Settled readField := by
  constructor
  intro bytes value rest read more
  unfold readField at read ⊢
  simp only [drop_takeWhile] at read ⊢
  cases behind : bytes.dropWhile isTokenByte with
  | nil =>
      rw [behind] at read
      cases read
  | cons b tail =>
      obtain ⟨name, colon⟩ := stretch_append behind more
      rw [name, colon]
      rw [behind] at read
      simp only [List.cons_append] at read ⊢
      split at read
      · cases read
      · next sound =>
          rw [if_neg sound]
          cases line : readLineEnd ((tail.dropWhile isBlankByte).dropWhile isValueByte) with
          | done value behind =>
              obtain ⟨c, others, found⟩ := found_of_readLineEnd line
              obtain ⟨d, word, start⟩ : ∃ d word, tail.dropWhile isBlankByte = d :: word := by
                cases start : tail.dropWhile isBlankByte with
                | nil => simp [start] at found
                | cons d word => exact ⟨d, word, rfl⟩
              rw [(stretch_append start more).2, ← start, (stretch_append found more).1,
                (stretch_append found more).2]
              rw [found] at read
              exact (settled_readLineEnd.bind fun _ => .done _).append read more
          | more =>
              rw [line] at read
              cases read
          | bad =>
              rw [line] at read
              cases read

theorem readFields_cons {b : UInt8} (line : b ≠ 10) (solid : b ≠ 13) (limit : Nat) (tail : Bytes) :
    readFields limit (b :: tail) = (readField (b :: tail)).bind fun field rest =>
      match limit with
      | 0 => .bad
      | limit + 1 => (readFields limit rest).bind fun fields rest => .done (field :: fields) rest :=
  readFields.eq_6 _ _ (by simp) (by simp [solid]) (by simp [solid]) (by simp [line])
    (by simp [solid])

theorem settled_readFields (limit : Nat) : Settled (readFields limit) := by
  constructor
  intro bytes value rest read more
  induction limit, bytes using readFields.induct generalizing value rest more with
  | case1 | case2 =>
      rw [readFields] at read
      cases read
  | case3 limit tail | case4 limit tail =>
      rw [readFields] at read
      obtain ⟨rfl, rfl⟩ := Reading.done.inj read
      simp only [List.cons_append, readFields]
  | case5 limit tail some other =>
      rw [readFields.eq_5 _ _ some other] at read
      cases read
  | case6 limit bytes none lone carriage feed solid ih =>
      cases bytes with
      | nil => exact absurd rfl none
      | cons b tail =>
          have line : b ≠ 10 := fun same => feed tail (by rw [same])
          have solid : b ≠ 13 := fun same => solid tail (by rw [same])
          rw [readFields_cons line solid] at read
          rw [List.cons_append, readFields_cons line solid, ← List.cons_append]
          refine (settled_readField.bind fun field => ?_).append read more
          cases limit with
          | zero => exact .bad
          | succ limit =>
              exact Settled.bind ⟨fun read more => ih _ read more⟩ fun _ => .done _

theorem settled_read : Settled read :=
  settled_readStatusLine.bind fun (version, status) =>
    (settled_readFields fieldLimit).bind fun fields => by
      split
      · exact .bad
      · exact .done _

end Head

namespace Chunked

theorem settled_scan (state : State) (progress : Progress) : Settled (scan state progress) := by
  constructor
  intro bytes value rest read more
  induction bytes generalizing state progress with
  | nil => cases read
  | cons b tail ih =>
      rw [List.cons_append]
      unfold scan at read ⊢
      split at read
      · cases read
      · exact ih _ _ read
      · split at read
        · obtain ⟨rfl, rfl⟩ := Reading.done.inj read
          rfl
        · cases read

end Chunked

namespace Answer

theorem readHead_append {bound limit : Nat} {bytes rest : Bytes} {head : Head}
    (read : readHead bound bytes = .done head rest) (enough : bound ≤ limit) (more : Bytes) :
    readHead limit (bytes ++ more) = .done head (rest ++ more) := by
  induction bound generalizing limit bytes with
  | zero => cases read
  | succ bound ih =>
      obtain ⟨limit, rfl⟩ : ∃ l, limit = l + 1 := ⟨limit - 1, by omega⟩
      rw [readHead] at read ⊢
      cases found : Head.read bytes with
      | done first behind =>
          rw [found] at read
          rw [Head.settled_read.append found more]
          dsimp only [Reading.bind] at read ⊢
          split at read
          · next interim =>
              rw [if_pos interim]
              exact ih read (Nat.le_of_succ_le_succ enough)
          · next final =>
              obtain ⟨rfl, rfl⟩ := Reading.done.inj read
              rw [if_neg final]
      | more =>
          rw [found] at read
          cases read
      | bad =>
          rw [found] at read
          cases read

/-- An answer with bytes behind it. Its stream is not used again then. -/
def followed (answer : Answer) (more : Bytes) : Answer :=
  { answer with reusable := answer.reusable && more.isEmpty }

/-- How the body behind a head ends, by its length, or with a last chunk, or with the stream. -/
inductive Bodied (head : Head) (rest : Bytes) (ended : Bool) : Answer → Prop where
  | length {count : Nat} (framing : Framing.ofHead? head = some (.length count))
      (enough : count ≤ rest.length) :
      Bodied head rest ended ⟨head, rest.take count, head.continues && rest.length == count⟩
  | chunked (framing : Framing.ofHead? head = some .chunked) {body : Chunked.Body} {behind : Bytes}
      (found : Chunked.read rest = .done body behind) :
      Bodied head rest ended
        ⟨head, body.payload, head.continues && !body.hasTrailers && behind.isEmpty⟩
  | untilClose (framing : Framing.ofHead? head = some .untilClose) (closed : ended = true) :
      Bodied head rest ended ⟨head, rest, false⟩

variable {bytes rest : Bytes} {head : Head} {answer : Answer} {ended : Bool}

theorem readBody_eq_done_iff :
    readBody head rest ended = .done answer ↔ Bodied head rest ended answer := by
  constructor
  · intro found
    unfold readBody at found
    dsimp only at found
    split at found
    · cases found
    · next count framing =>
        split at found
        · next enough =>
            obtain rfl := Progress.done.inj found
            exact .length framing enough
        · cases ended <;> cases found
    · next framing =>
        split at found
        · next body behind read =>
            obtain rfl := Progress.done.inj found
            exact .chunked framing read
        · cases ended <;> cases found
        · cases found
    · next framing =>
        cases ended with
        | true =>
            obtain rfl := Progress.done.inj found
            exact .untilClose framing rfl
        | false => cases found
  · intro bodied
    cases bodied with
    | length framing enough => simp [readBody, framing, enough]
    | chunked framing found => simp [readBody, framing, found]
    | untilClose framing closed => simp [readBody, framing, closed]

theorem Bodied.append (h : Bodied head rest false answer) (more : Bytes) (ended : Bool) :
    Bodied head (rest ++ more) ended (answer.followed more) := by
  cases h with
  | @length count framing enough =>
      have longer : count ≤ (rest ++ more).length := by
        rw [List.length_append]
        omega
      have alone : (head.continues && rest.length == count && more.isEmpty) =
          (head.continues && (rest ++ more).length == count) := by
        cases more with
        | nil => simp
        | cons b tail =>
            have unlike : ¬ rest.length + (tail.length + 1) = count := by omega
            simp [unlike]
      rw [followed, alone, ← List.take_append_of_le_length enough]
      exact .length framing longer
  | @chunked framing body behind found =>
      have alone : (head.continues && !body.hasTrailers && behind.isEmpty && more.isEmpty) =
          (head.continues && !body.hasTrailers && (behind ++ more).isEmpty) := by
        cases behind <;> simp
      rw [followed, alone]
      exact .chunked framing ((Chunked.settled_scan .start .start).append found more)
  | untilClose _ closed => cases closed

theorem read_eq_done_iff : read bytes ended = .done answer ↔
    ∃ head rest, readHead (bytes.length + 1) bytes = .done head rest ∧
      Bodied head rest ended answer := by
  unfold read
  simp only [← readBody_eq_done_iff]
  cases readHead (bytes.length + 1) bytes with
  | done head rest =>
      constructor
      · intro found
        exact ⟨head, rest, rfl, found⟩
      · rintro ⟨_, _, same, found⟩
        obtain ⟨rfl, rfl⟩ := Reading.done.inj same
        exact found
  | bad => simp
  | more => cases ended <;> simp <;> split <;> simp

/-- An answer that is whole stays as it is, whatever comes behind it. -/
theorem read_append (found : read bytes false = .done answer) (more : Bytes) (ended : Bool) :
    read (bytes ++ more) ended = .done (answer.followed more) := by
  obtain ⟨head, rest, first, bodied⟩ := read_eq_done_iff.mp found
  exact read_eq_done_iff.mpr ⟨head, rest ++ more,
    readHead_append first (by simp) more, bodied.append more ended⟩

/-- An answer that only the end of the stream makes whole is not so without it, whatever comes. -/
theorem read_append_ne_done (found : read bytes true = .done answer)
    (unended : ∀ other, read bytes false ≠ .done other) (more : Bytes) (other : Answer) :
    read (bytes ++ more) false ≠ .done other := by
  obtain ⟨head, rest, first, bodied⟩ := read_eq_done_iff.mp found
  cases bodied with
  | length framing enough =>
      exact absurd (read_eq_done_iff.mpr ⟨head, rest, first, .length framing enough⟩) (unended _)
  | chunked framing read =>
      exact absurd (read_eq_done_iff.mpr ⟨head, rest, first, .chunked framing read⟩) (unended _)
  | untilClose framing closed =>
      intro read
      obtain ⟨_, _, again, bodied⟩ := read_eq_done_iff.mp read
      rw [readHead_append first (by simp) more] at again
      obtain ⟨rfl, rfl⟩ := Reading.done.inj again
      cases bodied <;> simp_all

/-- A stream is used again only if the answer on it is whole by itself, and its head says so. -/
theorem of_reusable (found : read bytes ended = .done answer) (reusable : answer.reusable = true) :
    answer.head.continues = true ∧ read bytes false = .done answer := by
  obtain ⟨head, rest, first, bodied⟩ := read_eq_done_iff.mp found
  cases bodied with
  | length framing enough =>
      exact ⟨(Bool.and_eq_true_iff.mp reusable).1,
        read_eq_done_iff.mpr ⟨head, rest, first, .length framing enough⟩⟩
  | chunked framing read =>
      exact ⟨(Bool.and_eq_true_iff.mp (Bool.and_eq_true_iff.mp reusable).1).1,
        read_eq_done_iff.mpr ⟨head, rest, first, .chunked framing read⟩⟩
  | untilClose framing closed => cases reusable

theorem read_nil_ne_done : read [] ended ≠ .done answer := by
  intro found
  obtain ⟨head, rest, first, -⟩ := read_eq_done_iff.mp found
  simp [readHead, Head.read, Head.readStatusLine, Head.skipEmptyLines, Reading.bind] at first

end Answer

end CardGateway.Http
