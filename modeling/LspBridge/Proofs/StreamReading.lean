import LspBridge.Proofs.Framing
/-!
# Reading a stream as it arrives

A connection's reader does not wait for the whole input: each time bytes arrive it reads the frames
that are whole and keeps the rest for later. This file shows that it reads the same frames, in the
same order, and meets the same end as a reader of the finished input, however the input is cut
into arrivals.

The reason is that a reader of an input that may still grow commits only to what no later byte can
change: on an open input `Frame.next` gives a frame or a failure only if every extension of the
input gives the same one (`next_append_frame`, `next_append_failed`), and otherwise asks for more.

* `Frame.readArrived` is what one turn of a reader makes of the bytes that have arrived: the frames
  it reads, each with the bytes after it, how the input ended if it has, and the bytes it leaves.
* `Frame.readChunks` is a reader fed an input chunk by chunk, reading after each chunk and once
  more when the input closes; `readChunks_eq_readAll` says it reads what `Frame.readAll` reads of
  the whole input.
-/

namespace LspBridge

namespace Frame

/-! ### Lines and header blocks do not change as bytes are added -/

/-- A line found among the bytes is found the same way when more bytes follow. -/
theorem splitLine_append {limit : Nat} {bytes line after : List UInt8}
    (found : splitLine limit bytes = some (line, after)) (more : List UInt8) :
    splitLine limit (bytes ++ more) = some (line, after ++ more) := by
  obtain ⟨rfl, noLF, short⟩ := splitLine_eq_some_iff.1 found
  rw [List.append_assoc, List.cons_append]
  exact splitLine_eq_some_iff.2 ⟨rfl, noLF, short⟩

/-- No line feed among the first `limit` bytes of an input at least that long: none is found in any
extension either. -/
theorem splitLine_append_of_none {limit : Nat} {bytes : List UInt8}
    (missing : splitLine limit bytes = none) (long : limit ≤ bytes.length) (more : List UInt8) :
    splitLine limit (bytes ++ more) = none := by
  rw [splitLine_eq_none_iff] at missing ⊢
  rwa [List.take_append_of_le_length long]

theorem length_lt_of_splitLine {limit : Nat} {bytes line after : List UInt8}
    (found : splitLine limit bytes = some (line, after)) : after.length < bytes.length := by
  rw [(splitLine_eq_some_iff.1 found).1]
  simp
  omega

/-- The header block is the same, followed by the added bytes, once it is decided on an input that
may still grow: a block read to its blank line, or one refused for a fault. -/
theorem headers_append {fuel fuel' : Nat} (enough : fuel ≤ fuel') {length : Option Nat}
    {seen : Bool} {bytes : List UInt8} {r : Except Step (Option Nat × List UInt8)}
    (read : headers false fuel length seen bytes = r) (decided : r ≠ .error .needMore)
    (closed : Bool) (more : List UInt8) :
    headers closed fuel' length seen (bytes ++ more) =
      r.map (Prod.map id (· ++ more)) := by
  induction fuel generalizing fuel' length seen bytes r with
  | zero =>
    subst read
    exact absurd rfl decided
  | succ fuel ih =>
    obtain ⟨fuel', rfl⟩ : ∃ f, fuel' = f + 1 := ⟨fuel' - 1, by omega⟩
    have enough' : fuel ≤ fuel' := by omega
    subst read
    cases found : splitLine maxHeaderLine bytes with
    | none =>
      -- with no line in sight the only decision is a line that is too long
      by_cases long : maxHeaderLine ≤ bytes.length
      · have missing := splitLine_append_of_none found long more
        have longer : maxHeaderLine ≤ bytes.length + more.length := by omega
        simp [headers, found, missing, long, longer, Except.map]
      · simp [headers, found, long] at decided
    | some split =>
      obtain ⟨line, after⟩ := split
      have found' := splitLine_append found more
      -- both inputs give the same line; the cases follow the kinds of header line
      by_cases blank : (dropCarriageReturn line).isEmpty
      · cases seen with
        | false =>
          simp only [headers, found, found', blank, if_true, Bool.false_eq_true, if_false]
            at decided ⊢
          exact ih enough' rfl decided
        | true => simp [headers, found, found', blank, Except.map]
      · cases field : headerLength (dropCarriageReturn line) with
        | error e => simp [headers, found, found', blank, field, Except.map]
        | ok said =>
          cases said with
          | none =>
            simp only [headers, found, found', blank, field, Bool.false_eq_true, if_false]
              at decided ⊢
            exact ih enough' rfl decided
          | some n =>
            cases length with
            | none =>
              simp only [headers, found, found', blank, field, Bool.false_eq_true, if_false]
                at decided ⊢
              exact ih enough' rfl decided
            | some m =>
              by_cases same : m = n
              · simp only [headers, found, found', blank, field, same, Bool.false_eq_true,
                  if_false, ne_eq, not_true_eq_false] at decided ⊢
                exact ih enough' rfl decided
              · simp [headers, found, found', blank, field, same, Except.map]

/-- A header block read to its end leaves fewer bytes than it was read from. -/
theorem length_lt_of_headers {closed : Bool} {fuel : Nat} {length : Option Nat} {seen : Bool}
    {bytes rest : List UInt8} {n : Option Nat}
    (read : headers closed fuel length seen bytes = .ok (n, rest)) :
    rest.length < bytes.length := by
  induction fuel generalizing length seen bytes with
  | zero => simp [headers] at read
  | succ fuel ih =>
    cases found : splitLine maxHeaderLine bytes with
    | none =>
      simp only [headers, found] at read
      split at read <;> [cases read; split at read <;> [cases read; split at read <;> cases read]]
    | some split =>
      obtain ⟨line, after⟩ := split
      have shorter := length_lt_of_splitLine found
      simp only [headers, found] at read
      split at read
      · split at read
        · cases read
          exact shorter
        · exact (ih read).trans shorter
      · split at read
        · cases read
        · exact (ih read).trans shorter
        · split at read
          · split at read
            · cases read
            · exact (ih read).trans shorter
          · exact (ih read).trans shorter

/-- A header block stops early only for a fault, for want of bytes, or, on a closed input, at its
end. -/
theorem headers_error_cases {closed : Bool} {fuel : Nat} {length : Option Nat} {seen : Bool}
    {bytes : List UInt8} {step : Step} (read : headers closed fuel length seen bytes = .error step) :
    (∃ e, step = .failed e) ∨ step = .needMore ∨
      (closed = true ∧ (step = .finished ∨ step = .truncated)) := by
  induction fuel generalizing length seen bytes with
  | zero =>
    simp only [headers, Except.error.injEq] at read
    exact .inr (.inl read.symm)
  | succ fuel ih =>
    cases found : splitLine maxHeaderLine bytes with
    | none =>
      simp only [headers, found] at read
      split at read
      · cases read
        exact .inl ⟨_, rfl⟩
      · split at read
        · cases read
          exact .inr (.inl rfl)
        · rename_i shut
          simp only [Bool.not_eq_true', Bool.not_eq_false] at shut
          split at read <;> cases read
          · exact .inr (.inr ⟨shut, .inl rfl⟩)
          · exact .inr (.inr ⟨shut, .inr rfl⟩)
    | some split =>
      obtain ⟨line, after⟩ := split
      simp only [headers, found] at read
      split at read
      · split at read
        · cases read
        · exact ih read
      · split at read
        · cases read
          exact .inl ⟨_, rfl⟩
        · exact ih read
        · split at read
          · split at read
            · cases read
              exact .inl ⟨_, rfl⟩
            · exact ih read
          · exact ih read

/-- A header block of a closed input, read with a line to spare, is decided. -/
theorem headers_closed_ne_needMore {fuel : Nat} {length : Option Nat} {seen : Bool}
    {bytes : List UInt8} (enough : bytes.length < fuel) :
    headers true fuel length seen bytes ≠ .error .needMore := by
  induction fuel generalizing length seen bytes with
  | zero => omega
  | succ fuel ih =>
    cases found : splitLine maxHeaderLine bytes with
    | none =>
      simp only [headers, found, Bool.not_true, Bool.false_eq_true, if_false]
      split
      · simp
      · split <;> simp
    | some split =>
      obtain ⟨line, after⟩ := split
      have shorter : after.length < fuel := by
        have := length_lt_of_splitLine found
        omega
      simp only [headers, found]
      split
      · split
        · simp
        · exact ih shorter
      · split
        · simp
        · exact ih shorter
        · split
          · split
            · simp
            · exact ih shorter
          · exact ih shorter

/-! ### One frame -/

/-- The cases of the next frame, read off the header block. -/
theorem next_cases {maxFrame : Nat} {closed : Bool} {bytes : List UInt8} {step : Step}
    (read : next maxFrame closed bytes = step) :
    (∃ n rest, headers closed (bytes.length + 1) none false bytes = .ok (some n, rest) ∧
      n ≤ maxFrame ∧ n ≤ rest.length ∧ step = .frame (rest.take n) (rest.drop n)) ∨
    (∃ n rest, headers closed (bytes.length + 1) none false bytes = .ok (some n, rest) ∧
      n ≤ maxFrame ∧ rest.length < n ∧ step = if closed then .truncated else .needMore) ∨
    (∃ n rest, headers closed (bytes.length + 1) none false bytes = .ok (some n, rest) ∧
      maxFrame < n ∧ step = .failed (.tooLarge n maxFrame)) ∨
    (∃ rest, headers closed (bytes.length + 1) none false bytes = .ok (none, rest) ∧
      step = .failed .missingLength) ∨
    headers closed (bytes.length + 1) none false bytes = .error step := by
  subst read
  unfold next
  split
  · rename_i step headed
    exact .inr (.inr (.inr (.inr headed)))
  · rename_i rest headed
    exact .inr (.inr (.inr (.inl ⟨rest, headed, rfl⟩)))
  · rename_i n rest headed
    split
    · exact .inr (.inr (.inl ⟨n, rest, headed, by omega, rfl⟩))
    · split
      · exact .inl ⟨n, rest, headed, by omega, by omega, rfl⟩
      · exact .inr (.inl ⟨n, rest, headed, by omega, by omega, by split <;> simp_all⟩)

/-- On an input that may still grow, a frame read now is read the same way from every extension of
it, closed or not, and is followed by the added bytes. -/
theorem next_append_frame {maxFrame : Nat} {bytes payload rest : List UInt8}
    (read : next maxFrame false bytes = .frame payload rest) (closed : Bool) (more : List UInt8) :
    next maxFrame closed (bytes ++ more) = .frame payload (rest ++ more) := by
  rcases next_cases read with ⟨n, after, headed, fits, whole, same⟩ | ⟨_, _, _, _, _, waits⟩ |
    ⟨_, _, _, _, failed⟩ | ⟨_, _, failed⟩ | headed
  · have extended : headers closed ((bytes ++ more).length + 1) none false (bytes ++ more) =
        .ok (some n, after ++ more) :=
      headers_append (by simp) headed (by simp) closed more
    simp only [Step.frame.injEq] at same
    obtain ⟨rfl, rfl⟩ := same
    have within : n ≤ after.length + more.length := by omega
    unfold next
    rw [extended]
    simp [Nat.not_lt.mpr fits, Nat.not_lt.mpr within, List.take_append_of_le_length whole,
      List.drop_append_of_le_length whole]
  · simp at waits
  · cases failed
  · cases failed
  · rcases headers_error_cases headed with ⟨_, failed⟩ | waits | ⟨shut, _⟩
    · cases failed
    · cases waits
    · cases shut

/-- On an input that may still grow, a header block refused now is refused the same way in every
extension of it. -/
theorem next_append_failed {maxFrame : Nat} {bytes : List UInt8} {e : HeaderError}
    (read : next maxFrame false bytes = .failed e) (closed : Bool) (more : List UInt8) :
    next maxFrame closed (bytes ++ more) = .failed e := by
  have extend : ∀ {r}, headers false (bytes.length + 1) none false bytes = r →
      r ≠ .error .needMore →
      headers closed ((bytes ++ more).length + 1) none false (bytes ++ more) =
        r.map (Prod.map id (· ++ more)) :=
    fun headed decided => headers_append (by simp) headed decided closed more
  unfold next
  rcases next_cases read with ⟨_, _, _, _, _, framed⟩ | ⟨_, _, _, _, _, waits⟩ |
    ⟨n, after, headed, large, same⟩ | ⟨after, headed, same⟩ | headed
  · cases framed
  · simp at waits
  · rw [extend headed (by simp)]
    simp [large, same, Except.map]
  · rw [extend headed (by simp)]
    simp [same, Except.map]
  · rw [extend headed (by simp)]
    rfl

/-- A frame leaves fewer bytes than it was read from. -/
theorem length_lt_of_next {maxFrame : Nat} {closed : Bool} {bytes payload rest : List UInt8}
    (read : next maxFrame closed bytes = .frame payload rest) : rest.length < bytes.length := by
  rcases next_cases read with ⟨n, after, headed, -, -, same⟩ | ⟨_, _, _, _, _, waits⟩ |
    ⟨_, _, _, _, failed⟩ | ⟨_, _, failed⟩ | headed
  · simp only [Step.frame.injEq] at same
    obtain ⟨-, rfl⟩ := same
    have := length_lt_of_headers headed
    simp
    omega
  · split at waits <;> cases waits
  · cases failed
  · cases failed
  · rcases headers_error_cases headed with ⟨_, failed⟩ | waits | ⟨_, ended | ended⟩
    · cases failed
    · cases waits
    · cases ended
    · cases ended

/-- A reader of an input that may still grow never sees it end. -/
theorem next_open_ne_end {maxFrame : Nat} {bytes : List UInt8} :
    next maxFrame false bytes ≠ .finished ∧ next maxFrame false bytes ≠ .truncated := by
  constructor <;> intro read
  all_goals
    rcases next_cases read with ⟨_, _, _, _, _, framed⟩ | ⟨_, _, _, _, _, waits⟩ |
      ⟨_, _, _, _, failed⟩ | ⟨_, _, failed⟩ | headed
    · cases framed
    · simp at waits
    · cases failed
    · cases failed
    · rcases headers_error_cases headed with ⟨_, failed⟩ | waits | ⟨shut, _⟩
      · cases failed
      · cases waits
      · cases shut

/-- A reader of a closed input never waits. -/
theorem next_closed_ne_needMore (maxFrame : Nat) (bytes : List UInt8) :
    next maxFrame true bytes ≠ .needMore := by
  intro read
  rcases next_cases read with ⟨_, _, _, _, _, framed⟩ | ⟨_, _, _, _, _, waits⟩ |
    ⟨_, _, _, _, failed⟩ | ⟨_, _, failed⟩ | headed
  · cases framed
  · simp at waits
  · cases failed
  · cases failed
  · exact headers_closed_ne_needMore (Nat.lt_succ_self _) headed

/-! ### Reading a whole input -/

/-- A frame read first is the first of all the frames read. -/
theorem readAllFrom_of_frame {maxFrame : Nat} {bytes payload rest : List UInt8}
    (read : next maxFrame true bytes = .frame payload rest) (fuel : Nat) :
    readAllFrom maxFrame (fuel + 1) bytes =
      (payload :: (readAllFrom maxFrame fuel rest).1, (readAllFrom maxFrame fuel rest).2) := by
  simp [readAllFrom, read]

/-- Any fuel beyond the length of the input reads all of it. -/
theorem readAllFrom_fuel {maxFrame fuel fuel' : Nat} {bytes : List UInt8}
    (enough : bytes.length < fuel) (enough' : bytes.length < fuel') :
    readAllFrom maxFrame fuel bytes = readAllFrom maxFrame fuel' bytes := by
  induction fuel generalizing fuel' bytes with
  | zero => omega
  | succ fuel ih =>
    obtain ⟨fuel', rfl⟩ : ∃ f, fuel' = f + 1 := ⟨fuel' - 1, by omega⟩
    cases read : next maxFrame true bytes with
    | frame payload rest =>
      have shorter := length_lt_of_next read
      have later : readAllFrom maxFrame fuel rest = readAllFrom maxFrame fuel' rest :=
        ih (by omega) (by omega)
      rw [readAllFrom_of_frame read, readAllFrom_of_frame read, later]
    | _ => simp [readAllFrom, read]

/-! ### Reading what has arrived -/

/-- What a reader has made of the bytes that have arrived: the frames it read, each with the bytes
after it, how the input ended if it has, and the bytes it leaves for later.

`reads`: the frames read, in order, each with the bytes after it. `ended`: how the input ended, once
it has. `rest`: the bytes not read yet. -/
structure Progress where
  reads : List (List UInt8 × List UInt8)
  ended : Option End
  rest : List UInt8

/-- The frames read. -/
def Progress.frames (p : Progress) : List (List UInt8) := p.reads.map Prod.fst

/-- What a reader makes of the bytes that have arrived: it reads frames until the input ends, a
header block is refused, or it needs more bytes. The fuel bounds the number of frames. -/
def readArrived (maxFrame : Nat) (closed : Bool) : Nat → List UInt8 → Progress
  | 0, bytes => ⟨[], none, bytes⟩
  | fuel + 1, bytes =>
    match next maxFrame closed bytes with
    | .frame payload rest =>
      let p := readArrived maxFrame closed fuel rest
      { p with reads := (payload, rest) :: p.reads }
    | .needMore => ⟨[], none, bytes⟩
    | .finished => ⟨[], some .clean, bytes⟩
    | .truncated => ⟨[], some .truncated, bytes⟩
    | .failed e => ⟨[], some (.failed e), bytes⟩

/-- Reading goes on from where a reader stopped: its frames, then, unless the input has ended, what
is read later. -/
def Progress.andThen (p : Progress) (later : List (List UInt8) × End) :
    List (List UInt8) × End :=
  match p.ended with
  | some e => (p.frames, e)
  | none => (p.frames ++ later.1, later.2)

theorem readArrived_of_frame {maxFrame : Nat} {closed : Bool} {bytes payload rest : List UInt8}
    (read : next maxFrame closed bytes = .frame payload rest) (fuel : Nat) :
    readArrived maxFrame closed (fuel + 1) bytes =
      { readArrived maxFrame closed fuel rest with
        reads := (payload, rest) :: (readArrived maxFrame closed fuel rest).reads } := by
  simp [readArrived, read]

/-- The bytes a reader leaves are those after the last frame it read, or all of them when it read
none. -/
theorem readArrived_rest (maxFrame : Nat) (closed : Bool) (fuel : Nat) (bytes : List UInt8) :
    (((readArrived maxFrame closed fuel bytes).reads.getLast?).map Prod.snd).getD bytes =
      (readArrived maxFrame closed fuel bytes).rest := by
  induction fuel generalizing bytes with
  | zero => simp [readArrived]
  | succ fuel ih =>
    cases read : next maxFrame closed bytes with
    | frame payload rest =>
      rw [readArrived_of_frame read, List.getLast?_cons, ← ih rest]
      cases (readArrived maxFrame closed fuel rest).reads.getLast? <;> rfl
    | _ => simp [readArrived, read]

/-- On a closed input a reader with enough fuel always meets the end. -/
theorem readArrived_closed_ended {maxFrame fuel : Nat} {bytes : List UInt8}
    (enough : bytes.length < fuel) : (readArrived maxFrame true fuel bytes).ended.isSome := by
  induction fuel generalizing bytes with
  | zero => omega
  | succ fuel ih =>
    cases read : next maxFrame true bytes with
    | frame payload rest =>
      have shorter := length_lt_of_next read
      rw [readArrived_of_frame read]
      exact ih (by omega)
    | needMore => exact absurd read (next_closed_ne_needMore maxFrame bytes)
    | _ => simp [readArrived, read]

/-- On an input that may still grow a reader stops only at a bad header block. -/
theorem readArrived_open_ended {maxFrame fuel : Nat} {bytes : List UInt8} {e : End}
    (ended : (readArrived maxFrame false fuel bytes).ended = some e) : ∃ h, e = .failed h := by
  induction fuel generalizing bytes with
  | zero => simp [readArrived] at ended
  | succ fuel ih =>
    cases read : next maxFrame false bytes with
    | frame payload rest =>
      rw [readArrived_of_frame read] at ended
      exact ih ended
    | needMore => simp [readArrived, read] at ended
    | finished => exact absurd read next_open_ne_end.1
    | truncated => exact absurd read next_open_ne_end.2
    | failed h =>
      simp only [readArrived, read, Option.some.injEq] at ended
      exact ⟨h, ended.symm⟩

@[simp]
theorem andThen_cons (p : Progress) (read : List UInt8 × List UInt8)
    (later : List (List UInt8) × End) :
    ({ p with reads := read :: p.reads } : Progress).andThen later =
      (read.1 :: (p.andThen later).1, (p.andThen later).2) := by
  unfold Progress.andThen Progress.frames
  cases p.ended <;> simp

/-- On a closed input a reader reads to the end, as a reader of the whole input does. -/
theorem andThen_readArrived_closed {maxFrame fuel : Nat} {bytes : List UInt8}
    (enough : bytes.length < fuel) (later : List (List UInt8) × End) :
    (readArrived maxFrame true fuel bytes).andThen later = readAllFrom maxFrame fuel bytes := by
  induction fuel generalizing bytes with
  | zero => omega
  | succ fuel ih =>
    cases read : next maxFrame true bytes with
    | frame payload rest =>
      have shorter := length_lt_of_next read
      rw [readArrived_of_frame read, readAllFrom_of_frame read, andThen_cons,
        ih (by omega)]
    | needMore => exact absurd read (next_closed_ne_needMore maxFrame bytes)
    | _ => simp [readArrived, readAllFrom, read, Progress.andThen, Progress.frames]

/-- What a reader reads of an input that may still grow is the start of what is read from any
extension of it: the frames it read, then, unless a header block was refused, what is read from
the bytes it left followed by the added ones. -/
theorem readAll_append_of_open {maxFrame fuel : Nat} {bytes : List UInt8}
    (enough : bytes.length < fuel) (more : List UInt8) :
    readAll maxFrame (bytes ++ more) =
      (readArrived maxFrame false fuel bytes).andThen
        (readAll maxFrame ((readArrived maxFrame false fuel bytes).rest ++ more)) := by
  induction fuel generalizing bytes with
  | zero => omega
  | succ fuel ih =>
    cases read : next maxFrame false bytes with
    | frame payload rest =>
      have shorter := length_lt_of_next read
      have first := next_append_frame read true more
      have rested : readAllFrom maxFrame (bytes ++ more).length (rest ++ more) =
          readAll maxFrame (rest ++ more) :=
        readAllFrom_fuel (by simp; omega) (Nat.lt_succ_self _)
      rw [readArrived_of_frame read, andThen_cons, ← ih (by omega),
        show readAll maxFrame (bytes ++ more) =
          readAllFrom maxFrame ((bytes ++ more).length + 1) (bytes ++ more) from rfl,
        readAllFrom_of_frame first, rested]
    | needMore => simp [readArrived, read, Progress.andThen, Progress.frames]
    | failed e =>
      have first := next_append_failed read true more
      simp [readArrived, read, readAll, readAllFrom, first, Progress.andThen, Progress.frames]
    | finished => exact absurd read next_open_ne_end.1
    | truncated => exact absurd read next_open_ne_end.2

/-- What a reader makes of the bytes that have arrived is the start of what is read from the whole
input, whatever may still follow them; after a closed input nothing does. -/
theorem readAll_append_of_readArrived {maxFrame : Nat} {closed : Bool} {bytes more : List UInt8}
    (done : closed = true → more = []) :
    readAll maxFrame (bytes ++ more) =
      (readArrived maxFrame closed (bytes.length + 1) bytes).andThen
        (readAll maxFrame ((readArrived maxFrame closed (bytes.length + 1) bytes).rest ++ more)) := by
  cases closed with
  | true =>
    rw [done rfl, List.append_nil]
    exact (andThen_readArrived_closed (Nat.lt_succ_self _) _).symm
  | false => exact readAll_append_of_open (Nat.lt_succ_self _) more

/-- A reader fed an input chunk by chunk: after each chunk it reads what has arrived and keeps the
bytes it cannot read yet; once the input has closed it reads the rest. -/
def readChunks (maxFrame : Nat) : List (List UInt8) → List UInt8 → List (List UInt8) × End
  | [], pending => (readArrived maxFrame true (pending.length + 1) pending).andThen ([], .clean)
  | chunk :: later, pending =>
    let p := readArrived maxFrame false ((pending ++ chunk).length + 1) (pending ++ chunk)
    p.andThen (readChunks maxFrame later p.rest)

/-- However an input is cut into arrivals, a reader that reads after each of them reads the frames
of the whole input, in order, and meets the same end. -/
theorem readChunks_eq_readAll (maxFrame : Nat) (chunks : List (List UInt8))
    (pending : List UInt8) :
    readChunks maxFrame chunks pending = readAll maxFrame (pending ++ chunks.flatten) := by
  induction chunks generalizing pending with
  | nil => simp [readChunks, readAll, andThen_readArrived_closed]
  | cons chunk later ih =>
    rw [readChunks, ih, List.flatten_cons, ← List.append_assoc]
    exact (readAll_append_of_open (Nat.lt_succ_self (pending ++ chunk).length) _).symm

end Frame

end LspBridge
