import LspBridge.Json.Reader
import Mathlib
/-!
# What the JSON reader gives

The reader keeps an integer exactly only while it fits 64 bits: a non-negative one as unsigned
and a negative one, down to `-2 ^ 63`, as signed. So a signed number that the reader gives is
negative and fits 64 bits (`Number.Read`), and this holds of every member of an object that it
reads. Every number comes from `readNumber`, whose only integers come from `integerNumber`;
every other number it gives is a double.
-/

namespace LspBridge

namespace Json

/-- A number as the reader gives it: a signed integer is negative and at least `-2 ^ 63`. -/
def Number.Read : Number → Prop
  | .signed n => -2 ^ 63 ≤ n ∧ n < 0
  | _ => True

/-- A reading of a number that, when it succeeds, gives a number the reader can give. -/
def ReadsNumber (r : Except ReadError (Number × List UInt8)) : Prop :=
  ∀ n rest, r = .ok (n, rest) → n.Read

theorem integerNumber_read (positive : Bool) (significand : Nat) :
    (integerNumber positive significand).Read := by
  unfold integerNumber
  split
  · trivial
  · split
    · trivial
    · rename_i _ small
      simp only [Bool.or_eq_true, decide_eq_true_eq, not_or, Nat.pow_eq] at small
      simp only [Number.Read]
      omega

theorem readsNumber_doubleOfParts (positive : Bool) (significand : Nat) (exp : Int)
    (rest : List UInt8) :
    ReadsNumber ((doubleOfParts positive significand exp).map (·, rest)) := by
  intro n after read
  unfold doubleOfParts at read
  split at read
  · simp only [Except.map, Except.ok.injEq, Prod.mk.injEq] at read
    rw [← read.1]
    trivial
  · simp [Except.map] at read

theorem readsNumber_exponentDigits (positive : Bool) (significand : Nat) (start : Int)
    (expPositive : Bool) (exp : Nat) (bytes : List UInt8) :
    ReadsNumber (exponentDigits positive significand start expPositive exp bytes) := by
  fun_induction exponentDigits positive significand start expPositive exp bytes with
  | case1 exp b rest digit overflow outOfRange => intro n after read; simp at read
  | case2 exp b rest digit overflow inRange =>
      intro n after read
      simp only [Except.ok.injEq, Prod.mk.injEq] at read
      rw [← read.1]
      trivial
  | case3 exp b rest digit noOverflow ih => exact ih
  | case4 exp b rest notDigit => exact readsNumber_doubleOfParts _ _ _ _
  | case5 exp => exact readsNumber_doubleOfParts _ _ _ _

theorem readsNumber_exponentPart (positive : Bool) (significand : Nat) (start : Int)
    (bytes : List UInt8) : ReadsNumber (exponentPart positive significand start bytes) := by
  intro n after read
  unfold exponentPart at read
  -- past the sign, the exponent needs a first digit
  split at read
  split at read
  · cases read
  · split at read
    · exact readsNumber_exponentDigits _ _ _ _ _ _ n after read
    · cases read

theorem readsNumber_afterDigits (positive : Bool) (significand : Nat) (exp : Int)
    (bytes : List UInt8) : ReadsNumber (afterDigits positive significand exp bytes) := by
  unfold afterDigits
  split
  · split
    · exact readsNumber_exponentPart _ _ _ _
    · exact readsNumber_doubleOfParts _ _ _ _
  · exact readsNumber_doubleOfParts _ _ _ _

theorem readsNumber_fractionDigits (positive : Bool) (before : Int) (significand seen : Nat)
    (bytes : List UInt8) :
    ReadsNumber (fractionDigits positive before significand seen bytes) := by
  fun_induction fractionDigits positive before significand seen bytes with
  | case1 => exact readsNumber_afterDigits _ _ _ _
  | case2 _ _ _ _ _ _ ih => exact ih
  | case3 => intro n after read; cases read
  | case4 => exact readsNumber_afterDigits _ _ _ _
  | case5 => intro n after read; cases read
  | case6 => exact readsNumber_afterDigits _ _ _ _

theorem readsNumber_afterInteger (positive : Bool) (significand : Nat) (bytes : List UInt8) :
    ReadsNumber (afterInteger positive significand bytes) := by
  -- an integer with no fraction and no exponent is the only source of an integer number
  have whole : ∀ rest, ReadsNumber (.ok (integerNumber positive significand, rest)) := by
    intro rest n after read
    simp only [Except.ok.injEq, Prod.mk.injEq] at read
    rw [← read.1]
    exact integerNumber_read positive significand
  unfold afterInteger
  split
  · exact readsNumber_fractionDigits _ _ _ _ _
  · split
    · exact readsNumber_exponentPart _ _ _ _
    · exact whole _
  · exact whole _

theorem readsNumber_longInteger (positive : Bool) (significand : Nat) (bytes : List UInt8) :
    ReadsNumber (longInteger positive significand bytes) := by
  unfold longInteger
  split
  · exact readsNumber_fractionDigits _ _ _ _ _
  · split
    · exact readsNumber_exponentPart _ _ _ _
    · exact readsNumber_doubleOfParts _ _ _ _
  · exact readsNumber_doubleOfParts _ _ _ _

theorem readsNumber_integerDigits (positive : Bool) (significand : Nat) (bytes : List UInt8) :
    ReadsNumber (integerDigits positive significand bytes) := by
  fun_induction integerDigits positive significand bytes with
  | case1 => exact readsNumber_longInteger _ _ _
  | case2 _ _ _ _ _ ih => exact ih
  | case3 => exact readsNumber_afterInteger _ _ _
  | case4 => exact readsNumber_afterInteger _ _ _

/-- Every number the reader reads is one it can give. -/
theorem readsNumber_readNumber (bytes : List UInt8) : ReadsNumber (readNumber bytes) := by
  intro n after read
  unfold readNumber at read
  -- past the sign: a lone zero, or a first digit and the digits after it
  split at read
  split at read
  · cases read
  · split at read
    · split at read
      · cases read
      · exact readsNumber_afterInteger _ _ _ n after read
    · exact readsNumber_afterInteger _ _ _ n after read
  · split at read
    · exact readsNumber_integerDigits _ _ _ n after read
    · cases read

/-- A value whose own number, or the numbers of whose members when it is an object, are ones
the reader can give. -/
def ShallowRead : Value → Prop
  | .number n => n.Read
  | .object ms => ∀ m ∈ ms, ∀ n, m.2 = .number n → n.Read
  | _ => True

theorem literal_ok {rest word : List UInt8} {v v' : Value} {after : List UInt8}
    (read : literal rest word v = .ok (v', after)) : v' = v := by
  unfold literal at read
  split at read
  · simp only [Except.ok.injEq, Prod.mk.injEq] at read
    exact read.1.symm
  · split at read <;> cases read

theorem readItems_array {fuel depth : Nat} {bytes : List UInt8} {acc : List Value} {v : Value}
    {after : List UInt8} (read : readItems fuel depth bytes acc = .ok (v, after)) :
    ∃ xs, v = .array xs := by
  induction fuel generalizing bytes acc with
  | zero => simp [readItems] at read
  | succ fuel ih =>
      simp only [readItems] at read
      split at read
      · cases read
      · split at read
        · split at read
          · cases read
          · exact ih read
        · simp only [Except.ok.injEq, Prod.mk.injEq] at read
          exact ⟨_, read.1.symm⟩
        · cases read
        · cases read

theorem mem_insertMember {k : String} {x : Value} {ms : List (String × Value)}
    {m : String × Value} (mem : m ∈ insertMember k x ms) : m = (k, x) ∨ m ∈ ms := by
  induction ms with
  | nil => simpa [insertMember] using mem
  | cons first rest ih =>
      obtain ⟨other, y⟩ := first
      simp only [insertMember] at mem
      split at mem
      · simpa using mem
      · split at mem
        · simp only [List.mem_cons] at mem
          rcases mem with new | old
          · exact .inl new
          · exact .inr (List.mem_cons_of_mem _ old)
        · simp only [List.mem_cons] at mem
          rcases mem with head | later
          · exact .inr (by simp [head])
          · rcases ih later with new | old
            · exact .inl new
            · exact .inr (List.mem_cons_of_mem _ old)

/-- Along the reader's calls, a value read is `ShallowRead`, and so is an object whose members
are read after members that already were. The induction is on the fuel, which both readers
share. -/
theorem shallowRead_of_read (fuel : Nat) :
    (∀ depth bytes v after, readValue fuel depth bytes = .ok (v, after) → ShallowRead v) ∧
    (∀ depth bytes acc v after, readMembers fuel depth bytes acc = .ok (v, after) →
      ShallowRead (.object acc) → ShallowRead v) := by
  induction fuel with
  | zero =>
      constructor
      · intro depth bytes v after read
        simp [readValue] at read
      · intro depth bytes acc v after read
        simp [readMembers] at read
  | succ fuel ih =>
      obtain ⟨values, members⟩ := ih
      constructor
      · intro depth bytes v after read
        simp only [readValue] at read
        split at read
        · cases read
        -- the first byte says which kind of value follows
        split at read
        · rw [literal_ok read]; trivial
        split at read
        · rw [literal_ok read]; trivial
        split at read
        · rw [literal_ok read]; trivial
        split at read
        · simp only [Except.map] at read
          split at read
          · cases read
          · simp only [Except.ok.injEq, Prod.mk.injEq] at read
            rw [← read.1]; trivial
        split at read
        · simp only [Except.map] at read
          split at read
          · cases read
          · rename_i result number
            simp only [Except.ok.injEq, Prod.mk.injEq] at read
            rw [← read.1]
            exact readsNumber_readNumber _ result.1 result.2 number
        split at read
        · split at read
          · cases read
          split at read
          · simp only [Except.ok.injEq, Prod.mk.injEq] at read
            rw [← read.1]; trivial
          · obtain ⟨xs, rfl⟩ := readItems_array read
            trivial
        split at read
        · split at read
          · cases read
          split at read
          · simp only [Except.ok.injEq, Prod.mk.injEq] at read
            rw [← read.1]
            simp [ShallowRead]
          · exact members _ _ _ _ _ read (by simp [ShallowRead])
        · cases read
      · intro depth bytes acc v after read earlier
        simp only [readMembers] at read
        -- a key, a colon and a value, then a comma and more members or the closing brace
        split at read
        · split at read
          · cases read
          split at read
          · split at read
            · cases read
            rename_i key _ _ _ _ _ _ value _ valueRead
            have added : ShallowRead (.object (insertMember key value acc)) := by
              intro m mem n number
              rcases mem_insertMember mem with new | old
              · subst new
                simp only at number
                subst number
                exact values _ _ _ _ valueRead
              · exact earlier m old n number
            split at read
            · exact members _ _ _ _ _ read added
            · simp only [Except.ok.injEq, Prod.mk.injEq] at read
              rw [← read.1]
              exact added
            · cases read
            · cases read
          · cases read
          · cases read
        · cases read
        · cases read

theorem mem_of_lookupMember {k : String} {x : Value} {ms : List (String × Value)}
    (found : lookupMember k ms = some x) : (k, x) ∈ ms := by
  induction ms with
  | nil => simp [lookupMember] at found
  | cons first rest ih =>
      obtain ⟨other, y⟩ := first
      simp only [lookupMember] at found
      split at found
      · rename_i same
        simp only [Option.some.injEq] at found
        simp [same, found]
      · exact List.mem_cons_of_mem _ (ih found)

/-- A number member of an object the reader reads is one the reader can give. -/
theorem read_get?_number {bytes : List UInt8} {v : Value} (read : Json.read bytes = .ok v)
    {k : String} {n : Number} (found : v.get? k = some (.number n)) : n.Read := by
  unfold Json.read at read
  split at read
  · cases read
  · rename_i top rest valueRead
    split at read
    · simp only [Except.ok.injEq] at read
      subst read
      have shallow := (shallowRead_of_read _).1 _ _ _ _ valueRead
      cases top with
      | object ms => exact shallow (k, .number n) (mem_of_lookupMember found) n rfl
      | _ => simp [Value.get?] at found
    · cases read

end Json

end LspBridge
