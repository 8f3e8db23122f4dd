import LspBridge.Proofs.MessageCodec
/-!
# Which payloads are messages

`Message.decode` reads a payload as JSON and classifies the object it finds by its members. This
file writes the JSON-RPC rules of that classification as a relation, `Message.Reads`, with one
rule per outcome; each rule carries the checks that come before it, in this order:

1. the value is an object;
2. a `jsonrpc` member, if present, is the string `"2.0"`;
3. an `id` member that is present and not null names an id: an integer the JSON text gives
   exactly, in the signed 64-bit range, or a string;
4. a string `method` makes a request (with an id) or a notification (without), with the `params`
   member or null; a `method` that is no string is refused;
5. without a method, the `result` and `error` members give the outcome (`Message.Outcome`): a
   non-null error beside a null or absent result must parse as an error object, a result beside
   a null or absent error is the result, both non-null or neither present is refused;
6. last, a response needs an id.

An error object is read as every derived record is read (`ResponseError.Parses`): an object with a
32-bit integer `code` and a string `message`, or the array of its fields in order,
`[code, message]` or `[code, message, data]`. In both forms a null or absent `data` is none.

The main result, `decode_follows_rules`, is that decoding gives exactly what the rules give, for
every payload; a payload that is no JSON text is refused as such. Every refusal is a
`DecodeError`, which the message layer reports as a protocol error.
-/

namespace LspBridge

namespace Rpc

open Json

/-- `raw` is the JSON form of `id`: an integer that the JSON text gives exactly and that fits 64
signed bits, or a string. A double, even a whole one, names no id. -/
inductive RequestId.Names : Value → RequestId → Prop
  | number {raw : Value} {n : Int} (exact : raw.asInt? = some n) (low : -2 ^ 63 ≤ n)
      (high : n < 2 ^ 63) : RequestId.Names raw (.number n)
  | string (s : String) : RequestId.Names (.string s) (.text s)

/-- `v` parses as an error object, as a derived record does: an object with a 32-bit integer
`code` and a string `message`, its other members ignored, or the array of the fields in order,
of two or three items. A null or absent `data` is none. -/
inductive ResponseError.Parses : Value → ResponseError → Prop
  | object {ms : List (String × Value)} {c : Value} {code : Int} {message : String}
      (codeFound : lookupMember "code" ms = some c) (exact : c.asInt? = some code)
      (low : -2 ^ 31 ≤ code) (high : code < 2 ^ 31)
      (messageFound : lookupMember "message" ms = some (.string message)) :
      ResponseError.Parses (.object ms)
        ⟨code, message, (lookupMember "data" ms).filter (!·.isNull)⟩
  | pair {c : Value} {code : Int} (message : String) (exact : c.asInt? = some code)
      (low : -2 ^ 31 ≤ code) (high : code < 2 ^ 31) :
      ResponseError.Parses (.array [c, .string message]) ⟨code, message, none⟩
  | triple {c : Value} {code : Int} (message : String) (d : Value) (exact : c.asInt? = some code)
      (low : -2 ^ 31 ≤ code) (high : code < 2 ^ 31) :
      ResponseError.Parses (.array [c, .string message, d])
        ⟨code, message, (some d).filter (!·.isNull)⟩

namespace RequestId

theorem names_of_ofValue? {raw : Value} {id : RequestId} (read : ofValue? raw = some id)
    (numbers : ∀ n, raw = .number n → n.Read) : Names raw id := by
  have fits := fits_of_ofValue? read numbers
  cases raw with
  | number n =>
      cases n with
      | unsigned n =>
          simp only [ofValue?, Nat.pow_eq] at read
          split at read
          · simp only [Option.some.injEq] at read
            subst read
            simp only [Fits] at fits
            exact .number rfl fits.1 fits.2
          · cases read
      | signed n =>
          simp only [ofValue?, Option.some.injEq] at read
          subst read
          simp only [Fits] at fits
          exact .number rfl fits.1 fits.2
      | double => simp [ofValue?] at read
  | string s =>
      simp only [ofValue?, Option.some.injEq] at read
      subst read
      exact .string s
  | null | bool | array | object => simp [ofValue?] at read

theorem ofValue?_of_names {raw : Value} {id : RequestId} (names : Names raw id) :
    ofValue? raw = some id := by
  cases names with
  | @number raw n exact low high =>
      -- an exact integer is of the unsigned or the signed kind
      cases raw with
      | number k =>
          cases k with
          | unsigned k =>
              simp only [Value.asInt?, Option.some.injEq] at exact
              subst exact
              simp only [ofValue?, Nat.pow_eq]
              rw [if_pos (by omega)]
          | signed k =>
              simp only [Value.asInt?, Option.some.injEq] at exact
              subst exact
              rfl
          | double => simp [Value.asInt?] at exact
      | null | bool | string | array | object => simp [Value.asInt?] at exact
  | string s => rfl

/-- Reading an id from a value the reader gives succeeds exactly when the value names an id. -/
theorem ofValue?_eq_some_iff {raw : Value} (numbers : ∀ n, raw = .number n → n.Read)
    {id : RequestId} : ofValue? raw = some id ↔ Names raw id :=
  ⟨fun read => names_of_ofValue? read numbers, ofValue?_of_names⟩

end RequestId

namespace ResponseError

/-- An error object from its three fields, as the record reading checks them: a 32-bit integer
code, a string message, and data unless it is null. -/
def ofFields (c m : Value) (d : Option Value) : Option ResponseError :=
  c.asInt?.bind fun code =>
    if -2 ^ 31 ≤ code ∧ code < 2 ^ 31 then
      m.asString?.map fun message => ⟨code, message, d.filter (!·.isNull)⟩
    else none

theorem ofFields_eq_some_iff {c m : Value} {d : Option Value} {e : ResponseError} :
    ofFields c m d = some e ↔ ∃ code message, c.asInt? = some code ∧ -2 ^ 31 ≤ code ∧
      code < 2 ^ 31 ∧ m = .string message ∧ e = ⟨code, message, d.filter (!·.isNull)⟩ := by
  unfold ofFields
  cases exact : c.asInt? with
  | none => simp
  | some code =>
      by_cases range : -2 ^ 31 ≤ code ∧ code < 2 ^ 31
      · cases m <;> simp [Value.asString?, eq_comm, and_assoc]
      · simp only [Option.bind_some, range, if_false, reduceCtorEq, false_iff]
        rintro ⟨_, _, same, low, high, -⟩
        cases same
        exact range ⟨low, high⟩

theorem ofFields_null (c m : Value) : ofFields c m (some .null) = ofFields c m none := by
  simp [ofFields, Option.filter_some]

/-- The 32-bit integers, as the shape checks them. -/
theorem normalize?_i32 (c : Value) : Shape.i32.normalize? c =
    c.asInt?.bind fun code => if -2 ^ 31 ≤ code ∧ code < 2 ^ 31 then some c else none := by
  cases exact : c.asInt? with
  | none => simp [Shape.i32, Shape.normalize?, exact]
  | some code =>
      simp only [Shape.i32, Shape.normalize?, exact, Option.bind_some, Int.pow_eq]
      by_cases range : -2 ^ 31 ≤ code ∧ code < 2 ^ 31
      · rw [if_pos (by omega), if_pos range]
      · rw [if_neg (by omega), if_neg range]

/-- The three fields, checked and written as the record, then read back. -/
theorem read_normalizeFields (c m x : Value) (check : Bool) :
    ((Shape.normalizeFields [("code", .required, Shape.i32, false),
        ("message", .required, Shape.text, false), ("data", .defaulted .null, Shape.any.option, true)]
        [(some c, true), (some m, true), (some x, check)]).bind fun n =>
      (n.field "code").asInt?.bind fun code => (n.field "message").asString?.bind fun message =>
        some ({ code, message, data := n.get? "data" } : ResponseError)) =
      ofFields c m (some x) := by
  unfold ofFields
  cases exact : c.asInt? with
  | none =>
      simp [Shape.normalizeFields_cons_eq, normalize?_i32, exact, Shape.fieldValue]
  | some code =>
      by_cases range : -2 ^ 31 ≤ code ∧ code < 2 ^ 31
      · -- the bounds as the shape writes them
        have within : -2147483648 ≤ code ∧ code < 2147483648 := by omega
        cases m with
        | string message =>
            cases check <;> cases nul : x.isNull <;>
              simp [Shape.normalizeFields_cons_eq, normalize?_i32, Shape.normalize?, exact,
                Shape.fieldValue, Shape.text, nul, within, Shape.normalizeFields, Value.insert,
                insertMember, -String.lt_iff_ltb, Value.field, Value.get?, lookupMember,
                Value.asString?, Option.filter_some]
        | _ =>
            simp [Shape.normalizeFields_cons_eq, normalize?_i32, Shape.normalize?, exact, within,
              Shape.text, Shape.fieldValue, Value.asString?]
      · have beyond : ¬ (-2147483648 ≤ code ∧ code < 2147483648) := by omega
        simp [Shape.normalizeFields_cons_eq, normalize?_i32, exact, beyond, Shape.fieldValue]

/-- An error given as an object is read from its `code`, `message` and `data` members. -/
theorem ofValue?_object (ms : List (String × Value)) :
    ofValue? (.object ms) = (lookupMember "code" ms).bind fun c =>
      (lookupMember "message" ms).bind fun m => ofFields c m (lookupMember "data" ms) := by
  show (shape.normalize? (.object ms)).bind _ = _
  cases codeFound : lookupMember "code" ms with
  | none =>
      simp [shape, Shape.recordOf, Shape.normalize?, objectFields, Shape.req, codeFound]
  | some c =>
  cases messageFound : lookupMember "message" ms with
  | none =>
      simp [shape, Shape.recordOf, Shape.normalize?, objectFields, Shape.req, codeFound,
        messageFound]
  | some m =>
  cases dataFound : lookupMember "data" ms with
  | none =>
      simp only [shape, Shape.recordOf, Shape.normalize?, objectFields, Shape.req, Shape.optD,
        codeFound, messageFound, dataFound]
      simp only [Option.bind_eq_bind, Option.bind_some, List.map_cons, List.map_nil]
      exact (read_normalizeFields c m .null true).trans (ofFields_null c m)
  | some d =>
      simp only [shape, Shape.recordOf, Shape.normalize?, objectFields, Shape.req, Shape.optD,
        codeFound, messageFound, dataFound]
      simp only [Option.bind_eq_bind, Option.bind_some, List.map_cons, List.map_nil]
      exact read_normalizeFields c m d true

/-- An error given as the array of its code and message. -/
theorem ofValue?_pair (c m : Value) : ofValue? (.array [c, m]) = ofFields c m none := by
  show (shape.normalize? (.array [c, m])).bind _ = _
  simp only [shape, Shape.recordOf, Shape.normalize?, if_true, arrayFields, Shape.req,
    Shape.optD, Option.map_some, Option.bind_some, List.isEmpty_nil, if_true]
  exact (read_normalizeFields c m .null false).trans (ofFields_null c m)

/-- An error given as the array of its code, message and data. -/
theorem ofValue?_triple (c m d : Value) : ofValue? (.array [c, m, d]) = ofFields c m (some d) := by
  show (shape.normalize? (.array [c, m, d])).bind _ = _
  simp only [shape, Shape.recordOf, Shape.normalize?, if_true, arrayFields, Shape.req,
    Shape.optD, Option.map_some, Option.bind_some, List.isEmpty_nil, if_true]
  exact read_normalizeFields c m d true

/-- An array of any other length is no error object. -/
theorem ofValue?_array_of_length {xs : List Value} (two : xs.length ≠ 2) (three : xs.length ≠ 3) :
    ofValue? (.array xs) = none := by
  show (shape.normalize? (.array xs)).bind _ = _
  match xs, two, three with
  | [], _, _ => simp [shape, Shape.recordOf, Shape.normalize?, arrayFields, Shape.req]
  | [_], _, _ => simp [shape, Shape.recordOf, Shape.normalize?, arrayFields, Shape.req]
  | _ :: _ :: _ :: _ :: _, _, _ =>
      simp [shape, Shape.recordOf, Shape.normalize?, arrayFields, Shape.req, Shape.optD]

/-- Reading an error object succeeds exactly on the values that parse as one. -/
theorem ofValue?_eq_some_iff {v : Value} {e : ResponseError} : ofValue? v = some e ↔ Parses v e := by
  constructor
  · intro read
    cases v with
    | object ms =>
        rw [ofValue?_object] at read
        cases codeFound : lookupMember "code" ms with
        | none => simp [codeFound] at read
        | some c =>
        cases messageFound : lookupMember "message" ms with
        | none => simp [codeFound, messageFound] at read
        | some m =>
        simp only [codeFound, messageFound, Option.bind_some] at read
        obtain ⟨code, message, exact, low, high, rfl, rfl⟩ := ofFields_eq_some_iff.mp read
        exact .object codeFound exact low high messageFound
    | array xs =>
        match xs with
        | [c, m] =>
            rw [ofValue?_pair] at read
            obtain ⟨code, message, exact, low, high, rfl, rfl⟩ := ofFields_eq_some_iff.mp read
            exact .pair message exact low high
        | [c, m, d] =>
            rw [ofValue?_triple] at read
            obtain ⟨code, message, exact, low, high, rfl, rfl⟩ := ofFields_eq_some_iff.mp read
            exact .triple message d exact low high
        | [] | [_] | _ :: _ :: _ :: _ :: _ =>
            rw [ofValue?_array_of_length (by simp) (by simp)] at read
            cases read
    | null | bool | number | string =>
        simp [ofValue?, shape, Shape.recordOf, Shape.normalize?] at read
  · intro parses
    cases parses with
    | object codeFound exact low high messageFound =>
        rw [ofValue?_object, codeFound, messageFound]
        exact ofFields_eq_some_iff.mpr ⟨_, _, exact, low, high, rfl, rfl⟩
    | pair message exact low high =>
        rw [ofValue?_pair]
        exact ofFields_eq_some_iff.mpr ⟨_, _, exact, low, high, rfl, rfl⟩
    | triple message d exact low high =>
        rw [ofValue?_triple]
        exact ofFields_eq_some_iff.mpr ⟨_, _, exact, low, high, rfl, rfl⟩

end ResponseError

theorem Value.ne_null_of_isNull {v : Value} (nonNull : v.isNull = false) : v ≠ .null := by
  rintro rfl
  cases nonNull

theorem Value.isNull_of_ne_null {v : Value} (nonNull : v ≠ .null) : v.isNull = false := by
  cases v with
  | null => exact absurd rfl nonNull
  | _ => rfl

namespace Message

/-- The outcome of a response by its `result` and `error` members. A null `error` counts as absent;
a null `result` counts as absent beside a non-null error and as the result otherwise.

`error`: a non-null error beside a null or absent result, which parses as an error object.
`malformed`: a non-null error beside a null or absent result, which does not parse. `result`: a
result, null or not, beside a null or absent error. `both`: a non-null result beside a non-null
error. `neither`: no result, and a null or absent error. -/
inductive Outcome :
    Option Value → Option Value → Except DecodeError (Except ResponseError Value) → Prop
  | error {result error : Option Value} {e : Value} {err : ResponseError}
      (noResult : result = none ∨ result = some .null) (given : error = some e)
      (nonNull : e ≠ .null) (parses : ResponseError.Parses e err) :
      Outcome result error (.ok (.error err))
  | malformed {result error : Option Value} {e : Value}
      (noResult : result = none ∨ result = some .null) (given : error = some e)
      (nonNull : e ≠ .null) (refused : ∀ err, ¬ ResponseError.Parses e err) :
      Outcome result error (.error .malformedError)
  | result {result error : Option Value} {r : Value} (given : result = some r)
      (noError : error = none ∨ error = some .null) : Outcome result error (.ok (.ok r))
  | both {result error : Option Value} {r e : Value} (resultGiven : result = some r)
      (resultNonNull : r ≠ .null) (errorGiven : error = some e) (errorNonNull : e ≠ .null) :
      Outcome result error (.error .resultAndError)
  | neither {result error : Option Value} (noResult : result = none)
      (noError : error = none ∨ error = some .null) : Outcome result error (.error .noContent)

/-- Reading an error object fails exactly when nothing parses. -/
theorem refused_of_ofValue? {e : Value} (read : ResponseError.ofValue? e = none) :
    ∀ err, ¬ ResponseError.Parses e err := fun err parses => by
  rw [← ResponseError.ofValue?_eq_some_iff, read] at parses
  cases parses

/-- A non-null error beside a null or absent result: parsed, or refused as malformed. -/
theorem outcome_of_error {result : Option Value} {e : Value}
    (noResult : result = none ∨ result = some .null) (nonNull : e ≠ .null) :
    Outcome result (some e) (match ResponseError.ofValue? e with
      | some err => .ok (.error err)
      | none => .error .malformedError) := by
  cases read : ResponseError.ofValue? e with
  | some err => exact .error noResult rfl nonNull (ResponseError.ofValue?_eq_some_iff.mp read)
  | none => exact .malformed noResult rfl nonNull (refused_of_ofValue? read)

/-- A non-null error is kept as it is. -/
theorem filter_error {e : Value} (nonNull : e.isNull = false) :
    (some e).filter (!·.isNull) = some e := by
  simp [Option.filter_some, nonNull]

/-- A null error counts as absent. -/
theorem filter_null : (some Value.null).filter (!·.isNull) = none := by
  simp [Option.filter_some]

/-- The outcome a response's members give follows the rules. The cases follow the members, a
null `result` apart from the others since it counts as absent beside a non-null error. -/
theorem outcome_outcomeOf (result error : Option Value) :
    Outcome result error (outcomeOf result error) := by
  cases error with
  | none =>
      cases result with
      | none => exact .neither rfl (.inl rfl)
      | some r => cases r <;> exact .result rfl (.inl rfl)
  | some e =>
      cases nulE : e.isNull
      · -- a non-null error is kept
        have nonNull := Value.ne_null_of_isNull nulE
        unfold outcomeOf
        simp only [filter_error nulE]
        cases result with
        | none => exact outcome_of_error (.inl rfl) nonNull
        | some r =>
            cases r with
            | null => exact outcome_of_error (.inr rfl) nonNull
            | _ => exact .both rfl (by simp) rfl nonNull
      · -- a null error counts as absent
        obtain rfl := Value.eq_null_of_isNull nulE
        unfold outcomeOf
        simp only [filter_null]
        cases result with
        | none => exact .neither rfl (.inr rfl)
        | some r => cases r <;> exact .result rfl (.inr rfl)

/-- The rules give one outcome only, so it is the one the members give. -/
theorem outcomeOf_of_outcome {result error : Option Value}
    {o : Except DecodeError (Except ResponseError Value)} (outcome : Outcome result error o) :
    outcomeOf result error = o := by
  cases outcome with
  | error noResult given nonNull parses =>
      subst given
      have read := ResponseError.ofValue?_eq_some_iff.mpr parses
      unfold outcomeOf
      simp only [filter_error (Value.isNull_of_ne_null nonNull)]
      rcases noResult with rfl | rfl <;> simp only [read]
  | @malformed e noResult given nonNull refused =>
      subst given
      have read : ResponseError.ofValue? e = none := by
        cases found : ResponseError.ofValue? e with
        | none => rfl
        | some err => exact absurd (ResponseError.ofValue?_eq_some_iff.mp found) (refused err)
      unfold outcomeOf
      simp only [filter_error (Value.isNull_of_ne_null nonNull)]
      rcases noResult with rfl | rfl <;> simp only [read]
  | @result r given noError =>
      subst given
      unfold outcomeOf
      rcases noError with rfl | rfl
      · cases r <;> rfl
      · simp only [filter_null]
  | @both r e resultGiven resultNonNull errorGiven errorNonNull =>
      subst resultGiven errorGiven
      unfold outcomeOf
      simp only [filter_error (Value.isNull_of_ne_null errorNonNull)]
  | neither noResult noError =>
      subst noResult
      unfold outcomeOf
      rcases noError with rfl | rfl
      · rfl
      · simp only [filter_null]

/-- What the `id` member of a message object says: no id when it is absent or null, and
otherwise the id it names. -/
inductive IdMember (ms : List (String × Value)) : Option RequestId → Prop
  | absent (missing : lookupMember "id" ms = none) : IdMember ms none
  | null (nul : lookupMember "id" ms = some .null) : IdMember ms none
  | given {raw : Value} {id : RequestId} (found : lookupMember "id" ms = some raw)
      (names : RequestId.Names raw id) : IdMember ms (some id)

/-- A `jsonrpc` member, if there is one, is the string `"2.0"`. -/
def VersionOk (ms : List (String × Value)) : Prop :=
  ∀ version, lookupMember "jsonrpc" ms = some version → version = .string "2.0"

/-- The params of a request or notification: the `params` member, or null when it is absent. -/
def paramsOf (ms : List (String × Value)) : Value := (lookupMember "params" ms).getD .null

/-- The JSON-RPC rules for classifying a value as a message, one rule per outcome. Each rule carries
the checks made before it: the object, the version, the id, then the method, and for a response its
outcome before its id.

`notObject`: what is not an object is no message. `version`: a `jsonrpc` member other than `"2.0"`
is refused. `badId`: a present, non-null `id` that names no id is refused. `request`: a string
method with an id is a request. `notification`: a string method without an id is a notification.
`methodNotString`: a method that is no string is refused. `noOutcome`: without a method, result and
error members that give no outcome are refused. `response`: without a method, an outcome with an id
is a response. `errorWithoutId`: an error outcome without an id is refused. `resultWithoutId`: a
result outcome without an id is refused. -/
inductive Reads : Value → Except DecodeError Message → Prop
  | notObject {v : Value} (other : ∀ ms, v ≠ .object ms) : Reads v (.error .notObject)
  | version {ms : List (String × Value)} {version : Value}
      (found : lookupMember "jsonrpc" ms = some version) (wrong : version ≠ .string "2.0") :
      Reads (.object ms) (.error (.unsupportedVersion version))
  | badId {ms : List (String × Value)} {raw : Value} (version : VersionOk ms)
      (found : lookupMember "id" ms = some raw) (nonNull : raw ≠ .null)
      (unnamed : ∀ id, ¬ RequestId.Names raw id) : Reads (.object ms) (.error (.invalidId raw))
  | request {ms : List (String × Value)} {id : RequestId} {method : String} (version : VersionOk ms)
      (named : IdMember ms (some id)) (methodFound : lookupMember "method" ms = some (.string method)) :
      Reads (.object ms) (.ok (.request id method (paramsOf ms)))
  | notification {ms : List (String × Value)} {method : String} (version : VersionOk ms)
      (anonymous : IdMember ms none)
      (methodFound : lookupMember "method" ms = some (.string method)) :
      Reads (.object ms) (.ok (.notification method (paramsOf ms)))
  | methodNotString {ms : List (String × Value)} {id : Option RequestId} {method : Value}
      (version : VersionOk ms) (idRead : IdMember ms id)
      (methodFound : lookupMember "method" ms = some method) (notString : ∀ s, method ≠ .string s) :
      Reads (.object ms) (.error (.methodNotString method))
  | noOutcome {ms : List (String × Value)} {id : Option RequestId} {e : DecodeError}
      (version : VersionOk ms) (idRead : IdMember ms id)
      (noMethod : lookupMember "method" ms = none)
      (outcome : Outcome (lookupMember "result" ms) (lookupMember "error" ms) (.error e)) :
      Reads (.object ms) (.error e)
  | response {ms : List (String × Value)} {id : RequestId}
      {o : Except ResponseError Value} (version : VersionOk ms) (named : IdMember ms (some id))
      (noMethod : lookupMember "method" ms = none)
      (outcome : Outcome (lookupMember "result" ms) (lookupMember "error" ms) (.ok o)) :
      Reads (.object ms) (.ok (.response id o))
  | errorWithoutId {ms : List (String × Value)} {err : ResponseError} (version : VersionOk ms)
      (anonymous : IdMember ms none) (noMethod : lookupMember "method" ms = none)
      (outcome : Outcome (lookupMember "result" ms) (lookupMember "error" ms) (.ok (.error err))) :
      Reads (.object ms) (.error (.errorWithoutId err))
  | resultWithoutId {ms : List (String × Value)} {r : Value} (version : VersionOk ms)
      (anonymous : IdMember ms none) (noMethod : lookupMember "method" ms = none)
      (outcome : Outcome (lookupMember "result" ms) (lookupMember "error" ms) (.ok (.ok r))) :
      Reads (.object ms) (.error .resultWithoutId)

/-! ### The version and the id -/

theorem checkVersion_of_ok {ms : List (String × Value)} (version : VersionOk ms) :
    checkVersion (.object ms) = .ok () := by
  cases found : lookupMember "jsonrpc" ms with
  | none => simp [checkVersion, Value.get?, found]; rfl
  | some v =>
      rw [version v found] at found
      simp [checkVersion, Value.get?, found, Value.asString?]; rfl

theorem checkVersion_of_wrong {ms : List (String × Value)} {version : Value}
    (found : lookupMember "jsonrpc" ms = some version) (wrong : version ≠ .string "2.0") :
    checkVersion (.object ms) = .error (.unsupportedVersion version) := by
  have differs : (version.asString? != some "2.0") = true := by
    cases version with
    | string s =>
        have other : s ≠ "2.0" := fun same => wrong (by rw [same])
        simp [Value.asString?, other]
    | _ => rfl
  simp [checkVersion, Value.get?, found, differs]

/-- The version check passes or names the member it refuses. -/
theorem checkVersion_cases (ms : List (String × Value)) :
    (checkVersion (.object ms) = .ok () ∧ VersionOk ms) ∨
      ∃ version, lookupMember "jsonrpc" ms = some version ∧ version ≠ .string "2.0" ∧
        checkVersion (.object ms) = .error (.unsupportedVersion version) := by
  cases found : lookupMember "jsonrpc" ms with
  | none =>
      have version : VersionOk ms := fun v given => by rw [found] at given; cases given
      exact .inl ⟨checkVersion_of_ok version, version⟩
  | some v =>
      by_cases right : v = .string "2.0"
      · have version : VersionOk ms := fun v' given => by
          rw [found] at given
          cases given
          exact right
        exact .inl ⟨checkVersion_of_ok version, version⟩
      · exact .inr ⟨v, rfl, right, checkVersion_of_wrong found right⟩

/-- A present, non-null id member is read as an id, or refused. -/
theorem idOf_of_given {ms : List (String × Value)} {raw : Value}
    (found : lookupMember "id" ms = some raw) (nonNull : raw ≠ .null) :
    idOf (.object ms) = match RequestId.ofValue? raw with
      | some id => .ok (some id)
      | none => .error (.invalidId raw) := by
  cases raw with
  | null => exact absurd rfl nonNull
  | _ => simp only [idOf, Value.get?, found]; rfl

theorem idOf_of_idMember {ms : List (String × Value)} {id : Option RequestId}
    (idRead : IdMember ms id) : idOf (.object ms) = .ok id := by
  cases idRead with
  | absent missing => simp [idOf, Value.get?, missing]; rfl
  | null nul => simp [idOf, Value.get?, nul]; rfl
  | @given raw id found names =>
      have nonNull : raw ≠ .null := by
        rintro rfl
        cases names with
        | number exact => cases exact
      rw [idOf_of_given found nonNull, RequestId.ofValue?_of_names names]

/-- The id member, for an object whose numbers are ones the reader gives: an id, or a refusal
of a present, non-null member that names none. -/
theorem idOf_cases {ms : List (String × Value)}
    (numbers : ∀ n, lookupMember "id" ms = some (.number n) → n.Read) :
    (∃ id, idOf (.object ms) = .ok id ∧ IdMember ms id) ∨
      ∃ raw, lookupMember "id" ms = some raw ∧ raw ≠ .null ∧ (∀ id, ¬ RequestId.Names raw id) ∧
        idOf (.object ms) = .error (.invalidId raw) := by
  cases found : lookupMember "id" ms with
  | none => exact .inl ⟨none, idOf_of_idMember (.absent found), .absent found⟩
  | some raw =>
      cases nul : raw.isNull
      · -- a present id that is not null is read, or refused
        have nonNull := Value.ne_null_of_isNull nul
        have given := idOf_of_given found nonNull
        cases read : RequestId.ofValue? raw with
        | some id =>
            rw [read] at given
            have names := RequestId.names_of_ofValue? read fun n same =>
              numbers n (by rw [found, same])
            exact .inl ⟨some id, given, .given found names⟩
        | none =>
            rw [read] at given
            refine .inr ⟨raw, rfl, nonNull, fun id names => ?_, given⟩
            rw [RequestId.ofValue?_of_names names] at read
            cases read
      · obtain rfl := Value.eq_null_of_isNull nul
        exact .inl ⟨none, idOf_of_idMember (.null found), .null found⟩

/-! ### Classifying an object -/

theorem ofValue_of_idOf {ms : List (String × Value)} {id : Option RequestId}
    (version : VersionOk ms) (idRead : idOf (.object ms) = .ok id) :
    ofValue (.object ms) = classify (.object ms) id := by
  simp only [ofValue, checkVersion_of_ok version, idRead]
  rfl

section Classify

variable {ms : List (String × Value)}

theorem classify_request {method : String} (found : lookupMember "method" ms = some (.string method))
    (id : RequestId) : classify (.object ms) (some id) = .ok (.request id method (paramsOf ms)) := by
  simp only [classify, Value.get?, found]
  rfl

theorem classify_notification {method : String}
    (found : lookupMember "method" ms = some (.string method)) :
    classify (.object ms) none = .ok (.notification method (paramsOf ms)) := by
  simp only [classify, Value.get?, found]
  rfl

theorem classify_methodNotString {method : Value} (found : lookupMember "method" ms = some method)
    (notString : ∀ s, method ≠ .string s) (id : Option RequestId) :
    classify (.object ms) id = .error (.methodNotString method) := by
  cases method with
  | string s => exact absurd rfl (notString s)
  | _ => simp only [classify, Value.get?, found]

theorem classify_noOutcome (noMethod : lookupMember "method" ms = none) {e : DecodeError}
    (out : outcomeOf (lookupMember "result" ms) (lookupMember "error" ms) = .error e)
    (id : Option RequestId) : classify (.object ms) id = .error e := by
  simp only [classify, Value.get?, noMethod, bind, Except.bind, out]

theorem classify_response (noMethod : lookupMember "method" ms = none)
    {o : Except ResponseError Value}
    (out : outcomeOf (lookupMember "result" ms) (lookupMember "error" ms) = .ok o)
    (id : RequestId) : classify (.object ms) (some id) = .ok (.response id o) := by
  simp only [classify, Value.get?, noMethod, bind, Except.bind, out]
  rfl

theorem classify_errorWithoutId (noMethod : lookupMember "method" ms = none) {err : ResponseError}
    (out : outcomeOf (lookupMember "result" ms) (lookupMember "error" ms) = .ok (.error err)) :
    classify (.object ms) none = .error (.errorWithoutId err) := by
  simp only [classify, Value.get?, noMethod, bind, Except.bind, out]

theorem classify_resultWithoutId (noMethod : lookupMember "method" ms = none) {r : Value}
    (out : outcomeOf (lookupMember "result" ms) (lookupMember "error" ms) = .ok (.ok r)) :
    classify (.object ms) none = .error .resultWithoutId := by
  simp only [classify, Value.get?, noMethod, bind, Except.bind, out]

end Classify

/-- Whatever the rules give is what classifying gives, for a value whose id member, when it is
a number, is one the reader gives. -/
theorem ofValue_of_reads {v : Value} {r : Except DecodeError Message}
    (numbers : ∀ n, v.get? "id" = some (.number n) → n.Read) (reads : Reads v r) :
    ofValue v = r := by
  cases reads with
  | notObject other =>
      cases v with
      | object ms => exact absurd rfl (other ms)
      | _ => rfl
  | version found wrong => simp only [ofValue, checkVersion_of_wrong found wrong]; rfl
  | @badId ms raw version found nonNull unnamed =>
      have read : RequestId.ofValue? raw = none := by
        cases given : RequestId.ofValue? raw with
        | none => rfl
        | some id =>
            have names := RequestId.names_of_ofValue? given fun n same =>
              numbers n (by simp only [Value.get?, found, same])
            exact absurd names (unnamed id)
      simp only [ofValue, checkVersion_of_ok version, idOf_of_given found nonNull, read]
      rfl
  | request version named found =>
      rw [ofValue_of_idOf version (idOf_of_idMember named), classify_request found]
  | notification version anonymous found =>
      rw [ofValue_of_idOf version (idOf_of_idMember anonymous), classify_notification found]
  | methodNotString version idRead found notString =>
      rw [ofValue_of_idOf version (idOf_of_idMember idRead), classify_methodNotString found notString]
  | noOutcome version idRead noMethod outcome =>
      rw [ofValue_of_idOf version (idOf_of_idMember idRead),
        classify_noOutcome noMethod (outcomeOf_of_outcome outcome)]
  | response version named noMethod outcome =>
      rw [ofValue_of_idOf version (idOf_of_idMember named),
        classify_response noMethod (outcomeOf_of_outcome outcome)]
  | errorWithoutId version anonymous noMethod outcome =>
      rw [ofValue_of_idOf version (idOf_of_idMember anonymous),
        classify_errorWithoutId noMethod (outcomeOf_of_outcome outcome)]
  | resultWithoutId version anonymous noMethod outcome =>
      rw [ofValue_of_idOf version (idOf_of_idMember anonymous),
        classify_resultWithoutId noMethod (outcomeOf_of_outcome outcome)]

/-- Classifying follows the rules, for a value whose id member, when it is a number, is one the
reader gives. The cases follow the checks in their order. -/
theorem reads_ofValue {v : Value} (numbers : ∀ n, v.get? "id" = some (.number n) → n.Read) :
    Reads v (ofValue v) := by
  cases v with
  | object ms =>
      rcases checkVersion_cases ms with ⟨-, version⟩ | ⟨ver, found, wrong, refused⟩
      · rcases idOf_cases numbers with ⟨id, idRead, member⟩ | ⟨raw, found, nonNull, unnamed, refused⟩
        · rw [ofValue_of_idOf version idRead]
          -- the method decides, then the outcome and the id
          cases methodFound : lookupMember "method" ms with
          | some method =>
              cases method with
              | string m =>
                  cases member with
                  | given idFound names =>
                      rw [classify_request methodFound]
                      exact .request version (.given idFound names) methodFound
                  | absent missing =>
                      rw [classify_notification methodFound]
                      exact .notification version (.absent missing) methodFound
                  | null nul =>
                      rw [classify_notification methodFound]
                      exact .notification version (.null nul) methodFound
              | _ =>
                  rw [classify_methodNotString methodFound (by simp)]
                  exact .methodNotString version member methodFound (by simp)
          | none =>
              have outcome := outcome_outcomeOf (lookupMember "result" ms) (lookupMember "error" ms)
              cases out : outcomeOf (lookupMember "result" ms) (lookupMember "error" ms) with
              | error e =>
                  rw [out] at outcome
                  rw [classify_noOutcome methodFound out]
                  exact .noOutcome version member methodFound outcome
              | ok o =>
                  rw [out] at outcome
                  cases id with
                  | some id =>
                      rw [classify_response methodFound out]
                      exact .response version member methodFound outcome
                  | none =>
                      cases o with
                      | error err =>
                          rw [classify_errorWithoutId methodFound out]
                          exact .errorWithoutId version member methodFound outcome
                      | ok r =>
                          rw [classify_resultWithoutId methodFound out]
                          exact .resultWithoutId version member methodFound outcome
        · have refusedValue : ofValue (.object ms) = .error (.invalidId raw) := by
            simp only [ofValue, checkVersion_of_ok version, refused]
            rfl
          rw [refusedValue]
          exact .badId version found nonNull unnamed
      · have refusedValue : ofValue (.object ms) = .error (.unsupportedVersion ver) := by
          simp only [ofValue, refused]
          rfl
        rw [refusedValue]
        exact .version found wrong
  | _ => exact .notObject (by simp)

/-- Classifying a value the reader gives follows the rules exactly. -/
theorem ofValue_eq_iff {v : Value} (numbers : ∀ n, v.get? "id" = some (.number n) → n.Read)
    {r : Except DecodeError Message} : ofValue v = r ↔ Reads v r :=
  ⟨fun classified => classified ▸ reads_ofValue numbers, ofValue_of_reads numbers⟩

/-- Decoding a payload follows the JSON-RPC rules exactly. A payload that is no JSON text is
refused as invalid JSON, and a JSON value is classified as `Message.Reads` says, each check in its
turn; an error object is one that parses as the record of its code, message and data, given by
name or in order. -/
theorem decode_follows_rules (b : List UInt8) (r : Except DecodeError Message) :
    decode b = r ↔ ((∃ e, Json.read b = .error e) ∧ r = .error .invalidJson) ∨
      ∃ v, Json.read b = .ok v ∧ Reads v r := by
  cases read : Json.read b with
  | ok v =>
      have numbers : ∀ n, v.get? "id" = some (.number n) → n.Read :=
        fun n found => read_get?_number read found
      simp only [decode, read, ofValue_eq_iff numbers]
      constructor
      · intro reads
        exact .inr ⟨v, rfl, reads⟩
      · rintro (⟨⟨e, bad⟩, -⟩ | ⟨v', same, reads⟩)
        · cases bad
        · cases same
          exact reads
  | error e =>
      simp only [decode, read]
      constructor
      · intro refused
        exact .inl ⟨⟨e, rfl⟩, refused.symm⟩
      · rintro (⟨-, rfl⟩ | ⟨v, bad, -⟩)
        · rfl
        · cases bad

/-- An error given as the array `[code, message]` is an error object: the payload
`{"jsonrpc":"2.0","id":1,"error":[1,"x"]}` decodes as an error response, not as a refusal. -/
theorem decode_error_array :
    decode (Utf8.encode "\x7b\"jsonrpc\":\"2.0\",\"id\":1,\"error\":[1,\"x\"]\x7d") =
      .ok (.response (.number 1) (.error ⟨1, "x", none⟩)) := by
  have json : Json.read (Utf8.encode "\x7b\"jsonrpc\":\"2.0\",\"id\":1,\"error\":[1,\"x\"]\x7d") =
      .ok (.object [("error", .array [.number (.unsigned 1), .string "x"]),
        ("id", .number (.unsigned 1)), ("jsonrpc", .string "2.0")]) :=
    Json.read_eq_of_beq (by decide +kernel)
  simp only [decode, json]
  have version : VersionOk [("error", .array [.number (.unsigned 1), .string "x"]),
      ("id", .number (.unsigned 1)), ("jsonrpc", .string "2.0")] := fun v found => by
    simp [lookupMember] at found
    exact found.symm
  have named : IdMember [("error", .array [.number (.unsigned 1), .string "x"]),
      ("id", .number (.unsigned 1)), ("jsonrpc", .string "2.0")] (some (.number 1)) :=
    .given (show lookupMember "id" _ = some (.number (.unsigned 1)) by simp [lookupMember])
      (.number rfl (by norm_num) (by norm_num))
  have error : Outcome none (some (.array [.number (.unsigned 1), .string "x"]))
      (.ok (.error ⟨1, "x", none⟩)) :=
    .error (.inl rfl) rfl (by simp) (.pair "x" rfl (by norm_num) (by norm_num))
  have numbers : ∀ n, (Value.object [("error", .array [.number (.unsigned 1), .string "x"]),
      ("id", .number (.unsigned 1)), ("jsonrpc", .string "2.0")]).get? "id" = some (.number n) →
      n.Read := fun n found => by
    simp [Value.get?, lookupMember] at found
    subst found
    trivial
  exact ofValue_of_reads numbers
    (.response version named (by simp [lookupMember]) (by simpa [lookupMember] using error))

end Message

end Rpc

end LspBridge
