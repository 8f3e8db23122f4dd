import LspBridge.Rpc.Message
import LspBridge.Proofs.JsonReader
import LspBridge.Proofs.JsonValues
/-!
# Messages read back as they were written

A message is written as its wire object and read back by classifying the object's members. This
file shows that reading gives back every message that the wire form can hold, up to one loss:
an error whose `data` is null reads back without data, since the reader takes a null `data`
member as no data (`Message.norm`). The wire form holds 64-bit signed ids and 32-bit signed error
codes (`Message.Fits`); the JSON text itself is assumed to be read back as it was printed.

Going the other way, a message that was read from a payload is already normal, so writing and
reading it again gives it back unchanged.
-/

namespace LspBridge

namespace Json

namespace Value

@[simp]
theorem isNull_null : Value.null.isNull = true :=
  rfl

theorem eq_null_of_isNull {v : Value} (nul : v.isNull = true) : v = .null := by
  cases v <;> simp_all [isNull]

@[simp]
theorem asInt?_int (n : Int) : (Value.int n).asInt? = some n := by
  by_cases sign : 0 ≤ n
  · simp [Value.int, sign, asInt?]
  · simp [Value.int, sign, asInt?]

end Value

end Json

/-- A read that a run compares equal to a value gives that value. -/
theorem Json.read_eq_of_beq {b : List UInt8} {w : Json.Value}
    (same : (match Json.read b with
      | .ok v => Json.Value.beq v w
      | .error _ => false) = true) :
    Json.read b = .ok w := by
  cases read : Json.read b with
  | ok v =>
      rw [read] at same
      rw [Json.Value.eq_of_beq same]
  | error e =>
      rw [read] at same
      cases same

namespace Rpc

open Json

/-- An id that the wire form holds: a signed 64-bit integer, or any string. -/
def RequestId.Fits : RequestId → Prop
  | .number n => -2 ^ 63 ≤ n ∧ n < 2 ^ 63
  | .text _ => True

instance : DecidablePred RequestId.Fits := fun
  | .number _ => inferInstanceAs (Decidable (_ ∧ _))
  | .text _ => inferInstanceAs (Decidable True)

/-- An error whose code is a signed 32-bit integer. -/
def ResponseError.Fits (e : ResponseError) : Prop :=
  -2 ^ 31 ≤ e.code ∧ e.code < 2 ^ 31

instance : DecidablePred ResponseError.Fits := fun _ => inferInstanceAs (Decidable (_ ∧ _))

/-- A message whose ids and error codes fit the integers of the wire form. -/
def Message.Fits : Message → Prop
  | .request id _ _ => id.Fits
  | .notification _ _ => True
  | .response id (.ok _) => id.Fits
  | .response id (.error e) => id.Fits ∧ e.Fits

instance : DecidablePred Message.Fits := fun
  | .request id _ _ => inferInstanceAs (Decidable id.Fits)
  | .notification _ _ => inferInstanceAs (Decidable True)
  | .response id (.ok _) => inferInstanceAs (Decidable id.Fits)
  | .response id (.error e) => inferInstanceAs (Decidable (id.Fits ∧ e.Fits))

/-- An error as it reads back: null data is no data. -/
def ResponseError.norm (e : ResponseError) : ResponseError :=
  { e with data := e.data.filter (!·.isNull) }

/-- A message as it reads back: an error's null data is no data, and all else is kept. -/
def Message.norm : Message → Message
  | .response id (.error e) => .response id (.error e.norm)
  | m => m

namespace RequestId

theorem ofValue?_toValue {id : RequestId} (fits : id.Fits) : ofValue? id.toValue = some id := by
  cases id with
  | number n =>
      simp only [Fits] at fits
      by_cases sign : 0 ≤ n
      · have small : n.toNat < 2 ^ 63 := by omega
        simp [toValue, Value.int, sign, ofValue?]
        omega
      · simp [toValue, Value.int, sign, ofValue?]
  | text s => rfl

/-- An id read from a value whose signed numbers are ones the reader gives fits 64 bits. -/
theorem fits_of_ofValue? {raw : Value} {id : RequestId} (read : ofValue? raw = some id)
    (numbers : ∀ n, raw = .number n → n.Read) : id.Fits := by
  cases raw with
  | number n =>
      cases n with
      | unsigned n =>
          simp only [ofValue?, Nat.pow_eq] at read
          split at read
          · simp only [Option.some.injEq] at read
            subst read
            simp only [Fits]
            omega
          · cases read
      | signed n =>
          simp only [ofValue?, Option.some.injEq] at read
          subst read
          have negative := numbers (.signed n) rfl
          simp only [Number.Read] at negative
          simp only [Fits]
          omega
      | double => simp [ofValue?] at read
  | string s =>
      simp only [ofValue?, Option.some.injEq] at read
      subst read
      trivial
  | null | bool | array | object => simp [ofValue?] at read

end RequestId

namespace ResponseError

/-- An error is written as an object, never as null. -/
theorem isNull_toValue (e : ResponseError) : e.toValue.isNull = false := by
  cases data : e.data <;>
    simp [toValue, data, Value.obj, insertMember, -String.lt_iff_ltb, Value.insert, Value.isNull]

/-- An error object is read back as written, but for null data, which reads as none. -/
theorem ofValue?_toValue {e : ResponseError} (fits : e.Fits) :
    ofValue? e.toValue = some e.norm := by
  obtain ⟨code, message, data⟩ := e
  have range : -2147483648 ≤ code ∧ code ≤ 2147483647 := by
    simp only [Fits] at fits
    omega
  -- the reader's record shape, decoded member by member
  cases data with
  | none =>
      simp [toValue, ofValue?, shape, Shape.normalize?, Value.obj, insertMember,
        -String.lt_iff_ltb, objectFields, lookupMember, Shape.recordOf, Shape.req, Shape.optD,
        Shape.i32, Shape.text, Shape.normalizeFields, range, Value.insert, Value.field, Value.get?,
        Value.asString?, norm]
  | some d =>
      cases nul : d.isNull
      · simp [toValue, ofValue?, shape, Shape.normalize?, Value.obj, insertMember,
          -String.lt_iff_ltb, objectFields, lookupMember, Shape.recordOf, Shape.req, Shape.optD,
          Shape.i32, Shape.text, Shape.normalizeFields, range, Value.insert, Value.field,
          Value.get?, Value.asString?, nul, norm, Option.filter_some]
      · rw [Value.eq_null_of_isNull nul]
        simp [toValue, ofValue?, shape, Shape.normalize?, Value.obj, insertMember,
          -String.lt_iff_ltb, objectFields, lookupMember, Shape.recordOf, Shape.req, Shape.optD,
          Shape.i32, Shape.text, Shape.normalizeFields, range, Value.insert, Value.field,
          Value.get?, Value.asString?, norm, Option.filter_some]

/-- An error object that reads at all reads with a 32-bit code and without null data. -/
theorem fits_norm_of_ofValue? {v : Value} {e : ResponseError} (read : ofValue? v = some e) :
    e.Fits ∧ e.norm = e := by
  simp only [ofValue?, Option.bind_eq_bind, Option.bind_eq_some_iff, Option.some.injEq] at read
  obtain ⟨n, normalized, code, codeRead, message, _, rfl⟩ := read
  simp only [shape, Shape.recordOf, Shape.req, Shape.optD] at normalized
  obtain ⟨ws, written, required⟩ := Shape.normalize?_record normalized
  -- the code, the message and the data, each written over the record of those after it
  cases required with
  | cons codeGiven required =>
  cases required with
  | cons _ required =>
  cases required with
  | cons _ required =>
  cases required
  obtain ⟨x, rfl⟩ := codeGiven rfl
  obtain ⟨y, _, codeChecked, writtenMessage, rfl⟩ := Shape.normalizeFields_cons written
  obtain ⟨_, _, _, writtenData, rfl⟩ := Shape.normalizeFields_cons writtenMessage
  obtain ⟨z, _, _, writtenEnd, rfl⟩ := Shape.normalizeFields_cons writtenData
  simp only [Shape.normalizeFields, Option.some.injEq] at writtenEnd
  subst writtenEnd
  -- the code was checked to be a 32-bit integer
  have range : -2 ^ 31 ≤ code ∧ code < 2 ^ 31 := by
    simp only [Shape.fieldValue, Shape.i32, Shape.normalize?, Int.pow_eq] at codeChecked
    split at codeChecked
    · rename_i c found
      split at codeChecked
      · rename_i within
        simp only [Option.some.injEq] at codeChecked
        subst codeChecked
        cases nul : z.isNull <;>
          simp [nul, Value.insert, insertMember, -String.lt_iff_ltb, Value.field, Value.get?,
            lookupMember, found]
            at codeRead <;> omega
      · cases codeChecked
    · cases codeChecked
  refine ⟨range, ?_⟩
  -- the data member is left out exactly when it is null
  cases nul : z.isNull <;>
    simp [norm, nul, Value.insert, insertMember, -String.lt_iff_ltb, Value.get?, lookupMember,
      Option.filter_some]

end ResponseError

namespace Message

theorem idOf_of_get? {v : Value} {id : RequestId} (fits : id.Fits)
    (found : v.get? "id" = some id.toValue) : idOf v = .ok (some id) := by
  have readId := RequestId.ofValue?_toValue fits
  -- an id is written as a number or a string, never as null
  cases id with
  | number n =>
      by_cases sign : 0 ≤ n
      · simp only [RequestId.toValue, Value.int, sign, if_true] at found readId
        simp [idOf, found, readId]
        rfl
      · simp only [RequestId.toValue, Value.int, sign, if_false] at found readId
        simp [idOf, found, readId]
        rfl
  | text s =>
      simp only [RequestId.toValue] at found readId
      simp [idOf, found, readId]
      rfl

/-- An object that declares version `"2.0"` is classified by its id and its other members. -/
theorem ofValue_of_version {ms : List (String × Value)}
    (version : lookupMember "jsonrpc" ms = some (.string "2.0")) :
    ofValue (.object ms) = idOf (.object ms) >>= classify (.object ms) := by
  simp [ofValue, checkVersion, Value.get?, version, Value.asString?]

/-- An object with no id member has no id. -/
theorem idOf_of_none {v : Value} (missing : v.get? "id" = none) : idOf v = .ok none := by
  simp [idOf, missing]
  rfl

/-- A message object is classified as the message it was written from, up to null error data. -/
theorem ofValue_toValue {m : Message} (fits : m.Fits) : ofValue m.toValue = .ok m.norm := by
  cases m with
  | request id method params =>
      cases nul : params.isNull
      · have written : (request id method params).toValue = .object [("id", id.toValue),
            ("jsonrpc", .string "2.0"), ("method", .string method), ("params", params)] := by
          simp [toValue, nul, Value.obj, insertMember, -String.lt_iff_ltb, Value.insert]
        rw [written, ofValue_of_version (by simp [lookupMember]),
          idOf_of_get? fits (by simp [Value.get?, lookupMember])]
        simp [bind, Except.bind, classify, Value.get?, lookupMember, Value.field, norm]
        rfl
      · have written : (request id method params).toValue = .object [("id", id.toValue),
            ("jsonrpc", .string "2.0"), ("method", .string method)] := by
          simp [toValue, nul, Value.obj, insertMember, -String.lt_iff_ltb]
        rw [written, ofValue_of_version (by simp [lookupMember]),
          idOf_of_get? fits (by simp [Value.get?, lookupMember]), Value.eq_null_of_isNull nul]
        simp [bind, Except.bind, classify, Value.get?, lookupMember, Value.field, norm]
        rfl
  | notification method params =>
      cases nul : params.isNull
      · have written : (notification method params).toValue = .object [
            ("jsonrpc", .string "2.0"), ("method", .string method), ("params", params)] := by
          simp [toValue, nul, Value.obj, insertMember, -String.lt_iff_ltb, Value.insert]
        rw [written, ofValue_of_version (by simp [lookupMember]),
          idOf_of_none (by simp [Value.get?, lookupMember])]
        simp [bind, Except.bind, classify, Value.get?, lookupMember, Value.field, norm]
        rfl
      · have written : (notification method params).toValue = .object [
            ("jsonrpc", .string "2.0"), ("method", .string method)] := by
          simp [toValue, nul, Value.obj, insertMember, -String.lt_iff_ltb]
        rw [written, ofValue_of_version (by simp [lookupMember]),
          idOf_of_none (by simp [Value.get?, lookupMember]), Value.eq_null_of_isNull nul]
        simp [bind, Except.bind, classify, Value.get?, lookupMember, Value.field, norm]
        rfl
  | response id outcome =>
      cases outcome with
      | ok result =>
          have written : (response id (.ok result)).toValue = .object [("id", id.toValue),
              ("jsonrpc", .string "2.0"), ("result", result)] := by
            simp [toValue, Value.obj, insertMember, -String.lt_iff_ltb]
          rw [written, ofValue_of_version (by simp [lookupMember]),
            idOf_of_get? fits (by simp [Value.get?, lookupMember])]
          simp [bind, Except.bind, classify, Value.get?, lookupMember, outcomeOf, norm]
          rfl
      | error e =>
          obtain ⟨idFits, errorFits⟩ := fits
          have written : (response id (.error e)).toValue = .object [("error", e.toValue),
              ("id", id.toValue), ("jsonrpc", .string "2.0")] := by
            simp [toValue, Value.obj, insertMember, -String.lt_iff_ltb]
          rw [written, ofValue_of_version (by simp [lookupMember]),
            idOf_of_get? idFits (by simp [Value.get?, lookupMember])]
          simp [bind, Except.bind, classify, Value.get?, lookupMember, outcomeOf, norm,
            Option.filter_some, ResponseError.isNull_toValue,
            ResponseError.ofValue?_toValue errorFits]
          rfl

/-- An error outcome read from a response fits and has no null data. -/
theorem fits_norm_of_outcomeOf {result error : Option Value} {e : ResponseError}
    (read : outcomeOf result error = .ok (.error e)) : e.Fits ∧ e.norm = e := by
  simp only [outcomeOf] at read
  split at read
  · split at read
    · rename_i errorRead
      simp only [Except.ok.injEq, Except.error.injEq] at read
      subst read
      exact ResponseError.fits_norm_of_ofValue? errorRead
    · cases read
  · split at read
    · rename_i errorRead
      simp only [Except.ok.injEq, Except.error.injEq] at read
      subst read
      exact ResponseError.fits_norm_of_ofValue? errorRead
    · cases read
  · cases read
  · cases read
  · cases read

/-- A message read from an object comes from the object's id and the rest of its members. -/
theorem ofValue_eq_ok {v : Value} {m : Message} (read : ofValue v = .ok m) :
    ∃ id, idOf v = .ok id ∧ classify v id = .ok m := by
  cases v with
  | object ms =>
      simp only [ofValue, bind, Except.bind] at read
      split at read
      · cases read
      · split at read
        · cases read
        · exact ⟨_, by assumption, read⟩
  | null | bool | number | string | array => cases read

/-- A message classified from an object with a fitting id fits and is normal. -/
theorem fits_norm_of_classify {v : Value} {id : Option RequestId} {m : Message}
    (read : classify v id = .ok m) (idFits : ∀ i, id = some i → i.Fits) :
    m.Fits ∧ m.norm = m := by
  unfold classify at read
  split at read
  · -- a request or a notification
    cases id with
    | some i =>
        simp only [pure, Except.pure, Except.ok.injEq] at read
        subst read
        exact ⟨idFits i rfl, rfl⟩
    | none =>
        simp only [pure, Except.pure, Except.ok.injEq] at read
        subst read
        exact ⟨trivial, rfl⟩
  · cases read
  · -- a response, from its outcome
    simp only [bind, Except.bind] at read
    split at read
    · cases read
    · rename_i outcome outcomeRead
      cases id with
      | some i =>
          simp only [pure, Except.pure, Except.ok.injEq] at read
          subst read
          cases outcome with
          | ok result => exact ⟨idFits i rfl, rfl⟩
          | error e =>
              obtain ⟨errorFits, normal⟩ := fits_norm_of_outcomeOf outcomeRead
              exact ⟨⟨idFits i rfl, errorFits⟩, by simp [norm, normal]⟩
      | none => cases outcome <;> cases read

/-- A message decoded from any payload fits the wire form and is normal. -/
theorem fits_norm_of_decode {b : List UInt8} {m : Message} (read : decode b = .ok m) :
    m.Fits ∧ m.norm = m := by
  unfold decode at read
  split at read
  · rename_i v jsonRead
    obtain ⟨id, idRead, classified⟩ := ofValue_eq_ok read
    apply fits_norm_of_classify classified
    intro i found
    subst found
    unfold idOf at idRead
    split at idRead
    · cases idRead
    · cases idRead
    · rename_i raw _ rawFound
      split at idRead
      · rename_i j idFound
        simp only [pure, Except.pure, Except.ok.injEq, Option.some.injEq] at idRead
        subst idRead
        exact RequestId.fits_of_ofValue? idFound fun n number =>
          read_get?_number jsonRead (by rw [rawFound, number])
      · cases idRead
  · cases read

/-- Writing a message and reading it back gives the message, up to null error data, when the
message fits the wire form; a message read from any payload is written and read back unchanged.
Both take the JSON text of the message's wire object to be read back as it was printed. -/
theorem decode_encode_message (m : Message) (json : Json.read m.encode = .ok m.toValue) :
    (m.Fits → decode m.encode = .ok m.norm) ∧
    ∀ b, decode b = .ok m →
      decode m.encode = .ok m ∧ (decode m.encode).map encode = .ok m.encode := by
  have roundTrip : m.Fits → decode m.encode = .ok m.norm := by
    intro fits
    simp only [decode, json]
    exact ofValue_toValue fits
  refine ⟨roundTrip, ?_⟩
  intro b read
  obtain ⟨fits, normal⟩ := fits_norm_of_decode read
  have again : decode m.encode = .ok m := by
    rw [roundTrip fits, normal]
  refine ⟨again, ?_⟩
  rw [again]
  rfl

/-- An error response with null data, which reads back without its data. -/
theorem decode_encode_message_null_data :
    Json.read (response (.text "r") (.error ⟨-32601, "gone", some .null⟩)).encode =
      .ok (response (.text "r") (.error ⟨-32601, "gone", some .null⟩)).toValue ∧
    ((response (.text "r") (.error ⟨-32601, "gone", some .null⟩)).Fits →
      decode (response (.text "r") (.error ⟨-32601, "gone", some .null⟩)).encode =
        .ok (response (.text "r") (.error ⟨-32601, "gone", some .null⟩)).norm) ∧
    ∀ b, decode b = .ok (response (.text "r") (.error ⟨-32601, "gone", some .null⟩)) →
      decode (response (.text "r") (.error ⟨-32601, "gone", some .null⟩)).encode =
        .ok (response (.text "r") (.error ⟨-32601, "gone", some .null⟩)) ∧
      (decode (response (.text "r") (.error ⟨-32601, "gone", some .null⟩)).encode).map encode =
        .ok (response (.text "r") (.error ⟨-32601, "gone", some .null⟩)).encode :=
  have json := Json.read_eq_of_beq (by decide +kernel)
  ⟨json, decode_encode_message _ json⟩

end Message

end Rpc

end LspBridge
