import LspBridge.Json.Shape
import Mathlib
/-!
# Equality, members and records of JSON values

Three facts about JSON values that the message layer relies on. `Value.beq` is sound: two values
it calls equal are equal, so a comparison that runs can stand for an equation. Inserting a member
into an object replaces exactly that key and leaves every other lookup as it was. And a record
shape writes back a record built field by field from the given members, in which every required
field was given and checked against its shape, and a field marked to leave out null values never
holds null.
-/

namespace LspBridge

namespace Json

mutual

/-- Values that `Value.beq` calls equal are equal. -/
theorem Value.eq_of_beq : ∀ {v w : Value}, Value.beq v w = true → v = w
  | .null, .null, _ => rfl
  | .bool a, .bool b, same => by simp_all [Value.beq]
  | .number a, .number b, same => by simp_all [Value.beq]
  | .string a, .string b, same => by simp_all [Value.beq]
  | .array xs, .array ys, same => by
      simp only [Value.beq] at same
      rw [Value.eq_of_beqItems same]
  | .object xs, .object ys, same => by
      simp only [Value.beq] at same
      rw [Value.eq_of_beqMembers same]
  -- values of different kinds are never called equal
  | .null, .bool _, same | .null, .number _, same | .null, .string _, same
  | .null, .array _, same | .null, .object _, same => by simp [Value.beq] at same
  | .bool _, .null, same | .bool _, .number _, same | .bool _, .string _, same
  | .bool _, .array _, same | .bool _, .object _, same => by simp [Value.beq] at same
  | .number _, .null, same | .number _, .bool _, same | .number _, .string _, same
  | .number _, .array _, same | .number _, .object _, same => by simp [Value.beq] at same
  | .string _, .null, same | .string _, .bool _, same | .string _, .number _, same
  | .string _, .array _, same | .string _, .object _, same => by simp [Value.beq] at same
  | .array _, .null, same | .array _, .bool _, same | .array _, .number _, same
  | .array _, .string _, same | .array _, .object _, same => by simp [Value.beq] at same
  | .object _, .null, same | .object _, .bool _, same | .object _, .number _, same
  | .object _, .string _, same | .object _, .array _, same => by simp [Value.beq] at same

theorem Value.eq_of_beqItems : ∀ {xs ys : List Value}, Value.beqItems xs ys = true → xs = ys
  | [], [], _ => rfl
  | x :: xs, y :: ys, same => by
      simp only [Value.beqItems, Bool.and_eq_true] at same
      rw [Value.eq_of_beq same.1, Value.eq_of_beqItems same.2]
  | [], _ :: _, same | _ :: _, [], same => by simp [Value.beqItems] at same

theorem Value.eq_of_beqMembers :
    ∀ {xs ys : List (String × Value)}, Value.beqMembers xs ys = true → xs = ys
  | [], [], _ => rfl
  | (k, x) :: xs, (l, y) :: ys, same => by
      simp only [Value.beqMembers, Bool.and_eq_true, beq_iff_eq] at same
      rw [same.1.1, Value.eq_of_beq same.1.2, Value.eq_of_beqMembers same.2]
  | [], _ :: _, same | _ :: _, [], same => by simp [Value.beqMembers] at same

end

/-- Inserting a member changes the lookup of its key only. -/
theorem lookupMember_insertMember (k key : String) (y : Value) (ms : List (String × Value)) :
    lookupMember k (insertMember key y ms) = if k = key then some y else lookupMember k ms := by
  induction ms with
  | nil => simp [insertMember, lookupMember]
  | cons member rest ih =>
      obtain ⟨other, x⟩ := member
      by_cases before : key < other
      · simp [insertMember, before, lookupMember]
      · by_cases replaced : key = other
        · subst replaced
          by_cases found : k = key <;> simp [insertMember, lookupMember, found]
        · by_cases found : k = other
          · subst found
            simp [insertMember, before, replaced, lookupMember, Ne.symm replaced]
          · simp [insertMember, before, replaced, lookupMember, found, ih]

namespace Value

theorem get?_insert {v : Value} (object : ∃ ms, v = .object ms) (k key : String) (y : Value) :
    (v.insert key y).get? k = if k = key then some y else v.get? k := by
  obtain ⟨ms, rfl⟩ := object
  simp [insert, get?, lookupMember_insertMember]

end Value

namespace Shape

/-- The value a record field is written with: its given value, checked against the field's shape
when marked so, or null when it is absent. -/
def fieldValue (s : Shape) : Option Value × Bool → Option Value
  | (some x, true) => normalize? s x
  | (some x, false) => some x
  | (none, _) => some .null

theorem normalizeFields_cons_eq (k : String) (p : Presence) (s : Shape) (leaveNull : Bool)
    (rest : List (String × Presence × Shape × Bool)) (w : Option Value × Bool)
    (ws : List (Option Value × Bool)) :
    normalizeFields ((k, p, s, leaveNull) :: rest) (w :: ws) =
      (fieldValue s w).bind fun y => (normalizeFields rest ws).bind fun tail =>
        if leaveNull && y.isNull then some tail else some (tail.insert k y) := by
  obtain ⟨v, check⟩ := w
  cases v with
  | some x => cases check <;> simp [normalizeFields, fieldValue]
  | none => simp [normalizeFields, fieldValue]

/-- Writing a record's fields: the first field is written over the record of the others, and
left out when it is null and marked so. -/
theorem normalizeFields_cons {k : String} {p : Presence} {s : Shape} {leaveNull : Bool}
    {rest : List (String × Presence × Shape × Bool)} {w : Option Value × Bool}
    {ws : List (Option Value × Bool)} {n : Value}
    (written : normalizeFields ((k, p, s, leaveNull) :: rest) (w :: ws) = some n) :
    ∃ y tail, fieldValue s w = some y ∧ normalizeFields rest ws = some tail ∧
      n = if leaveNull && y.isNull then tail else tail.insert k y := by
  rw [normalizeFields_cons_eq, Option.bind_eq_some_iff] at written
  obtain ⟨y, given, written⟩ := written
  rw [Option.bind_eq_some_iff] at written
  obtain ⟨tail, others, result⟩ := written
  refine ⟨y, tail, given, others, ?_⟩
  split at result <;> simp_all

/-- The fields read from an object give a value for every required field. -/
theorem objectFields_required {members : List (String × Value)}
    {fields : List (String × Presence × Shape × Bool)} {vs : List (Option Value)}
    (read : objectFields members fields = some vs) :
    List.Forall₂ (fun f v => f.2.1 = .required → ∃ x, v = some x) fields vs := by
  induction fields generalizing vs with
  | nil =>
      simp only [objectFields, Option.some.injEq] at read
      subst read
      exact .nil
  | cons field rest ih =>
      obtain ⟨k, presence, s, leaveNull⟩ := field
      -- the field's own value comes first, then those of the others
      have first : ∃ v others, objectFields members rest = some others ∧ vs = v :: others ∧
          (presence = .required → ∃ x, v = some x) := by
        cases found : lookupMember k members with
        | some x =>
            simp only [objectFields, found, Option.bind_eq_bind, Option.bind_some,
              Option.bind_eq_some_iff, Option.some.injEq] at read
            obtain ⟨others, readOthers, rfl⟩ := read
            exact ⟨some x, others, readOthers, rfl, fun _ => ⟨x, rfl⟩⟩
        | none =>
            cases presence with
            | required => simp [objectFields, found] at read
            | optional =>
                simp only [objectFields, found, Option.bind_eq_bind, Option.bind_some,
                  Option.bind_eq_some_iff, Option.some.injEq] at read
                obtain ⟨others, readOthers, rfl⟩ := read
                exact ⟨none, others, readOthers, rfl, fun required => by cases required⟩
            | defaulted d =>
                simp only [objectFields, found, Option.bind_eq_bind, Option.bind_some,
                  Option.bind_eq_some_iff, Option.some.injEq] at read
                obtain ⟨others, readOthers, rfl⟩ := read
                exact ⟨some d, others, readOthers, rfl, fun required => by cases required⟩
      obtain ⟨v, others, readOthers, rfl, given⟩ := first
      exact .cons given (ih readOthers)

/-- The fields read from an array give a given, checked value for every required field. -/
theorem arrayFields_required {items : List Value}
    {fields : List (String × Presence × Shape × Bool)} {ws : List (Option Value × Bool)}
    (read : arrayFields items fields = some ws) :
    List.Forall₂ (fun f w => f.2.1 = .required → ∃ x, w = (some x, true)) fields ws := by
  induction fields generalizing items ws with
  | nil =>
      cases items <;> simp [arrayFields] at read
      subst read
      exact .nil
  | cons field rest ih =>
      obtain ⟨k, presence, s, leaveNull⟩ := field
      cases items with
      | cons v more =>
          simp only [arrayFields, Option.map_eq_some_iff] at read
          obtain ⟨others, readOthers, given⟩ := read
          subst given
          exact .cons (fun _ => ⟨v, rfl⟩) (ih readOthers)
      | nil =>
          -- past the end of the array only a defaulted field is given, unchecked
          cases presence with
          | defaulted d =>
              simp only [arrayFields, Option.map_eq_some_iff] at read
              obtain ⟨others, readOthers, given⟩ := read
              subst given
              exact .cons (fun required => by cases required) (ih readOthers)
          | required => simp [arrayFields] at read
          | optional => simp [arrayFields] at read

/-- A record is written from a value for each of its fields, every required one given and
checked. -/
theorem normalize?_record {seq : Bool} {fields : List (String × Presence × Shape × Bool)}
    {v n : Value} (written : normalize? (.record seq fields) v = some n) :
    ∃ ws, normalizeFields fields ws = some n ∧
      List.Forall₂ (fun f w => f.2.1 = .required → ∃ x, w = (some x, true)) fields ws := by
  cases v with
  | object ms =>
      simp only [normalize?, Option.bind_eq_some_iff] at written
      obtain ⟨vs, read, result⟩ := written
      refine ⟨vs.map (·, true), result, ?_⟩
      apply List.forall₂_map_right_iff.mpr
      apply (objectFields_required read).imp
      intro field v given required
      obtain ⟨x, rfl⟩ := given required
      exact ⟨x, rfl⟩
  | array xs =>
      cases seq with
      | false => simp [normalize?] at written
      | true =>
          simp only [normalize?, if_true, Option.bind_eq_some_iff] at written
          obtain ⟨ws, read, result⟩ := written
          exact ⟨ws, result, arrayFields_required read⟩
  | null => simp [normalize?] at written
  | bool => simp [normalize?] at written
  | number => simp [normalize?] at written
  | string => simp [normalize?] at written

end Shape

end Json

end LspBridge
