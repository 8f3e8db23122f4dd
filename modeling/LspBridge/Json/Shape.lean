import LspBridge.Json.Value
/-!
# Shapes of typed JSON

A `Shape` says which JSON values a typed record or variant accepts, and `Shape.normalize?` gives
the value that the typed value writes back: a record keeps only its declared fields, in key order,
leaves out an absent optional field, and may be given as an array of its field values in
declaration order when it has no merged-in fields; a variant of several shapes takes the first
that accepts.

The rules are those of derived record decoding:

* a field given in an object must have its shape; unknown keys are ignored;
* a field missing from an object is refused if it is `required`, becomes null if it is `optional`,
  and takes its default if it is `defaulted`;
* an array gives the fields in order and may not be longer than the field list; a field past its
  end takes its default if it has one and is refused otherwise, optional or not.
-/

namespace LspBridge

namespace Json

/-- How a record field may be absent.

`required`: the field must be given. `optional`: a missing key reads as null; an array that ends
before it is refused. `defaulted`: missing from an object or an array, the field takes this value.
-/
inductive Presence where
  | required
  | optional
  | defaulted (v : Value)

/-- The typed views of JSON values.

`any`: any value, kept as it is. `bool`: `true` or `false`. `string`: a string the predicate
accepts. `integer`: an integer from `lo` to `hi`. `double`: a double, or an integer read as one.
`option`: null, or a value of the inner shape. `list`: an array of values of one shape. `dict`: an
object whose members all have one shape. `record`: a record: its fields with their key, presence,
shape and whether a null value is left out when written; `seq` tells whether the array form is
allowed. `oneOf`: the first of several shapes that accepts the value. `literal`: a value equal to
one of the given ones, compared by their written form. -/
inductive Shape where
  | any
  | bool
  | string (valid : String → Bool)
  | integer (lo hi : Int)
  | double
  | option (inner : Shape)
  | list (item : Shape)
  | dict (item : Shape)
  | record (seq : Bool) (fields : List (String × Presence × Shape × Bool))
  | oneOf (alternatives : List Shape)
  | literal (allowed : List Value)

namespace Shape

/-- Any string. -/
def text : Shape := .string fun _ => true

/-- A signed 32-bit integer. -/
def i32 : Shape := .integer (-Int.pow 2 31) (Int.pow 2 31 - 1)

/-- An unsigned 32-bit integer. -/
def u32 : Shape := .integer 0 (Int.pow 2 32 - 1)

/-- A signed 64-bit integer. -/
def i64 : Shape := .integer (-Int.pow 2 63) (Int.pow 2 63 - 1)

/-- An unsigned 64-bit integer. -/
def u64 : Shape := .integer 0 (Int.pow 2 64 - 1)

/-- One of the given strings. -/
def names (ns : List String) : Shape := .string fun s => ns.contains s

/-- A required field. -/
def req (k : String) (s : Shape) : String × Presence × Shape × Bool := (k, .required, s, false)

/-- An optional field, left out when absent. -/
def opt (k : String) (s : Shape) : String × Presence × Shape × Bool :=
  (k, .optional, .option s, true)

/-- An optional field with a default of null, left out when absent. -/
def optD (k : String) (s : Shape) : String × Presence × Shape × Bool :=
  (k, .defaulted .null, .option s, true)

/-- A field with a default value, always written. -/
def dflt (k : String) (d : Value) (s : Shape) : String × Presence × Shape × Bool :=
  (k, .defaulted d, s, false)

/-- A record that allows the array form. -/
def recordOf (fields : List (String × Presence × Shape × Bool)) : Shape := .record true fields

/-- A record with merged-in fields, which allows only the object form. -/
def flat (fields : List (String × Presence × Shape × Bool)) : Shape := .record false fields

end Shape

mutual

/-- Whether two values are equal, numbers by kind and value. -/
def Value.beq : Value → Value → Bool
  | .null, .null => true
  | .bool a, .bool b => a == b
  | .number a, .number b => decide (a = b)
  | .string a, .string b => a == b
  | .array xs, .array ys => Value.beqItems xs ys
  | .object xs, .object ys => Value.beqMembers xs ys
  | _, _ => false

/-- Item lists of equal length and equal items. -/
def Value.beqItems : List Value → List Value → Bool
  | [], [] => true
  | x :: xs, y :: ys => Value.beq x y && Value.beqItems xs ys
  | _, _ => false

/-- Member lists of equal keys and values, in the same order. -/
def Value.beqMembers : List (String × Value) → List (String × Value) → Bool
  | [], [] => true
  | (k, x) :: xs, (l, y) :: ys => k == l && Value.beq x y && Value.beqMembers xs ys
  | _, _ => false

end

instance : BEq Value := ⟨Value.beq⟩

/-- The fields of a record read from an object: each field's value, or what its presence gives
when the key is missing; `none` when a required field is missing. -/
def objectFields (members : List (String × Value)) :
    List (String × Presence × Shape × Bool) → Option (List (Option Value))
  | [] => some []
  | (k, presence, _, _) :: rest => do
    let v ← match lookupMember k members, presence with
      | some v, _ => some (some v)
      | none, .required => none
      | none, .optional => some none
      | none, .defaulted d => some (some d)
    let vs ← objectFields members rest
    some (v :: vs)

/-- The fields of a record read from an array, in order; `none` when the array is longer than the
field list or ends before a field without a default. A defaulted field past the end takes its
default without being checked. -/
def arrayFields (items : List Value) :
    List (String × Presence × Shape × Bool) → Option (List (Option Value × Bool))
  | [] => if items.isEmpty then some [] else none
  | (_, presence, _, _) :: rest =>
    match items, presence with
    | v :: more, _ => (arrayFields more rest).map ((some v, true) :: ·)
    | [], .defaulted d => (arrayFields [] rest).map ((some d, false) :: ·)
    | [], _ => none

namespace Shape

mutual

/-- The value a typed reading of `v` by this shape writes back, or `none` if the shape refuses
`v`. -/
def normalize? : Shape → Value → Option Value
  | .any, v => some v
  | .bool, v => match v with
    | .bool b => some (.bool b)
    | _ => none
  | .string valid, v => match v with
    | .string s => if valid s then some (.string s) else none
    | _ => none
  | .integer lo hi, v => match v.asInt? with
    | some n => if lo ≤ n ∧ n ≤ hi then some v else none
    | none => none
  | .double, v => match v with
    | .number _ => some v
    | _ => none
  | .option inner, v => if v.isNull then some .null else normalize? inner v
  | .list item, v => match v with
    | .array xs => (normalizeItems item xs).map .array
    | _ => none
  | .dict item, v => match v with
    | .object ms => (normalizeDict item ms).map .object
    | _ => none
  | .record seq fields, v => match v with
    | .object ms => (objectFields ms fields).bind fun vs =>
        normalizeFields fields (vs.map fun x => (x, true))
    | .array xs => if seq then (arrayFields xs fields).bind (normalizeFields fields) else none
    | _ => none
  | .oneOf alternatives, v => normalizeFirst alternatives v
  | .literal allowed, v => if allowed.any (· == v) then some v else none

/-- Normalizes every item by one shape. -/
def normalizeItems (item : Shape) : List Value → Option (List Value)
  | [] => some []
  | x :: xs => do
    let y ← normalize? item x
    let ys ← normalizeItems item xs
    some (y :: ys)

/-- Normalizes every member value by one shape. -/
def normalizeDict (item : Shape) : List (String × Value) → Option (List (String × Value))
  | [] => some []
  | (k, x) :: xs => do
    let y ← normalize? item x
    let ys ← normalizeDict item xs
    some ((k, y) :: ys)

/-- Normalizes record fields given as values (or absent), each flagged with whether it is to be
checked, and writes the record; a null field marked to be left out is left out. -/
def normalizeFields :
    List (String × Presence × Shape × Bool) → List (Option Value × Bool) → Option Value
  | (k, _, s, omitNull) :: rest, (v, check) :: vs => do
    let y ← match v with
      | some x => if check then normalize? s x else some x
      | none => some .null
    let tail ← normalizeFields rest vs
    if omitNull && y.isNull then some tail else some (tail.insert k y)
  | _, _ => some (.object [])

/-- The first alternative that accepts the value. -/
def normalizeFirst : List Shape → Value → Option Value
  | [], _ => none
  | s :: rest, v => match normalize? s v with
    | some y => some y
    | none => normalizeFirst rest v

end

/-- Whether the shape accepts the value. -/
def accepts (s : Shape) (v : Value) : Bool := (s.normalize? v).isSome

/-- What serde's error says of a value that a shape refuses, as far as the model follows it: a
record read from an object names its first missing required field, a value of another kind is named
by what it is, and a refusal further in is an invalid value. -/
def refusal (s : Shape) (v : Value) : String :=
  match s, v with
  | .record _ fields, .object members =>
    match fields.find? fun (k, presence, _, _) =>
        presence matches .required && (lookupMember k members).isNone with
    | some (k, _) => "missing field " ++ k
    | none => "invalid value"
  | _, .null => "invalid type: null"
  | _, .bool _ => "invalid type: boolean"
  | _, .number _ => "invalid type: number"
  | _, .string _ => "invalid type: string"
  | _, .array _ => "invalid type: sequence"
  | _, .object _ => "invalid type: map"

end Shape

end Json

end LspBridge
