import LspBridge.Binary64.Basic
/-!
# JSON values

A JSON value as the message layer holds it. Numbers keep their kind: an integer stays exact while
it fits 64 bits, as an unsigned or a negative one, and every other number is the nearest double.
An object keeps its members sorted by key, in code point order, one member per key: inserting a
key that is already there replaces its value.
-/

namespace LspBridge

namespace Json

/-- A JSON number, by the kind the reader gives it.

`unsigned`: a non-negative integer below `2 ^ 64`. `signed`: a negative integer of at least `-2 ^
63`. `double`: any other number, as a double. -/
inductive Number where
  | unsigned (n : Nat)
  | signed (n : Int)
  | double (x : Binary64)
  deriving DecidableEq, Repr

/-- A JSON value. An object's members are sorted by key, without repeats. -/
inductive Value where
  | null
  | bool (b : Bool)
  | number (n : Number)
  | string (s : String)
  | array (items : List Value)
  | object (members : List (String × Value))
  deriving Repr, Inhabited

/-- Inserts a member into a sorted member list, replacing the value of an equal key. -/
def insertMember (k : String) (v : Value) : List (String × Value) → List (String × Value)
  | [] => [(k, v)]
  | (k', v') :: rest =>
    if k < k' then (k, v) :: (k', v') :: rest
    else if k = k' then (k, v) :: rest
    else (k', v') :: insertMember k v rest

/-- The value of a key in a member list. -/
def lookupMember (k : String) : List (String × Value) → Option Value
  | [] => none
  | (k', v) :: rest => if k = k' then some v else lookupMember k rest

/-- Removes a key from a member list. -/
def eraseMember (k : String) : List (String × Value) → List (String × Value)
  | [] => []
  | (k', v) :: rest => if k = k' then rest else (k', v) :: eraseMember k rest

namespace Value

/-- An object of the given members; a later member replaces an earlier one of the same key. -/
def obj (members : List (String × Value)) : Value :=
  .object (members.foldl (fun acc (k, v) => insertMember k v acc) [])

/-- A string value. -/
def str (s : String) : Value := .string s

/-- An integer, of the unsigned kind when it is not negative. -/
def int (n : Int) : Value :=
  if 0 ≤ n then .number (.unsigned n.toNat) else .number (.signed n)

/-- A natural number. -/
def nat (n : Nat) : Value := .number (.unsigned n)

/-- A string array. -/
def strs (xs : List String) : Value := .array (xs.map .string)

/-- `some v` as `v` and `none` as null. -/
def ofOption : Option Value → Value
  | some v => v
  | none => .null

/-- The member of a key, if this is an object holding it. -/
def get? (v : Value) (k : String) : Option Value :=
  match v with
  | .object ms => lookupMember k ms
  | _ => none

/-- The member of a key, or null when this is no object or has no such key. -/
def field (v : Value) (k : String) : Value := (v.get? k).getD .null

/-- Whether this is null. -/
def isNull : Value → Bool
  | .null => true
  | _ => false

/-- The text of a string value. -/
def asString? : Value → Option String
  | .string s => some s
  | _ => none

/-- The truth value of a boolean. -/
def asBool? : Value → Option Bool
  | .bool b => some b
  | _ => none

/-- The members of an object. -/
def asObject? : Value → Option (List (String × Value))
  | .object ms => some ms
  | _ => none

/-- The items of an array. -/
def asArray? : Value → Option (List Value)
  | .array xs => some xs
  | _ => none

/-- An integer number of either kind, as an integer. -/
def asInt? : Value → Option Int
  | .number (.unsigned n) => some n
  | .number (.signed n) => some n
  | _ => none

/-- A non-negative integer below `2 ^ 64`. -/
def asNat? : Value → Option Nat
  | .number (.unsigned n) => some n
  | _ => none

/-- The object with one more member, replacing a member of the same key; a value that is no
object is left as it is. -/
def insert (v : Value) (k : String) (x : Value) : Value :=
  match v with
  | .object ms => .object (insertMember k x ms)
  | other => other

/-- The object without the given key. -/
def erase (v : Value) (k : String) : Value :=
  match v with
  | .object ms => .object (eraseMember k ms)
  | other => other

end Value

end Json

end LspBridge
