import LspBridge.Json.Value
/-!
# TOML values

The values of a TOML document: strings, integers, floats, booleans, date-times, arrays and tables.
Integers are kept exactly, whatever their size; the reader of a field decides the range it takes.
A float is a double, or none for the infinities and NaN. A date-time keeps its text with the
separator and the zone letter in upper case. A table keeps its keys in the order they were defined.

As JSON, a TOML value keeps its structure: a non-finite float becomes null, and a date-time becomes
an object with the single member `$__toml_private_datetime`, holding its text.
-/

namespace LspBridge

namespace Toml

/-- A TOML value.

`string`: a string. `integer`: an integer. `float`: a float: a double, or none for the infinities
and NaN. `bool`: a boolean. `datetime`: an offset or local date-time, date or time, by its text.
`array`: an array. `table`: a table, keys in definition order. -/
inductive Value where
  | string (s : String)
  | integer (n : Int)
  | float (x : Option Binary64)
  | bool (b : Bool)
  | datetime (text : String)
  | array (items : List Value)
  | table (entries : List (String × Value))
  deriving Inhabited

/-- The member key under which a date-time shows as JSON. -/
def datetimeKey : String := "$__toml_private_datetime"

mutual

/-- The JSON form of a TOML value; `none` for an integer outside the 64-bit ranges. -/
def Value.toJson? : Value → Option Json.Value
  | .string s => some (.string s)
  | .integer n =>
    if -Int.pow 2 63 ≤ n ∧ n < Int.pow 2 64 then some (Json.Value.int n) else none
  | .float (some x) => some (.number (.double x))
  | .float none => some .null
  | .bool b => some (.bool b)
  | .datetime text => some (Json.Value.obj [(datetimeKey, .string text)])
  | .array items => (Value.itemsToJson? items).map .array
  | .table entries => (Value.entriesToJson? entries).map Json.Value.obj

/-- The JSON forms of array items. -/
def Value.itemsToJson? : List Value → Option (List Json.Value)
  | [] => some []
  | v :: rest => do
    let j ← Value.toJson? v
    let js ← Value.itemsToJson? rest
    some (j :: js)

/-- The JSON forms of table entries. -/
def Value.entriesToJson? : List (String × Value) → Option (List (String × Json.Value))
  | [] => some []
  | (k, v) :: rest => do
    let j ← Value.toJson? v
    let js ← Value.entriesToJson? rest
    some ((k, j) :: js)

end

/-- The value of a key in a table's entries. -/
def lookup (k : String) : List (String × Value) → Option Value
  | [] => none
  | (k', v) :: rest => if k = k' then some v else lookup k rest

end Toml

end LspBridge
