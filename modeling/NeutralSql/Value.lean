import NeutralSql.Json.Printer
import NeutralSql.Json.Record

/-!
# Values

A value is what a statement binds to a placeholder or writes as a default. Values are
read from JSON without type marks: an integer that fits 64 bits is one, any other
number is a double, and a container stays JSON. Bytes are written as an array of
numbers and cannot be read back as bytes.
-/

namespace NeutralSql

/-- A value of a statement. -/
inductive Value where
  | null
  | boolean (value : Bool)
  | integer (value : Int64)
  | float (value : Binary64)
  | string (value : String)
  | json (value : Json)
  | bytes (value : List UInt8)

namespace Value

/-- The value is null. -/
def isNull : Value → Bool
  | .null => true
  | _ => false

/-- The name of the kind of a value. -/
def typeName : Value → String
  | .null => "null"
  | .boolean _ => "boolean"
  | .integer _ => "integer"
  | .float _ => "float"
  | .string _ => "string"
  | .json _ => "json"
  | .bytes _ => "bytes"

/-- An absent value is null. -/
def ofOption (value : Option Value) : Value :=
  value.getD .null

/-- A count as an integer value; a count beyond the signed range becomes its largest
integer. -/
def ofCount (count : UInt64) : Value :=
  .integer (Int64.ofNat (min count.toNat Int64.maxValue.toNatClampNeg))

/-- A value as JSON. -/
def toJson : Value → Json
  | .null => .null
  | .boolean value => .bool value
  | .integer value => .int value.toInt
  | .float value => .float value
  | .string value => .string value
  | .json value => value
  | .bytes value => .array (value.map fun byte => .int byte.toNat)

/-- The value that a document holds. -/
def ofDocument? : Document → Option Value
  | .null => some .null
  | .bool value => some (.boolean value)
  | .number (.int value) =>
    match Document.int64? value with
    | some whole => some (.integer whole)
    | none => some (.float (.ofInt value))
  | .number (.float value) => some (.float value)
  | .string value => some (.string value)
  | .array items => (Document.array items).json?.map fun value => .json value.canonical
  | .object members => (Document.object members).json?.map fun value => .json value.canonical
  | .unreadable => none

/-- The values that the text of a JSON array holds. -/
def listOfText? (text : String) : Option (List Value) :=
  (Document.parse? text).bind (Document.listOf? ofDocument?)

end Value

end NeutralSql
