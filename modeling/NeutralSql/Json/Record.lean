import NeutralSql.Json.Document

/-!
# Reading records, names and lists

A record is written as an object, or as an array of its fields in declaration order.
An object may hold unknown members, which are passed over, and holds each known one
at most once; an array may stop early. `Document.fields?` turns both forms into one
list of fields, and the readers of `Field` say what a missing field means.
-/

namespace NeutralSql.Document

/-- What a document holds for one field of a record. -/
inductive Field where
  | given (value : Document)
  /-- An object without this member. -/
  | omitted
  /-- An array that ends before this field. -/
  | cutOff

/-- How often a key occurs among members. -/
def occurrences (key : String) (members : List (String × Document)) : Nat :=
  members.countP fun member => member.1 = key

/-- The member under a key, as a field. -/
def memberField (members : List (String × Document)) (key : String) : Field :=
  match members.lookup key with
  | some value => .given value
  | none => .omitted

/-- Items as fields, and the remaining fields cut off. -/
def itemFields : (names : List String) → (items : List Document) → List Field
  | [], _ => []
  | _ :: names, [] => .cutOff :: itemFields names []
  | _ :: names, item :: items => .given item :: itemFields names items

/-- One field for each name, in the order of the names. An object with a repeated known
member is no record, nor is an array with more items than there are fields. -/
def fields? (names : List String) : Document → Option (List Field)
  | .object members =>
    if names.all fun name => occurrences name members ≤ 1 then
      some (names.map (memberField members))
    else none
  | .array items => if items.length ≤ names.length then some (itemFields names items) else none
  | _ => none

namespace Field

/-- A field that has to be there. -/
def required? (read? : Document → Option α) : Field → Option α
  | .given value => read? value
  | _ => none

/-- A field with a value of its own when it is missing. -/
def withDefault? (fallback : α) (read? : Document → Option α) : Field → Option α
  | .given value => read? value
  | _ => some fallback

end Field

/-- Null stands for an absent value. -/
def nullable? (read? : Document → Option α) : Document → Option (Option α)
  | .null => some none
  | document => (read? document).map some

/-- A field that may be missing or null. -/
def Field.optional? (read? : Document → Option α) : Field → Option (Option α) :=
  Field.withDefault? none (nullable? read?)

/-- A truth value. -/
def asBool? : Document → Option Bool
  | .bool value => some value
  | _ => none

/-- A string. -/
def asString? : Document → Option String
  | .string value => some value
  | _ => none

/-- An integer from zero up to below `bound`. -/
def asNat? (bound : Nat) : Document → Option Nat
  | .number (.int value) => if 0 ≤ value ∧ value < bound then some value.toNat else none
  | _ => none

/-- An unsigned integer of 32 bits. -/
def asUInt32? (document : Document) : Option UInt32 :=
  (document.asNat? UInt32.size).map UInt32.ofNat

/-- An unsigned integer of 64 bits. -/
def asUInt64? (document : Document) : Option UInt64 :=
  (document.asNat? UInt64.size).map UInt64.ofNat

/-- An integer as one of 64 bits with a sign, if it is in their range. -/
def int64? (value : Int) : Option Int64 :=
  if Int64.minValue.toInt ≤ value ∧ value ≤ Int64.maxValue.toInt then some (Int64.ofInt value)
  else none

/-- A signed integer of 64 bits. -/
def asInt64? : Document → Option Int64
  | .number (.int value) => int64? value
  | _ => none

/-- A number as a double; integers are rounded to the nearest one. -/
def asBinary64? : Document → Option Binary64
  | .number (.int value) => some (.ofInt value)
  | .number (.float value) => some value
  | _ => none

/-- A list of values that one reader accepts. -/
def listOf? (read? : Document → Option α) : Document → Option (List α)
  | .array items => items.mapM read?
  | _ => none

/-- A list of strings. -/
def asStrings? : Document → Option (List String) :=
  listOf? asString?

/-- What may stand as the payload of a name that has none, when the name is written as
an object with one member. -/
inductive Payload where
  /-- Null alone. -/
  | nullOnly
  /-- Null or an empty object, the rule inside a tagged statement. -/
  | nullOrEmpty
  deriving DecidableEq

/-- A document that stands for no payload. -/
def isNoPayload (payload : Payload) : Document → Bool
  | .null => true
  | .object [] => payload = .nullOrEmpty
  | _ => false

/-- A name without a payload: a string, or an object with the name as its only key. -/
def asName? (payload : Payload) : Document → Option String
  | .string name => some name
  | .object [(name, value)] => if isNoPayload payload value then some name else none
  | _ => none

/-- One of several named values. -/
def oneOf? (payload : Payload) (names : List (String × α)) (document : Document) : Option α :=
  (document.asName? payload).bind fun name => names.lookup name

/-- The payload of a name that requires one. -/
def payloadOf? (name : String) : Document → Option Document
  | .object [(key, value)] => if key = name then some value else none
  | _ => none

end NeutralSql.Document
