import NeutralSql.Binary64

/-!
# JSON values

An object is the list of its members in order. Most objects of this library are
records whose members stand in declaration order; a value that came from outside has
no such order and is put into canonical form, where members are sorted by key and a
repeated key keeps its last value.
-/

namespace NeutralSql

/-- A JSON number: integers and doubles are told apart. -/
inductive Json.Number where
  | int (value : Int)
  | float (value : Binary64)
  deriving DecidableEq

/-- A JSON value. -/
inductive Json where
  | null
  | bool (value : Bool)
  | number (value : Json.Number)
  | string (value : String)
  | array (items : List Json)
  | object (members : List (String × Json))

namespace Json

/-- A number that is an integer. -/
def int (value : Int) : Json :=
  .number (.int value)

/-- A number that is a double. -/
def float (value : Binary64) : Json :=
  .number (.float value)

/-- An array of strings. -/
def strings (texts : List String) : Json :=
  .array (texts.map .string)

/-- The member of an object that a key selects; nothing for other values. -/
def member? (key : String) : Json → Option Json
  | .object members => members.lookup key
  | _ => none

/-- The value is an array or an object. -/
def isContainer : Json → Bool
  | .array _ => true
  | .object _ => true
  | _ => false

/-- Put a member into a list sorted by key. A member already there under the same key
is replaced. -/
def insertMember (key : String) (value : Json) : List (String × Json) → List (String × Json)
  | [] => [(key, value)]
  | (other, otherValue) :: rest =>
    if key < other then (key, value) :: (other, otherValue) :: rest
    else if key = other then (key, value) :: rest
    else (other, otherValue) :: insertMember key value rest

/-- Members sorted by key, where the last of several equal keys is kept. -/
def sortMembers (members : List (String × Json)) : List (String × Json) :=
  members.foldl (fun sorted entry => insertMember entry.1 entry.2 sorted) []

mutual

/-- The same value with all members of all objects in canonical order. -/
def canonical : Json → Json
  | .null => .null
  | .bool value => .bool value
  | .number value => .number value
  | .string value => .string value
  | .array items => .array (canonicalItems items)
  | .object members => .object (sortMembers (canonicalMembers members))

/-- `canonical` on each item. -/
def canonicalItems : List Json → List Json
  | [] => []
  | item :: rest => canonical item :: canonicalItems rest

/-- `canonical` on the value of each member. -/
def canonicalMembers : List (String × Json) → List (String × Json)
  | [] => []
  | (key, value) :: rest => (key, canonical value) :: canonicalMembers rest

end

end Json

end NeutralSql
