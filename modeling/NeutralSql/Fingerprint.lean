import NeutralSql.Compile.Context
import NeutralSql.Sha256

/-!
# Fingerprints

A cache entry is found by the hash of the dialect, the text and the values of its
statement. What is hashed is a sequence of fields, each with its length in front, so
that no two different statements have the same sequence; every value has its type name
in front, so that a number and its text stay apart.
-/

namespace NeutralSql

/-- A cache key: the hash of a statement in hexadecimal digits. -/
structure Fingerprint where
  hex : String
  deriving DecidableEq

namespace Fingerprint

/-- The UTF-8 bytes of a text. -/
def utf8 (text : String) : List UInt8 :=
  text.toByteArray.data.toList

/-- Bytes with their number in front. -/
def field (bytes : List UInt8) : List UInt8 :=
  Sha256.bytesOfUInt64 (UInt64.ofNat bytes.length) ++ bytes

/-- The bytes of a value without its type. -/
def valueBytes : Value → List UInt8
  | .null => []
  | .boolean value => [if value then 1 else 0]
  | .integer value => Sha256.bytesOfUInt64 value.toUInt64
  | .float value => Sha256.bytesOfUInt64 value.bits
  | .string value => utf8 value
  | .json value => utf8 value.compact
  | .bytes value => value

/-- A value as two fields: its type and its bytes. -/
def valueFields (value : Value) : List UInt8 :=
  field (utf8 value.typeName) ++ field (valueBytes value)

/-- Everything that is hashed, in order: the dialect, the text, the number of values, and
the values. -/
def preimage (dialect : Dialect) (sql : String) (params : List Value) : List UInt8 :=
  field (utf8 dialect.identifier) ++ field (utf8 sql) ++
    Sha256.bytesOfUInt64 (UInt64.ofNat params.length) ++ params.flatMap valueFields

/-- The key of a text and its values in a dialect. -/
def of (dialect : Dialect) (sql : String) (params : List Value) : Fingerprint :=
  ⟨Literal.hex (Sha256.hash (preimage dialect sql params))⟩

/-- The key of a finished statement. -/
def ofCompiled (dialect : Dialect) (compiled : Compiled) : Fingerprint :=
  of dialect compiled.sql compiled.params

end Fingerprint

end NeutralSql
