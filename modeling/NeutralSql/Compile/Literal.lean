import NeutralSql.Binary64.Decimal
import NeutralSql.Value
import NeutralSql.Dialect

/-!
# Literals

Defaults are the only values that become part of a statement's text. A string stands in
single quotes with every quote inside doubled; bytes are hexadecimal digits in the
notation of the dialect.
-/

namespace NeutralSql.Literal

/-- A quote inside a string is written twice. -/
def doubleQuotes (text : List Char) : List Char :=
  text.flatMap fun c => if c = '\'' then ['\'', '\''] else [c]

/-- The content of a quoted string. -/
def quotedContent (text : String) : String :=
  String.ofList (doubleQuotes text.toList)

/-- A string in single quotes. -/
def quote (text : String) : String :=
  "'" ++ quotedContent text ++ "'"

/-- Numbers are written without an exponent, and whole ones without a point; of two
equally near decimals the larger one is taken. -/
def numberFormat : Binary64.NumberFormat where
  tie := .up
  isPositional _ := true
  wholeSuffix := ""

/-- The text of a double. -/
def ofBinary64 (x : Binary64) : String :=
  if x.isFinite then numberFormat.write x
  else if x.isNaN then "NaN"
  else if x.isNegative then "-inf"
  else "inf"

/-- The two hexadecimal digits of a byte in lower case. -/
def hexByte (byte : UInt8) : List Char :=
  [Json.hexDigit (byte.toNat / 16), Json.hexDigit (byte.toNat % 16)]

/-- Bytes as lower-case hexadecimal digits. -/
def hex (bytes : List UInt8) : String :=
  String.ofList (bytes.flatMap hexByte)

/-- Bytes as upper-case hexadecimal digits. -/
def upperHex (bytes : List UInt8) : String :=
  String.ofList ((bytes.flatMap hexByte).map Char.toUpper)

/-- The literal for bytes. -/
def ofBytes (dialect : Dialect) (bytes : List UInt8) : String :=
  match dialect with
  | .postgresql => "'\\x" ++ hex bytes ++ "'::bytea"
  | .mssql => "0x" ++ upperHex bytes
  | .mysql => "X'" ++ upperHex bytes ++ "'"
  | .sqlite => "X'" ++ upperHex bytes ++ "'"

/-- The literal for a truth value. -/
def ofBool (style : BooleanStyle) (value : Bool) : String :=
  match style, value with
  | .keyword, true => "TRUE"
  | .keyword, false => "FALSE"
  | .numeric, true => "1"
  | .numeric, false => "0"

/-- The literal for a value; JSON is written as a string of its compact text. -/
def ofValue (dialect : Dialect) : Value → String
  | .null => "NULL"
  | .boolean value => ofBool dialect.capabilities.booleanStyle value
  | .integer value => toString value.toInt
  | .float value => ofBinary64 value
  | .string value => quote value
  | .json value => quote value.compact
  | .bytes value => ofBytes dialect value

end NeutralSql.Literal
