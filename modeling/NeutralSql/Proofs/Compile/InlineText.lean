import Mathlib.Data.List.Basic
import NeutralSql.Compile.Definition
import NeutralSql.Proofs.Compile.Quotation
import NeutralSql.Proofs.Json.Token

/-!
# Text between quotes and bytes in digits

Where a dialect takes nothing inside single quotes for special but a doubled quote, every string
default and every JSON default reads back as it is, whatever follows. Bytes read back in the
notation of each dialect. SQL Server asks in front of a table or an index whether that exists, and
names it there in quotes: what is asked for is what the statement behind goes on to create.
-/

namespace NeutralSql

/-- Nothing but a doubled quote is special. -/
def Literal.QuoteRule.standard : Literal.QuoteRule where
  escape? _ := none
  sparesQuote := rfl

/-- How a dialect reads what stands in single quotes: MySQL has escapes, the others have none. -/
def Dialect.quoteRule : Dialect → Literal.QuoteRule
  | .mysql => .backslash Literal.mysqlEscape
  | .postgresql | .sqlite | .mssql => .standard

namespace Literal

/-- What stands behind a fixed text. -/
def behind? (front : String) (text : List Char) : Option (List Char) :=
  text.dropPrefix? front.toList

theorem behind?_append (front : String) (rest : List Char) :
    behind? front (front.toList ++ rest) = some rest :=
  List.dropPrefix?_append_of_beq rest BEq.rfl

/-- A text without escapes in its quotes is read as itself. -/
theorem QuoteRule.read?_quote_of_plain {rule : QuoteRule} {text : String}
    (plain : ∀ c ∈ text.toList, rule.escape? c = none) {behind : List Char}
    (apart : ∀ c ∈ behind.head?, c ≠ '\'') :
    rule.read? ((quote text).toList ++ behind) = some (text.toList, behind) := by
  rw [read?_quote]
  exact (content?_doubleQuotes_iff apart).2 (unescape?_of_plain plain)

theorem QuoteRule.standard_read?_quote (text : String) {behind : List Char}
    (apart : ∀ c ∈ behind.head?, c ≠ '\'') :
    standard.read? ((quote text).toList ++ behind) = some (text.toList, behind) :=
  read?_quote_of_plain (fun _ _ => rfl) apart

/-! ## Bytes -/

/-- A hexadecimal digit in either case. -/
def isHexDigit (c : Char) : Bool :=
  (Json.hexValue? c).isSome

/-- Bytes by their hexadecimal digits, two for each. -/
def bytes? : List Char → Option (List UInt8)
  | [] => some []
  | [_] => none
  | high :: low :: rest =>
    match Json.hexValue? high, Json.hexValue? low with
    | some high, some low => (bytes? rest).map (UInt8.ofNat (high * 16 + low) :: ·)
    | _, _ => none

/-- Bytes in quotes behind a letter, and the text behind them. -/
def quotedBytes? (rule : QuoteRule) (text : List Char) : Option (List UInt8 × List Char) := do
  let (digits, rest) ← rule.read? (← behind? "X" text)
  return (← bytes? digits, rest)

/-- Bytes as a string that is cast, and the text behind the cast. -/
def castBytes? (rule : QuoteRule) (text : List Char) : Option (List UInt8 × List Char) := do
  let (content, rest) ← rule.read? text
  let bytes ← bytes? (← behind? "\\x" content)
  return (bytes, ← behind? "::bytea" rest)

/-- Bytes as a number of any length, and the text behind its digits. -/
def numericBytes? (text : List Char) : Option (List UInt8 × List Char) := do
  let digits ← behind? "0x" text
  return (← bytes? (digits.takeWhile isHexDigit), digits.dropWhile isHexDigit)

/-- The bytes of the literal at the front of a text, and the text behind it. -/
def readBytes? (dialect : Dialect) : List Char → Option (List UInt8 × List Char) :=
  match dialect with
  | .postgresql => castBytes? dialect.quoteRule
  | .mysql | .sqlite => quotedBytes? dialect.quoteRule
  | .mssql => numericBytes?

/-- A text does not go on with the literal of bytes in front of it. -/
def EndsBytes (dialect : Dialect) (behind : List Char) : Prop :=
  match dialect with
  | .postgresql => True
  | .mysql | .sqlite => ∀ c ∈ behind.head?, c ≠ '\''
  | .mssql => ∀ c ∈ behind.head?, isHexDigit c = false

/-! ### Digits -/

section Digits

variable {digits : List Char} {bytes : List UInt8}

/-- Bytes are read off their digits, in whichever case those are spelled. -/
theorem bytes?_spelled {spell : Char → Char}
    (keeps : ∀ n < 16, Json.hexValue? (spell (Json.hexDigit n)) = some n) (bytes : List UInt8) :
    bytes? ((bytes.flatMap hexByte).map spell) = some bytes := by
  induction bytes with
  | nil => rfl
  | cons byte rest inductionHypothesis =>
    have small := byte.toNat_lt
    have high := keeps (byte.toNat / 16) (by omega)
    have low := keeps (byte.toNat % 16) (by omega)
    rw [List.flatMap_cons, List.map_append, hexByte, List.map_cons, List.map_singleton,
      List.cons_append, List.singleton_append, bytes?, high, low, inductionHypothesis]
    simp only [Option.map_some, Nat.div_add_mod', UInt8.ofNat_toNat]

theorem bytes?_hex (bytes : List UInt8) : bytes? (hex bytes).toList = some bytes := by
  rw [hex, String.toList_ofList, ← List.map_id (bytes.flatMap hexByte)]
  exact bytes?_spelled Json.hexValue?_hexDigit bytes

theorem bytes?_upperHex (bytes : List UInt8) : bytes? (upperHex bytes).toList = some bytes := by
  rw [upperHex, String.toList_ofList]
  exact bytes?_spelled (by decide) bytes

/-- What is read as bytes is made of digits. -/
theorem isHexDigit_of_bytes? (read : bytes? digits = some bytes) :
    ∀ c ∈ digits, isHexDigit c = true := by
  fun_induction bytes? digits generalizing bytes with
  | case1 => exact fun _ listed => absurd listed List.not_mem_nil
  | case2 | case4 => contradiction
  | case3 high low rest highValue lowValue isHigh isLow inductionHypothesis =>
    obtain ⟨others, readRest, -⟩ := Option.map_eq_some_iff.1 read
    rw [List.forall_mem_cons, List.forall_mem_cons, isHexDigit, isHexDigit, isHigh, isLow]
    exact ⟨rfl, rfl, inductionHypothesis readRest⟩

/-- A character that is no digit is not among those. -/
theorem ne_of_bytes? {mark : Char} (noDigit : isHexDigit mark = false)
    (read : bytes? digits = some bytes) : ∀ c ∈ digits, c ≠ mark := by
  rintro c listed rfl
  exact Bool.false_ne_true (noDigit.symm.trans (isHexDigit_of_bytes? read c listed))

end Digits

/-! ### Notations -/

section Notations

variable {digits : String} {bytes : List UInt8} {behind : List Char}

/-- A text without quotes stands in quotes as it is. -/
theorem quote_of_noQuote {text : String} (noQuote : ∀ c ∈ text.toList, c ≠ '\'') :
    quote text = "'" ++ text ++ "'" := by
  have same : doubleQuotes text.toList = text.toList := by
    rw [doubleQuotes, List.flatMap_congr fun c listed => if_neg (noQuote c listed)]
    exact List.flatMap_singleton' _
  rw [quote, quotedContent, same, String.ofList_toList]

theorem quotedBytes?_append {rule : QuoteRule} (read : bytes? digits.toList = some bytes)
    (plain : ∀ c ∈ digits.toList, rule.escape? c = none) (apart : ∀ c ∈ behind.head?, c ≠ '\'') :
    quotedBytes? rule (("X'" ++ digits ++ "'").toList ++ behind) = some (bytes, behind) := by
  have front : ("X'" ++ digits ++ "'").toList ++ behind =
      "X".toList ++ ((quote digits).toList ++ behind) := by
    rw [quote_of_noQuote (ne_of_bytes? (by decide) read)]
    simp
  simp only [front, quotedBytes?, behind?_append, QuoteRule.read?_quote_of_plain plain apart, read,
    Option.bind_eq_bind, Option.bind_some, pure]

theorem castBytes?_append (read : bytes? digits.toList = some bytes) :
    castBytes? .standard (("'\\x" ++ digits ++ "'::bytea").toList ++ behind) =
      some (bytes, behind) := by
  have noQuote : ∀ c ∈ ("\\x" ++ digits).toList, c ≠ '\'' := by
    rw [String.toList_append, List.forall_mem_append]
    exact ⟨by simp, ne_of_bytes? (by decide) read⟩
  have front : ("'\\x" ++ digits ++ "'::bytea").toList ++ behind =
      (quote ("\\x" ++ digits)).toList ++ ("::bytea".toList ++ behind) := by
    rw [quote_of_noQuote noQuote]
    simp
  have content := QuoteRule.standard_read?_quote ("\\x" ++ digits)
    (show ∀ c ∈ ("::bytea".toList ++ behind).head?, c ≠ '\'' by simp)
  rw [String.toList_append] at content
  simp only [front, castBytes?, content, behind?_append, read, Option.bind_eq_bind,
    Option.bind_some, pure]

theorem numericBytes?_append (read : bytes? digits.toList = some bytes)
    (apart : ∀ c ∈ behind.head?, isHexDigit c = false) :
    numericBytes? (("0x" ++ digits).toList ++ behind) = some (bytes, behind) := by
  have areDigits := isHexDigit_of_bytes? read
  have stops : behind.takeWhile isHexDigit = [] ∧ behind.dropWhile isHexDigit = behind := by
    cases behind with
    | nil => exact ⟨rfl, rfl⟩
    | cons c rest =>
      have other : ¬ isHexDigit c = true := Bool.eq_false_iff.1 (apart c rfl)
      exact ⟨List.takeWhile_cons_of_neg other, List.dropWhile_cons_of_neg other⟩
  rw [String.toList_append, List.append_assoc]
  simp only [numericBytes?, behind?_append, List.takeWhile_append_of_pos areDigits,
    List.dropWhile_append_of_pos areDigits, stops, List.append_nil, read, Option.bind_eq_bind,
    Option.bind_some, pure]

/-- No digit begins an escape. -/
theorem escape?_quoteRule_of_isHexDigit (dialect : Dialect) {c : Char}
    (isDigit : isHexDigit c = true) : dialect.quoteRule.escape? c = none := by
  cases dialect with
  | mysql =>
    refine if_neg ?_
    rintro rfl
    contradiction
  | postgresql | sqlite | mssql => rfl

/-- Bytes are read back in the notation of each dialect. -/
theorem readBytes?_ofValue (dialect : Dialect) (bytes : List UInt8)
    (ends : EndsBytes dialect behind) :
    readBytes? dialect ((ofValue dialect (.bytes bytes)).toList ++ behind) =
      some (bytes, behind) := by
  have read := bytes?_upperHex bytes
  have plain : ∀ c ∈ (upperHex bytes).toList, dialect.quoteRule.escape? c = none :=
    fun c listed => escape?_quoteRule_of_isHexDigit dialect (isHexDigit_of_bytes? read c listed)
  cases dialect with
  | postgresql => exact castBytes?_append (bytes?_hex bytes)
  | mysql => exact quotedBytes?_append read plain ends
  | sqlite => exact quotedBytes?_append read plain ends
  | mssql => exact numericBytes?_append read ends

end Notations

/-! ## Guards -/

/-- The content of a literal of national characters, and the text behind it. -/
def readNational? (text : List Char) : Option (List Char × List Char) := do
  QuoteRule.standard.read? (← behind? "N" text)

/-- The table that SQL Server looks for in front of a CREATE TABLE, and the statement that is
carried out if there is none. -/
def guardedTable? (text : List Char) : Option (List Char × List Char) := do
  let (table, rest) ← readNational? (← behind? "IF OBJECT_ID(" text)
  let (kind, rest) ← readNational? (← behind? ", " rest)
  if kind = ['U'] then
    return (table, ← behind? ") IS NULL " rest)
  else none

/-- The index that SQL Server looks for in front of a CREATE INDEX, the table on which it does,
and the statement that is carried out if there is none. -/
def guardedIndex? (text : List Char) : Option (List Char × List Char × List Char) := do
  let (index, rest) ← readNational?
    (← behind? "IF NOT EXISTS (SELECT 1 FROM sys.indexes WHERE name = " text)
  let (table, rest) ← readNational? (← behind? " AND object_id = OBJECT_ID(" rest)
  return (index, table, ← behind? ")) " rest)

/-- A literal of national characters. -/
def national (text : String) : String :=
  "N" ++ quote text

theorem readNational?_national (text : String) {behind : List Char}
    (apart : ∀ c ∈ behind.head?, c ≠ '\'') :
    readNational? ((national text).toList ++ behind) = some (text.toList, behind) := by
  rw [national, String.toList_append, List.append_assoc]
  simp only [readNational?, behind?_append, Option.bind_eq_bind, Option.bind_some]
  exact QuoteRule.standard_read?_quote text apart

theorem createTableHead_guarded (table : String) :
    Dialect.mssql.createTableHead table true =
      "IF OBJECT_ID(" ++ (national table ++ (", " ++ (national "U" ++ (") IS NULL " ++
        Dialect.mssql.createTableHead table false)))) := by
  rw [← String.toList_inj]
  simp [Dialect.createTableHead, national, quote, quotedContent, doubleQuotes]

theorem createIndex_guarded (table : String) (index : IndexDefinition) :
    Dialect.mssql.createIndex table index true =
      "IF NOT EXISTS (SELECT 1 FROM sys.indexes WHERE name = " ++
        (national (index.nameFor table) ++ (" AND object_id = OBJECT_ID(" ++ (national table ++
          (")) " ++ Dialect.mssql.createIndex table index false)))) := by
  rw [← String.toList_inj]
  simp [Dialect.createIndex, national, quote, quotedContent]

section Guards

variable (table : String) (index : IndexDefinition) (behind : List Char)

/-- A table is looked for by its name. -/
theorem guardedTable?_createTableHead :
    guardedTable? ((Dialect.mssql.createTableHead table true).toList ++ behind) =
      some (table.toList, (Dialect.mssql.createTableHead table false).toList ++ behind) := by
  simp only [createTableHead_guarded, String.toList_append, List.append_assoc, guardedTable?,
    behind?_append, Option.bind_eq_bind, Option.bind_some]
  -- No name reaches beyond its closing quote: the fixed text behind it begins with no other one.
  rw [readNational?_national table (by simp)]
  simp only [behind?_append, Option.bind_some]
  rw [readNational?_national "U" (by simp)]
  simp only [behind?_append, Option.bind_some]
  exact if_pos rfl

/-- An index is looked for by its name and that of its table. -/
theorem guardedIndex?_createIndex :
    guardedIndex? ((Dialect.mssql.createIndex table index true).toList ++ behind) =
      some ((index.nameFor table).toList, table.toList,
        (Dialect.mssql.createIndex table index false).toList ++ behind) := by
  simp only [createIndex_guarded, String.toList_append, List.append_assoc, guardedIndex?,
    behind?_append, Option.bind_eq_bind, Option.bind_some]
  rw [readNational?_national (index.nameFor table) (by simp)]
  simp only [behind?_append, Option.bind_some]
  rw [readNational?_national table (by simp)]
  simp only [behind?_append, Option.bind_some, pure]

end Guards

/-- What is written into a statement reads back. In every dialect but MySQL the literal of a string
or of a JSON text is read as that text, and as no more of what follows. The literal of bytes is read
as those bytes in the notation of its dialect. The guards of SQL Server ask for the table and the
index by the names under which the statements behind them create these. -/
theorem inline_text_reads_back :
    (∀ dialect : Dialect, dialect ≠ .mysql → ∀ (value : Value) (text : String),
      value.quotedText? = some text → ∀ behind : List Char, (∀ c ∈ behind.head?, c ≠ '\'') →
        dialect.quoteRule.read? ((ofValue dialect value).toList ++ behind) =
          some (text.toList, behind)) ∧
      (∀ (dialect : Dialect) (bytes : List UInt8) (behind : List Char),
        EndsBytes dialect behind →
          readBytes? dialect ((ofValue dialect (.bytes bytes)).toList ++ behind) =
            some (bytes, behind)) ∧
      (∀ (table : String) (behind : List Char),
        guardedTable? ((Dialect.mssql.createTableHead table true).toList ++ behind) =
          some (table.toList, (Dialect.mssql.createTableHead table false).toList ++ behind)) ∧
      ∀ (table : String) (index : IndexDefinition) (behind : List Char),
        guardedIndex? ((Dialect.mssql.createIndex table index true).toList ++ behind) =
          some ((index.nameFor table).toList, table.toList,
            (Dialect.mssql.createIndex table index false).toList ++ behind) := by
  refine ⟨fun dialect notMySql value text quoted behind apart => ?_,
    fun dialect bytes behind => readBytes?_ofValue dialect bytes, guardedTable?_createTableHead,
    guardedIndex?_createIndex⟩
  rw [ofValue_of_quotedText? quoted]
  cases dialect with
  | mysql => exact absurd rfl notMySql
  | postgresql | sqlite | mssql => exact QuoteRule.standard_read?_quote text apart

/-- A string that ends in a backslash and a quote, a JSON text with a quote, and bytes in front of
a digit that is not theirs. -/
theorem inline_text_reads_back_samples :
    Dialect.sqlite.quoteRule.read? ((ofValue .sqlite (.string "it\\'")).toList ++ [')']) =
        some ("it\\'".toList, [')']) ∧
      Dialect.postgresql.quoteRule.read?
          ((ofValue .postgresql (.json (.array [.string "'\""]))).toList ++ [',']) =
        some ("[\"'\\\"\"]".toList, [',']) ∧
      readBytes? .postgresql ((ofValue .postgresql (.bytes [0x01, 0xff])).toList ++ ['0']) =
        some ([0x01, 0xff], ['0']) ∧
      readBytes? .mssql ((ofValue .mssql (.bytes [0x01, 0xff])).toList ++ [' ', '0']) =
        some ([0x01, 0xff], [' ', '0']) := by
  refine ⟨?_, ?_, ?_, ?_⟩
  · exact inline_text_reads_back.1 .sqlite (by decide) _ _ rfl _ (by simp)
  · exact inline_text_reads_back.1 .postgresql (by decide) _ _ rfl _ (by simp)
  · exact inline_text_reads_back.2.1 .postgresql _ _ trivial
  · refine inline_text_reads_back.2.1 .mssql _ _ ?_
    rintro c isFirst
    obtain rfl := Option.some.inj isFirst
    decide

end Literal

end NeutralSql
