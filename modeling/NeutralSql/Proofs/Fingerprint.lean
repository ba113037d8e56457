import Mathlib.Data.List.Forall2
import NeutralSql.Fingerprint

/-!
# What is hashed tells statements apart

Every field of the hashed bytes begins with its length, and the values begin with their
number, so that the bytes can be read in only one way: `preimage_eq_iff`. Hence two
statements with one fingerprint are the same one, unless their bytes are a collision of the
hash function.
-/

namespace NeutralSql

/-- Numbers that agree in front of a digit and in that digit agree up to that digit. -/
theorem Sha256.div_eq_of_digit {first second : Nat} (place : Nat)
    (front : first / (place * 256) = second / (place * 256))
    (digit : first / place % 256 = second / place % 256) : first / place = second / place := by
  rw [← Nat.div_div_eq_div_mul, ← Nat.div_div_eq_div_mul] at front
  omega

/-- A 64-bit number can be read off its bytes. -/
theorem Sha256.bytesOfUInt64_injective : Function.Injective bytesOfUInt64 := by
  intro first second same
  simp only [bytesOfUInt64, List.map_cons, List.map_nil, List.cons.injEq, and_true,
    ← UInt8.toNat_inj, UInt64.toNat_toUInt8, UInt64.toNat_shiftRight,
    Nat.shiftRight_eq_div_pow, UInt64.reduceToNat, Nat.reduceMod, Nat.reducePow] at same
  obtain ⟨digit7, digit6, digit5, digit4, digit3, digit2, digit1, digit0⟩ := same
  have front8 : first.toNat / 0x10000000000000000 = second.toNat / 0x10000000000000000 := by
    rw [Nat.div_eq_of_lt first.toNat_lt, Nat.div_eq_of_lt second.toNat_lt]
  have front7 := div_eq_of_digit 0x100000000000000 front8 digit7
  have front6 := div_eq_of_digit 0x1000000000000 front7 digit6
  have front5 := div_eq_of_digit 0x10000000000 front6 digit5
  have front4 := div_eq_of_digit 0x100000000 front5 digit4
  have front3 := div_eq_of_digit 0x1000000 front4 digit3
  have front2 := div_eq_of_digit 0x10000 front3 digit2
  have front1 := div_eq_of_digit 0x100 front2 digit1
  have front0 := div_eq_of_digit 1 front1 digit0
  rw [Nat.div_one, Nat.div_one] at front0
  exact UInt64.toNat_inj.1 front0

/-- A number that fits 64 bits can be read off its bytes. -/
theorem Sha256.bytesOfUInt64_ofNat_inj {first second : Nat} (firstFits : first < UInt64.size)
    (secondFits : second < UInt64.size)
    (same : bytesOfUInt64 (UInt64.ofNat first) = bytesOfUInt64 (UInt64.ofNat second)) :
    first = second := by
  have number := congrArg UInt64.toNat (bytesOfUInt64_injective same)
  rwa [UInt64.toNat_ofNat_of_lt' firstFits, UInt64.toNat_ofNat_of_lt' secondFits] at number

namespace Literal

/-- A hexadecimal digit stands for one number below sixteen. -/
theorem hexDigit_injective : ∀ first < 16, ∀ second < 16,
    Json.hexDigit first = Json.hexDigit second → first = second := by
  decide

/-- A byte can be read off its two digits. -/
theorem hexByte_injective : Function.Injective hexByte := by
  intro first second same
  simp only [hexByte, List.cons.injEq, and_true] at same
  have firstSmall := first.toNat_lt
  have secondSmall := second.toNat_lt
  have high := hexDigit_injective _ (by omega) _ (by omega) same.1
  have low := hexDigit_injective _ (by omega) _ (by omega) same.2
  rw [← UInt8.toNat_inj]
  omega

/-- Bytes can be read off their digits. -/
theorem hex_injective : Function.Injective hex := by
  intro first second same
  replace same := String.ofList_injective same
  induction first generalizing second with
  | nil =>
    cases second with
    | nil => rfl
    | cons byte rest => contradiction
  | cons byte rest inductionHypothesis =>
    cases second with
    | nil => contradiction
    | cons otherByte otherRest =>
      rw [List.flatMap_cons, List.flatMap_cons] at same
      obtain ⟨digits, others⟩ := List.append_inj same rfl
      rw [hexByte_injective digits, inductionHypothesis others]

end Literal

/-- Two values mean the same to a key: they are of one kind and equal. Doubles are compared
by their bits, and JSON by its text. -/
def Value.SameKey : Value → Value → Prop
  | .null, .null => True
  | .boolean first, .boolean second => first = second
  | .integer first, .integer second => first = second
  | .float first, .float second => first.bits = second.bits
  | .string first, .string second => first = second
  | .json first, .json second => first.compact = second.compact
  | .bytes first, .bytes second => first = second
  | _, _ => False

namespace Fingerprint

/-- The bytes of a text tell it apart. -/
theorem utf8_injective : Function.Injective utf8 := by
  intro first second same
  exact String.toByteArray_inj.1 (ByteArray.ext (Array.toList_inj.1 same))

/-- A field in front of other bytes ends where its length says. -/
theorem field_append_inj {first second rest otherRest : List UInt8}
    (firstFits : first.length < UInt64.size) (secondFits : second.length < UInt64.size)
    (same : field first ++ rest = field second ++ otherRest) :
    first = second ∧ rest = otherRest := by
  rw [field, field, List.append_assoc, List.append_assoc] at same
  obtain ⟨lengths, contents⟩ := List.append_inj same rfl
  exact List.append_inj contents
    (Sha256.bytesOfUInt64_ofNat_inj firstFits secondFits lengths)

/-- The names of the kinds of values are short. -/
theorem length_typeName_lt (value : Value) : (utf8 value.typeName).length < UInt64.size := by
  cases value <;> (simp only [Value.typeName]; decide)

/-- Values with one type name and the same bytes mean the same. -/
theorem sameKey_of_eq {first second : Value} (type : first.typeName = second.typeName)
    (bytes : valueBytes first = valueBytes second) : first.SameKey second := by
  cases first <;> cases second <;> simp only [Value.typeName, String.reduceEq] at type
  all_goals simp only [valueBytes] at bytes
  case null.null => trivial
  case boolean.boolean first second => cases first <;> cases second <;> first | rfl | contradiction
  case integer.integer first second =>
    exact congrArg Int64.ofUInt64 (Sha256.bytesOfUInt64_injective bytes)
  case float.float first second => exact Sha256.bytesOfUInt64_injective bytes
  case string.string first second => exact utf8_injective bytes
  case json.json first second => exact utf8_injective bytes
  case bytes.bytes first second => exact bytes

/-- Values that mean the same have the same fields. -/
theorem valueFields_eq_of_sameKey {first second : Value} (same : first.SameKey second) :
    valueFields first = valueFields second := by
  cases first <;> cases second <;> simp only [Value.SameKey] at same
  case null.null => rfl
  case boolean.boolean | integer.integer | string.string | bytes.bytes => rw [same]
  case float.float => exact congrArg (valueFields <| Value.float <| Binary64.mk ·) same
  case json.json =>
    rw [valueFields, valueFields, valueBytes, valueBytes, same]
    rfl

/-- Values that mean the same one by one have the same fields one after the other. -/
theorem flatMap_valueFields_eq {first second : List Value}
    (same : List.Forall₂ Value.SameKey first second) :
    first.flatMap valueFields = second.flatMap valueFields := by
  induction same with
  | nil => rfl
  | cons head _ inductionHypothesis =>
    rw [List.flatMap_cons, List.flatMap_cons, valueFields_eq_of_sameKey head, inductionHypothesis]

/-- Equally many values whose fields one after the other are the same bytes mean the same one
by one. -/
theorem sameKey_of_flatMap_eq {first second : List Value}
    (firstFits : ∀ value ∈ first, (valueBytes value).length < UInt64.size)
    (secondFits : ∀ value ∈ second, (valueBytes value).length < UInt64.size)
    (count : first.length = second.length)
    (same : first.flatMap valueFields = second.flatMap valueFields) :
    List.Forall₂ Value.SameKey first second := by
  induction first generalizing second with
  | nil =>
    obtain rfl := List.length_eq_zero_iff.1 count.symm
    exact .nil
  | cons value rest inductionHypothesis =>
    cases second with
    | nil => contradiction
    | cons other others =>
      rw [List.forall_mem_cons] at firstFits secondFits
      rw [List.flatMap_cons, List.flatMap_cons, valueFields, valueFields, List.append_assoc,
        List.append_assoc] at same
      obtain ⟨type, behindType⟩ :=
        field_append_inj (length_typeName_lt value) (length_typeName_lt other) same
      obtain ⟨bytes, behind⟩ := field_append_inj firstFits.1 secondFits.1 behindType
      exact .cons (sameKey_of_eq (utf8_injective type) bytes)
        (inductionHypothesis firstFits.2 secondFits.2 (Nat.succ.inj count) behind)

/-- Everything about a text and its values that is written in front of bytes fits 64 bits:
the length of the text, the number of values and the length of each value. -/
structure Fits (sql : String) (params : List Value) : Prop where
  sql : (utf8 sql).length < UInt64.size
  count : params.length < UInt64.size
  values : ∀ value ∈ params, (valueBytes value).length < UInt64.size

/-- Two different messages have one hash. -/
def Collide (first second : List UInt8) : Prop :=
  first ≠ second ∧ Sha256.hash first = Sha256.hash second

/-- The JSON values among values are told apart by their texts. -/
def JsonSeparates (first second : List Value) : Prop :=
  ∀ json other, .json json ∈ first → .json other ∈ second → json.compact = other.compact →
    json = other

/-- Values that mean the same are equal, if the texts of JSON values tell them apart. -/
theorem eq_of_sameKey {first second : List Value} (separates : JsonSeparates first second)
    (same : List.Forall₂ Value.SameKey first second) : first = second := by
  induction same with
  | nil => rfl
  | @cons value other rest others head tail inductionHypothesis =>
    have behind : rest = others := inductionHypothesis fun json otherJson listed otherListed =>
      separates json otherJson (List.mem_cons_of_mem _ listed) (List.mem_cons_of_mem _ otherListed)
    rw [behind]
    congr 1
    cases value <;> cases other <;> simp only [Value.SameKey] at head
    case null.null => rfl
    case boolean.boolean | integer.integer | string.string | bytes.bytes => rw [head]
    case float.float => exact congrArg (Value.float <| Binary64.mk ·) head
    case json.json json other =>
      rw [separates json other List.mem_cons_self List.mem_cons_self head]

section Statements

variable {dialect otherDialect : Dialect} {sql otherSql : String} {params otherParams : List Value}

/-- The hashed bytes are the same exactly for the same statement: the same dialect, the same
text, and values that mean the same one by one. -/
theorem preimage_eq_iff (fits : Fits sql params) (otherFits : Fits otherSql otherParams) :
    preimage dialect sql params = preimage otherDialect otherSql otherParams ↔
      dialect = otherDialect ∧ sql = otherSql ∧ List.Forall₂ Value.SameKey params otherParams := by
  have dialectFits (dialect : Dialect) : (utf8 dialect.identifier).length < UInt64.size := by
    cases dialect <;> decide
  constructor
  · intro same
    simp only [preimage, List.append_assoc] at same
    obtain ⟨identifiers, behindDialect⟩ :=
      field_append_inj (dialectFits dialect) (dialectFits otherDialect) same
    obtain ⟨texts, behindText⟩ := field_append_inj fits.sql otherFits.sql behindDialect
    obtain ⟨counts, values⟩ := List.append_inj behindText rfl
    have count := Sha256.bytesOfUInt64_ofNat_inj fits.count otherFits.count counts
    refine ⟨?_, utf8_injective texts,
      sameKey_of_flatMap_eq fits.values otherFits.values count values⟩
    have identifier := utf8_injective identifiers
    cases dialect <;> cases otherDialect <;> first | rfl | contradiction
  · rintro ⟨rfl, rfl, values⟩
    rw [preimage, preimage, flatMap_valueFields_eq values, values.length_eq]

/-- The hashed bytes can be read in only one way: they are the same exactly for the same
dialect, the same text and values that mean the same one by one. So statements with one
fingerprint are the same, unless their bytes are a collision or texts of JSON do not tell
JSON values apart. -/
theorem preimage_unambiguous (fits : Fits sql params) (otherFits : Fits otherSql otherParams) :
    (preimage dialect sql params = preimage otherDialect otherSql otherParams ↔
      dialect = otherDialect ∧ sql = otherSql ∧ List.Forall₂ Value.SameKey params otherParams) ∧
    (of dialect sql params = of otherDialect otherSql otherParams →
      ¬Collide (preimage dialect sql params) (preimage otherDialect otherSql otherParams) →
      JsonSeparates params otherParams →
      dialect = otherDialect ∧ sql = otherSql ∧ params = otherParams) := by
  refine ⟨preimage_eq_iff fits otherFits, fun sameKey noCollision separates => ?_⟩
  have sameHash := Literal.hex_injective (congrArg Fingerprint.hex sameKey)
  have same : preimage dialect sql params = preimage otherDialect otherSql otherParams :=
    not_not.1 fun differ => noCollision ⟨differ, sameHash⟩
  obtain ⟨sameDialect, sameText, values⟩ := (preimage_eq_iff fits otherFits).1 same
  exact ⟨sameDialect, sameText, eq_of_sameKey separates values⟩

end Statements

/-- A text with two strings, and the same text with the strings split elsewhere. -/
theorem preimage_unambiguous_split :
    Fits "q" [.string "ab", .string "c"] ∧ Fits "q" [.string "a", .string "bc"] ∧
      (preimage .mysql "q" [.string "ab", .string "c"] =
          preimage .mysql "q" [.string "a", .string "bc"] ↔
        Dialect.mysql = .mysql ∧ "q" = "q" ∧
          List.Forall₂ Value.SameKey [.string "ab", .string "c"] [.string "a", .string "bc"]) ∧
      (of .mysql "q" [.string "ab", .string "c"] = of .mysql "q" [.string "a", .string "bc"] →
        ¬Collide (preimage .mysql "q" [.string "ab", .string "c"])
          (preimage .mysql "q" [.string "a", .string "bc"]) →
        JsonSeparates [.string "ab", .string "c"] [.string "a", .string "bc"] →
        Dialect.mysql = .mysql ∧ "q" = "q" ∧
          [Value.string "ab", .string "c"] = [.string "a", .string "bc"]) := by
  have fits : Fits "q" [.string "ab", .string "c"] := ⟨by decide, by decide, by decide⟩
  have otherFits : Fits "q" [.string "a", .string "bc"] := ⟨by decide, by decide, by decide⟩
  exact ⟨fits, otherFits, preimage_unambiguous fits otherFits⟩

end Fingerprint

end NeutralSql
