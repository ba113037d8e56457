import NeutralSql.Json

/-!
# Tokens of JSON text

The grammar of tokens is strict: four blank characters, no leading zeros, no raw
control characters in strings. Reading a token checks its grammar only; whether it
denotes a value is decided afterwards, because a number may be out of range and an
escape may name half of a surrogate pair.
-/

namespace NeutralSql.Json

/-- The digits of a number as written. -/
structure Numeral where
  isNegative : Bool
  whole : List Char
  /-- The digits behind the point, where there is one. -/
  fraction : Option (List Char)
  /-- Whether the exponent is negative, and its digits. -/
  exponent : Option (Bool × List Char)
  deriving DecidableEq

/-- A piece of a string: a character as it stands, or an escaped code unit. -/
inductive StringPiece where
  | char (value : Char)
  | unit (value : Nat)
  deriving DecidableEq

/-- A token. -/
inductive Token where
  | openArray
  | closeArray
  | openObject
  | closeObject
  | colon
  | comma
  | null
  | bool (value : Bool)
  | number (numeral : Numeral)
  | string (pieces : List StringPiece)
  deriving DecidableEq

/-- The four characters that may stand between tokens. -/
def isSpace (c : Char) : Bool :=
  c = ' ' || c = '\t' || c = '\n' || c = '\r'

/-- The value of a hexadecimal digit. -/
def hexValue? (c : Char) : Option Nat :=
  if '0' ≤ c ∧ c ≤ '9' then some (c.toNat - '0'.toNat)
  else if 'a' ≤ c ∧ c ≤ 'f' then some (c.toNat - 'a'.toNat + 10)
  else if 'A' ≤ c ∧ c ≤ 'F' then some (c.toNat - 'A'.toNat + 10)
  else none

/-- The piece that a one-letter escape stands for. -/
def shortEscape? (c : Char) : Option Char :=
  if c = '"' ∨ c = '\\' ∨ c = '/' then some c
  else if c = 'b' then some '\x08'
  else if c = 'f' then some '\x0c'
  else if c = 'n' then some '\n'
  else if c = 'r' then some '\r'
  else if c = 't' then some '\t'
  else none

/-- Read the rest of a string whose opening quote has been read, up to its closing
quote. The pieces read so far come in reverse. -/
def stringTail (pieces : List StringPiece) : List Char → Option (List StringPiece × List Char)
  | [] => none
  | '"' :: rest => some (pieces.reverse, rest)
  | '\\' :: 'u' :: a :: b :: c :: d :: rest => do
    let unit := (((← hexValue? a) * 16 + (← hexValue? b)) * 16 + (← hexValue? c)) * 16
    stringTail (.unit (unit + (← hexValue? d)) :: pieces) rest
  | '\\' :: c :: rest => do stringTail (.char (← shortEscape? c) :: pieces) rest
  | c :: rest => if c.toNat < 0x20 then none else stringTail (.char c :: pieces) rest

/-- The digits at the front, at least one, and what follows them. -/
def digits? (text : List Char) : Option (List Char × List Char) :=
  let digits := text.takeWhile Char.isDigit
  if digits.isEmpty then none else some (digits, text.dropWhile Char.isDigit)

/-- The whole part of a number: a zero alone, or digits without a leading zero. -/
def wholePart? : List Char → Option (List Char × List Char)
  | '0' :: rest => some (['0'], rest)
  | text => digits? text

/-- The part behind a point, if a point follows. -/
def fractionPart? : List Char → Option (Option (List Char) × List Char)
  | '.' :: rest => (digits? rest).map fun (digits, rest) => (some digits, rest)
  | text => some (none, text)

/-- The sign of an exponent and what follows it. -/
def exponentSign : List Char → Bool × List Char
  | '-' :: rest => (true, rest)
  | '+' :: rest => (false, rest)
  | text => (false, text)

/-- The exponent, if the letter of one follows. -/
def exponentPart? : List Char → Option (Option (Bool × List Char) × List Char)
  | c :: rest =>
    if c = 'e' ∨ c = 'E' then
      let (isNegative, rest) := exponentSign rest
      (digits? rest).map fun (digits, rest) => (some (isNegative, digits), rest)
    else some (none, c :: rest)
  | [] => some (none, [])

/-- A number without its sign. -/
def numeral? (isNegative : Bool) (text : List Char) : Option (Numeral × List Char) := do
  let (whole, rest) ← wholePart? text
  let (fraction, rest) ← fractionPart? rest
  let (exponent, rest) ← exponentPart? rest
  return (⟨isNegative, whole, fraction, exponent⟩, rest)

/-- The token at the front of a text that begins with no space. -/
def token? : List Char → Option (Token × List Char)
  | '[' :: rest => some (.openArray, rest)
  | ']' :: rest => some (.closeArray, rest)
  | '\x7b' :: rest => some (.openObject, rest)
  | '\x7d' :: rest => some (.closeObject, rest)
  | ':' :: rest => some (.colon, rest)
  | ',' :: rest => some (.comma, rest)
  | 'n' :: 'u' :: 'l' :: 'l' :: rest => some (.null, rest)
  | 't' :: 'r' :: 'u' :: 'e' :: rest => some (.bool true, rest)
  | 'f' :: 'a' :: 'l' :: 's' :: 'e' :: rest => some (.bool false, rest)
  | '"' :: rest => (stringTail [] rest).map fun (pieces, rest) => (.string pieces, rest)
  | '-' :: rest => (numeral? true rest).map fun (numeral, rest) => (.number numeral, rest)
  | text => (numeral? false text).map fun (numeral, rest) => (.number numeral, rest)

/-- The tokens of a text, none of them longer than `fuel` characters of it in total;
the tokens read so far come in reverse. -/
def tokensWithin : (fuel : Nat) → List Token → List Char → Option (List Token)
  | 0, _, _ => none
  | fuel + 1, tokens, text =>
    match text.dropWhile isSpace with
    | [] => some tokens.reverse
    | rest =>
      match token? rest with
      | none => none
      | some (token, rest) => tokensWithin fuel (token :: tokens) rest

/-- The tokens of a text, or nothing where some part of it is no token. Every token
takes a character, so that the length of the text bounds their number. -/
def tokens? (text : String) : Option (List Token) :=
  tokensWithin (text.length + 1) [] text.toList

end NeutralSql.Json
