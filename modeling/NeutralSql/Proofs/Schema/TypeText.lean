import NeutralSql.Proofs.Compile.Definition
import NeutralSql.Proofs.SqlText.Reference
import NeutralSql.Proofs.Text.Case

/-!
# Texts of types

A type is named by one of a fixed list of words and, possibly, by sizes in parentheses. The
grammar of these texts is given here as the texts themselves: a `TypeText` is one of them, with
its blanks, its plus signs and its leading zeros. A column has a type exactly if its text is one
of these in some letter case, and the sizes of the text then come before those beside it:
`ColumnDefinition.resolve_by_grammar`.
-/

namespace NeutralSql

open SqlText (Blanks)
open Text (asciiLower isBlank trim)

/-! ## What type texts are made of -/

namespace TypeText

/-- What a base name says about the type. -/
inductive Family where
  /-- A string, which has a length. -/
  | string
  /-- A decimal number, which has a precision and a scale. -/
  | decimal
  /-- A type without sizes. -/
  | plain (type : LogicalType)

/-- The base names. -/
def bases : List (String × Family) :=
  [("integer", .plain .integer), ("int", .plain .integer),
   ("bigint", .plain .bigInteger), ("biginteger", .plain .bigInteger),
   ("string", .string), ("varchar", .string), ("text", .plain .text),
   ("decimal", .decimal), ("numeric", .decimal),
   ("float", .plain .float), ("double", .plain .float),
   ("boolean", .plain .boolean), ("bool", .plain .boolean),
   ("date", .plain .date), ("datetime", .plain .dateTime), ("timestamp", .plain .timestamp),
   ("binary", .plain .binary), ("blob", .plain .binary),
   ("json", .plain .json), ("uuid", .plain .uuid)]

theorem isBlank_of_mem_spaces (count : Nat) :
    ∀ c ∈ List.replicate count ' ', isBlank c = true := by
  intro c listed
  rw [List.eq_of_mem_replicate listed]
  rfl

/-- So many spaces. -/
def spaces (count : Nat) : Blanks :=
  ⟨List.replicate count ' ', isBlank_of_mem_spaces count⟩

@[simp]
theorem text_spaces (count : Nat) : (spaces count).text = List.replicate count ' ' :=
  rfl

/-- A size: decimal digits for a number of 32 bits, possibly behind a plus sign, with blanks
around them. -/
structure Argument where
  before : Blanks
  hasPlus : Bool
  digits : List Char
  someDigit : digits ≠ []
  areDigits : ∀ c ∈ digits, c.isDigit = true
  small : Nat.ofDigitChars 10 digits 0 < 2 ^ 32
  after : Blanks

/-- Sizes in parentheses, at least one, with blanks in front. -/
structure Arguments where
  gap : Blanks
  first : Argument
  others : List Argument

end TypeText

/-- A type text in lower case that begins and ends with no blank. -/
structure TypeText where
  base : String × TypeText.Family
  isBase : base ∈ TypeText.bases
  arguments? : Option TypeText.Arguments

namespace TypeText

/-! ## How they are written and what they denote -/

def Argument.text (argument : Argument) : List Char :=
  argument.before.text ++ ((if argument.hasPlus then ['+'] else []) ++ argument.digits) ++
    argument.after.text

/-- The number that the digits denote. -/
def Argument.size (argument : Argument) : UInt32 :=
  UInt32.ofNat (Nat.ofDigitChars 10 argument.digits 0)

def Arguments.all (arguments : Arguments) : List Argument :=
  arguments.first :: arguments.others

def Arguments.text (arguments : Arguments) : List Char :=
  arguments.gap.text ++ '(' ::
    ([','].intercalate (arguments.all.map Argument.text) ++ [')'])

def letters (text : TypeText) : List Char :=
  text.base.1.toList ++ text.arguments?.elim [] Arguments.text

/-- The sizes in the text, in order. -/
def sizes (text : TypeText) : List UInt32 :=
  text.arguments?.elim [] fun arguments => arguments.all.map Argument.size

/-- The type that a text denotes, given the sizes beside it: a size in the text comes first, then
the one beside it, and then the one that is taken where there is none. -/
def type (text : TypeText) (beside : TypeSizes) : LogicalType :=
  match text.base.2 with
  | .string => .string ((text.sizes[0]?.or beside.length).getD 255)
  | .decimal =>
    .decimal ((text.sizes[0]?.or beside.precision).getD 10)
      ((text.sizes[1]?.or beside.scale).getD 2)
  | .plain type => type

/-- The text is spelled in this way: in some letter case and with blanks around it. -/
def Spells (text : TypeText) (spelled : String) : Prop :=
  ∃ (before after : Blanks) (word : List Char),
    asciiLower word = text.letters ∧ spelled.toList = before.text ++ word ++ after.text

end TypeText

/-- The text by which a type is usually named. -/
def LogicalType.usualText : LogicalType → String
  | .integer => "integer"
  | .bigInteger => "bigint"
  | .string length => sized "string" [length]
  | .text => "text"
  | .decimal precision scale => sized "decimal" [precision, scale]
  | .float => "float"
  | .boolean => "boolean"
  | .date => "date"
  | .dateTime => "datetime"
  | .timestamp => "timestamp"
  | .binary => "binary"
  | .json => "json"
  | .uuid => "uuid"

/-! ## Trimming -/

namespace Text

/-- A text that neither begins nor ends with a blank. -/
structure IsTight (text : List Char) : Prop where
  begins : ∀ c ∈ text.head?, isBlank c = false
  ends : ∀ c ∈ text.getLast?, isBlank c = false

/-- A text without blanks is tight. -/
theorem isTight_of_noBlank {text : List Char} (noBlank : ∀ c ∈ text, isBlank c = false) :
    IsTight text where
  begins c isFirst := noBlank c (List.mem_of_head? isFirst)
  ends c isLast := noBlank c (List.mem_of_getLast? isLast)

/-- Blanks are dropped from the front of a text up to a character that is none. -/
theorem dropWhile_isBlank_append (blanks : Blanks) {text : List Char}
    (begins : ∀ c ∈ text.head?, isBlank c = false) :
    (blanks.text ++ text).dropWhile isBlank = text := by
  rw [List.dropWhile_append_of_pos blanks.isBlank]
  cases text with
  | nil => rfl
  | cons c rest => exact List.dropWhile_cons_of_neg (by simp [begins c rfl])

/-- Dropping blanks from the front leaves a text that begins with none. -/
theorem exists_dropWhile_isBlank (text : List Char) :
    ∃ blanks : Blanks, text = blanks.text ++ text.dropWhile isBlank ∧
      ∀ c ∈ (text.dropWhile isBlank).head?, isBlank c = false := by
  refine ⟨⟨text.takeWhile isBlank, fun c => List.mem_takeWhile_imp⟩,
    List.takeWhile_append_dropWhile.symm, fun c isFirst => ?_⟩
  have stopped := List.head?_dropWhile_not isBlank text
  rw [isFirst] at stopped
  simpa using stopped

/-- Blanks from the end of a text to its front. -/
def reversed (blanks : Blanks) : Blanks :=
  ⟨blanks.text.reverse, fun c listed => blanks.isBlank c (List.mem_reverse.1 listed)⟩

/-- Trimming leaves a tight text, and what it takes off are the blanks around that. -/
theorem trim_eq_iff {text core : List Char} :
    trim text = core ↔
      IsTight core ∧ ∃ before after : Blanks, text = before.text ++ core ++ after.text := by
  constructor
  · rintro rfl
    obtain ⟨before, front, begins⟩ := exists_dropWhile_isBlank text
    obtain ⟨after, back, ends⟩ := exists_dropWhile_isBlank (text.dropWhile isBlank).reverse
    have inside : text.dropWhile isBlank = trim text ++ (reversed after).text := by
      rw [← List.reverse_inj, List.reverse_append]
      simpa [trim, trimWhere, reversed] using back
    refine ⟨⟨fun c isFirst => begins c ?_, fun c isLast => ends c ?_⟩, before, reversed after, ?_⟩
    · rw [inside]
      exact List.mem_head?_append_of_mem_head? isFirst
    · simpa [trim, trimWhere] using isLast
    · rw [List.append_assoc, ← inside]
      exact front
  · rintro ⟨tight, before, after, rfl⟩
    have begins : ∀ c ∈ core.reverse.head?, isBlank c = false := by
      simpa using tight.ends
    by_cases isEmpty : core = []
    · subst isEmpty
      have blank : ∀ c ∈ before.text ++ after.text, isBlank c = true :=
        List.forall_mem_append.2 ⟨before.isBlank, after.isBlank⟩
      rw [trim, trimWhere, List.append_nil, List.dropWhile_eq_nil_iff.2 blank]
      rfl
    · have first : ∀ c ∈ (core ++ after.text).head?, isBlank c = false := by
        rw [List.head?_append_of_ne_nil _ isEmpty]
        exact tight.begins
      have last := dropWhile_isBlank_append (reversed after) begins
      rw [trim, trimWhere, List.append_assoc, dropWhile_isBlank_append before first,
        List.reverse_append]
      exact List.reverse_eq_iff.2 last

/-- The case of letters does not matter for that. -/
theorem isTight_asciiLower_iff {text : List Char} : IsTight (asciiLower text) ↔ IsTight text := by
  have same (c : Char) : isBlank c.toLower = isBlank c := ignoresCase_isBlank c
  constructor
  · rintro ⟨begins, ends⟩
    refine ⟨fun c isFirst => ?_, fun c isLast => ?_⟩
    · exact same c ▸ begins c.toLower (by simp [asciiLower, Option.mem_def.1 isFirst])
    · exact same c ▸ ends c.toLower (by simp [asciiLower, Option.mem_def.1 isLast])
  · rintro ⟨begins, ends⟩
    constructor
    · simpa [asciiLower, same] using begins
    · simpa [asciiLower, same] using ends

end Text

open Text (IsTight isTight_of_noBlank trim_eq_iff)

namespace TypeName

/-! ## Sizes -/

/-- Letters and digits are no blanks. -/
theorem isBlank_of_isAlphanum {c : Char} (isAlphanum : c.isAlphanum = true) :
    isBlank c = false := by
  rw [Bool.eq_false_iff]
  intro blank
  have isWord := SqlText.isWord_of_isAlphanum isAlphanum
  rw [SqlText.isWord_of_isBlank blank] at isWord
  contradiction

/-- The value of digits is the number that they denote to the base ten. -/
theorem digitsValue_eq (digits : List Char) : digitsValue digits = Nat.ofDigitChars 10 digits 0 := by
  simp only [digitsValue, Nat.ofDigitChars, Nat.mul_comm]

/-- Which digits are a size, and which. -/
theorem size?_eq_some_iff {digits : List Char} {size : UInt32} :
    size? digits = some size ↔
      digits ≠ [] ∧ (∀ c ∈ digits, c.isDigit = true) ∧ Nat.ofDigitChars 10 digits 0 < 2 ^ 32 ∧
        UInt32.ofNat (Nat.ofDigitChars 10 digits 0) = size := by
  simp [size?, digitsValue_eq, UInt32.size, and_assoc]

/-- The sign and the digits of a size have no blanks around them. -/
theorem isTight_argument (argument : TypeText.Argument) :
    IsTight ((if argument.hasPlus then ['+'] else []) ++ argument.digits) := by
  refine isTight_of_noBlank fun c listed => ?_
  rcases List.mem_append.1 listed with isSign | isDigit
  · cases sign : argument.hasPlus <;> simp [sign] at isSign
    subst isSign
    decide
  · exact isBlank_of_isAlphanum (by simp [Char.isAlphanum, argument.areDigits c isDigit])

/-- The texts that are read as a size. -/
theorem argument?_eq_some_iff {text : List Char} {size : UInt32} :
    argument? text = some size ↔
      ∃ argument : TypeText.Argument, argument.text = text ∧ argument.size = size := by
  constructor
  · intro read
    obtain ⟨-, before, after, spelled⟩ := trim_eq_iff.1 (rfl : trim text = trim text)
    rw [argument?] at read
    split at read
    · rename_i digits trimmed
      obtain ⟨someDigit, areDigits, small, rfl⟩ := size?_eq_some_iff.1 read
      refine ⟨⟨before, true, digits, someDigit, areDigits, small, after⟩, ?_, rfl⟩
      rw [spelled, trimmed]
      rfl
    · obtain ⟨someDigit, areDigits, small, rfl⟩ := size?_eq_some_iff.1 read
      exact ⟨⟨before, false, trim text, someDigit, areDigits, small, after⟩, spelled.symm, rfl⟩
  · rintro ⟨argument, rfl, rfl⟩
    have trimmed : trim argument.text =
        (if argument.hasPlus then ['+'] else []) ++ argument.digits :=
      trim_eq_iff.2 ⟨isTight_argument argument, argument.before, argument.after, rfl⟩
    have size : size? argument.digits = some argument.size :=
      size?_eq_some_iff.2 ⟨argument.someDigit, argument.areDigits, argument.small, rfl⟩
    rw [argument?, trimmed]
    cases argument.hasPlus with
    | true => exact size
    | false =>
      -- The first digit is not taken for a plus sign.
      split
      · rename_i digits isPlus
        have plus : '+' ∈ argument.digits := by
          rw [show argument.digits = '+' :: digits from isPlus]
          exact List.mem_cons_self
        exact absurd (argument.areDigits _ plus) (by decide)
      · exact size

/-- The parts of a text between its commas. -/
theorem commaParts_eq_splitOn (text : List Char) : commaParts text = text.splitOn ',' := by
  induction text with
  | nil => rfl
  | cons c rest inductionHypothesis =>
    rw [commaParts, List.splitOn, List.splitOnP_cons_eq_if_modifyHead, ← List.splitOn,
      inductionHypothesis]
    by_cases isComma : c = ','
    · simp [isComma]
    · cases parts : rest.splitOn ',' with
      | nil => exact absurd parts (List.splitOn_ne_nil _ _)
      | cons part others => simp [isComma]

/-- The texts that are read as sizes one by one. -/
theorem mapM_argument?_eq_some_iff {parts : List (List Char)} {sizes : List UInt32} :
    parts.mapM argument? = some sizes ↔
      ∃ arguments : List TypeText.Argument,
        arguments.map TypeText.Argument.text = parts ∧
          arguments.map TypeText.Argument.size = sizes := by
  constructor
  · intro read
    induction parts generalizing sizes with
    | nil => exact ⟨[], rfl, Option.some.inj read⟩
    | cons part rest inductionHypothesis =>
      rw [List.mapM_cons] at read
      obtain ⟨size, first, read⟩ := Option.bind_eq_some_iff.1 read
      obtain ⟨others, behind, read⟩ := Option.bind_eq_some_iff.1 read
      obtain ⟨argument, rfl, rfl⟩ := argument?_eq_some_iff.1 first
      obtain ⟨arguments, rfl, rfl⟩ := inductionHypothesis behind
      exact ⟨argument :: arguments, rfl, Option.some.inj read⟩
  · rintro ⟨arguments, rfl, rfl⟩
    induction arguments with
    | nil => rfl
    | cons argument rest inductionHypothesis =>
      have first := argument?_eq_some_iff.2 ⟨argument, rfl, rfl⟩
      rw [List.map_cons, List.mapM_cons, first, inductionHypothesis]
      rfl

/-- The text in front of a closing parenthesis. -/
theorem insideParenthesis?_eq_some_iff {text inside : List Char} :
    insideParenthesis? text = some inside ↔ text = inside ++ [')'] := by
  rw [insideParenthesis?]
  constructor
  · intro found
    split at found
    · rename_i reversed closes
      obtain rfl := Option.some.inj found
      rw [← List.reverse_inj, closes, List.reverse_append, List.reverse_reverse]
      rfl
    · contradiction
  · rintro rfl
    simp

/-- No sign and no digit is a comma, nor is a blank. -/
theorem comma_not_mem (argument : TypeText.Argument) : ',' ∉ argument.text := by
  have blanks (blanks : Blanks) : ',' ∉ blanks.text := fun listed =>
    absurd (blanks.isBlank _ listed) (by decide)
  have digits : ',' ∉ argument.digits := fun listed =>
    absurd (argument.areDigits _ listed) (by decide)
  cases sign : argument.hasPlus <;>
    simp [TypeText.Argument.text, sign, blanks argument.before, blanks argument.after, digits]

/-! ## Base names -/

/-- Base names are words of small letters. -/
theorem isBase_letters {base : String × TypeText.Family} (isBase : base ∈ TypeText.bases) :
    base.1.toList ≠ [] ∧ ∀ c ∈ base.1.toList, c.isLower = true := by
  have decided : ∀ base ∈ TypeText.bases,
      base.1.toList ≠ [] ∧ (base.1.toList.all Char.isLower) = true := by
    simp only [TypeText.bases, List.forall_mem_cons]
    decide
  obtain ⟨someLetter, small⟩ := decided base isBase
  exact ⟨someLetter, List.all_eq_true.1 small⟩

/-- Base names have no blanks. -/
theorem isTight_base {base : String × TypeText.Family} (isBase : base ∈ TypeText.bases) :
    IsTight base.1.toList :=
  isTight_of_noBlank fun c listed => isBlank_of_isAlphanum <| by
    simp [Char.isAlphanum, Char.isAlpha, (isBase_letters isBase).2 c listed]

/-- Base names have no parenthesis. -/
theorem ne_parenthesis_of_mem_base {base : String × TypeText.Family}
    (isBase : base ∈ TypeText.bases) : ∀ c ∈ base.1.toList, (c != '(') = true := by
  intro c listed
  have isLower := (isBase_letters isBase).2 c listed
  rw [bne_iff_ne]
  rintro rfl
  exact absurd isLower (by decide)

/-- A base name with its sizes denotes the type of the text. -/
theorem ofTypeName?_base (text : TypeText) (beside : TypeSizes) :
    LogicalType.ofTypeName? ⟨text.base.1, text.sizes⟩ beside = some (text.type beside) := by
  obtain ⟨base, isBase, arguments?⟩ := text
  simp only [TypeText.bases, List.mem_cons, List.not_mem_nil, or_false] at isBase
  rcases isBase with rfl | rfl | rfl | rfl | rfl | rfl | rfl | rfl | rfl | rfl | rfl | rfl | rfl |
    rfl | rfl | rfl | rfl | rfl | rfl | rfl <;> rfl

/-- Only base names denote types. -/
theorem exists_base_of_ofTypeName? {name : TypeName} {beside : TypeSizes} {type : LogicalType}
    (known : LogicalType.ofTypeName? name beside = some type) :
    ∃ family, (name.base, family) ∈ TypeText.bases := by
  have listed : name.base ∈ TypeText.bases.map Prod.fst := by
    rw [LogicalType.ofTypeName?] at known
    split at known <;> simp_all [TypeText.bases]
  obtain ⟨⟨base, family⟩, isBase, same⟩ := List.mem_map.1 listed
  exact ⟨family, same ▸ isBase⟩

/-! ## Taking a text apart -/

/-- A text with sizes, up to its parenthesis and behind it. -/
theorem letters_of_arguments {base : String × TypeText.Family} (isBase : base ∈ TypeText.bases)
    (arguments : TypeText.Arguments) :
    TypeText.letters ⟨base, isBase, some arguments⟩ =
      (base.1.toList ++ arguments.gap.text) ++ '(' ::
        ([','].intercalate (arguments.all.map TypeText.Argument.text) ++ [')']) := by
  simp [TypeText.letters, TypeText.Arguments.text]

/-- No parenthesis stands in front of the sizes. -/
theorem ne_parenthesis_of_mem {base : String × TypeText.Family} (isBase : base ∈ TypeText.bases)
    (gap : Blanks) : ∀ c ∈ base.1.toList ++ gap.text, (c != '(') = true := by
  intro c listed
  rcases List.mem_append.1 listed with inBase | inGap
  · exact ne_parenthesis_of_mem_base isBase c inBase
  · rw [bne_iff_ne]
    rintro rfl
    exact absurd (gap.isBlank _ inGap) (by decide)

/-- Every text that is taken apart, and whose base name is listed, is a type text. -/
theorem exists_of_parse? {text : String} {name : TypeName} {family : TypeText.Family}
    (isBase : (name.base, family) ∈ TypeText.bases) (parsed : parse? text = some name) :
    ∃ spelled : TypeText, spelled.letters = asciiLower (trim text.toList) ∧
      spelled.base.1 = name.base ∧ spelled.sizes = name.arguments := by
  have tight : IsTight (asciiLower (trim text.toList)) :=
    Text.isTight_asciiLower_iff.2 (trim_eq_iff.1 rfl).1
  rw [parse?, Text.keywordForm, String.toList_ofList] at parsed
  generalize asciiLower (trim text.toList) = form at parsed tight ⊢
  simp only at parsed
  split at parsed
  · obtain rfl := Option.some.inj parsed
    exact ⟨⟨(_, family), isBase, none⟩, by simp [TypeText.letters], rfl, rfl⟩
  · rename_i c rest opens
    have parts : form = form.takeWhile (· != '(') ++ c :: rest := by
      rw [← opens, List.takeWhile_append_dropWhile]
    obtain rfl : c = '(' := by
      have stopped := List.head?_dropWhile_not (fun c => c != '(') form
      simpa [opens] using stopped
    obtain ⟨inside, closed, parsed⟩ := Option.bind_eq_some_iff.1 parsed
    obtain ⟨sizes, read, parsed⟩ := Option.bind_eq_some_iff.1 parsed
    obtain rfl := Option.some.inj parsed
    obtain rfl := insideParenthesis?_eq_some_iff.1 closed
    rw [commaParts_eq_splitOn] at read
    obtain ⟨arguments, texts, rfl⟩ := mapM_argument?_eq_some_iff.1 read
    obtain ⟨-, before, gap, front⟩ :=
      trim_eq_iff.1 (rfl : trim (form.takeWhile (· != '(')) = _)
    -- The text begins with no blank, and so the base name is all that stands before the gap.
    have nothing : before.text = [] := by
      cases blanks : before.text with
      | nil => rfl
      | cons blank others =>
        have isFirst : blank ∈ form.head? := by
          rw [parts, front, blanks]
          rfl
        have isBlank := before.isBlank blank (blanks ▸ List.mem_cons_self)
        rw [tight.begins blank isFirst] at isBlank
        contradiction
    cases arguments with
    | nil => exact absurd texts.symm (List.splitOn_ne_nil _ _)
    | cons first others =>
      refine ⟨⟨(_, family), isBase, some ⟨gap, first, others⟩⟩, ?_, rfl, rfl⟩
      have between : [','].intercalate ((first :: others).map TypeText.Argument.text) = inside := by
        rw [texts, List.intercalate_splitOn]
      rw [letters_of_arguments, String.toList_ofList, TypeText.Arguments.all, between]
      rw [nothing, List.nil_append] at front
      rw [← front]
      exact parts.symm

/-- Every type text is taken apart, in whatever letter case, into its base name and its sizes. -/
theorem parse?_of_letters {text : String} {spelled : TypeText}
    (letters : spelled.letters = asciiLower (trim text.toList)) :
    parse? text = some ⟨spelled.base.1, spelled.sizes⟩ := by
  obtain ⟨base, isBase, arguments?⟩ := spelled
  rw [parse?, Text.keywordForm, String.toList_ofList, ← letters]
  cases arguments? with
  | none =>
    have noParenthesis := List.dropWhile_eq_nil_iff.2 (ne_parenthesis_of_mem_base isBase)
    simp [TypeText.letters, TypeText.sizes, noParenthesis]
  | some arguments =>
    have front := ne_parenthesis_of_mem isBase arguments.gap
    have name : trim (base.1.toList ++ arguments.gap.text) = base.1.toList :=
      trim_eq_iff.2 ⟨isTight_base isBase, TypeText.spaces 0, arguments.gap, rfl⟩
    have sizes : (commaParts ([','].intercalate
        (arguments.all.map TypeText.Argument.text))).mapM argument? =
          some (arguments.all.map TypeText.Argument.size) := by
      rw [commaParts_eq_splitOn, List.splitOn_intercalate]
      · exact mapM_argument?_eq_some_iff.2 ⟨arguments.all, rfl, rfl⟩
      · simpa using fun argument _ => comma_not_mem argument
      · simp [TypeText.Arguments.all]
    rw [letters_of_arguments, List.dropWhile_append_of_pos front, List.takeWhile_append_of_pos front]
    simp [insideParenthesis?_eq_some_iff.2 rfl, sizes, name, TypeText.sizes]

end TypeName

open NeutralSql.TypeName (exists_base_of_ofTypeName? exists_of_parse? ofTypeName?_base parse?_of_letters)

/-! ## Letter case and outer blanks -/

namespace TypeText

/-- A type text begins with a base name, and it ends with that or with a parenthesis. -/
theorem isTight_letters (text : TypeText) : IsTight text.letters := by
  obtain ⟨base, isBase, arguments?⟩ := text
  have tight := TypeName.isTight_base isBase
  cases arguments? with
  | none => simpa [letters] using tight
  | some arguments =>
    have someLetter := (TypeName.isBase_letters isBase).1
    refine ⟨?_, ?_⟩
    · rw [letters, List.head?_append_of_ne_nil _ someLetter]
      exact tight.begins
    · rw [TypeName.letters_of_arguments, ← List.cons_append, ← List.append_assoc,
        List.getLast?_concat]
      rintro c ⟨⟩
      decide

/-- A text is spelled in a way exactly if that is what is left of it when it is trimmed and
written in lower case. -/
theorem spells_iff {text : TypeText} {spelled : String} :
    text.Spells spelled ↔ text.letters = asciiLower (trim spelled.toList) := by
  constructor
  · rintro ⟨before, after, word, lower, spelling⟩
    have tight : IsTight word := Text.isTight_asciiLower_iff.1 (lower ▸ text.isTight_letters)
    rw [trim_eq_iff.2 ⟨tight, before, after, spelling⟩, lower]
  · intro same
    obtain ⟨-, before, after, spelling⟩ := trim_eq_iff.1 (rfl : trim spelled.toList = _)
    exact ⟨before, after, _, same.symm, spelling⟩

/-- The name of strings stands for them alone. -/
theorem type_of_string {text : TypeText} (isString : text.base.1 = "string")
    (beside : TypeSizes) :
    text.type beside = .string ((text.sizes[0]?.or beside.length).getD 255) := by
  obtain ⟨⟨base, family⟩, isBase, arguments?⟩ := text
  obtain rfl : base = "string" := isString
  obtain rfl : family = .string := by simpa [bases] using isBase
  rfl

/-- The name of decimal numbers stands for them alone. -/
theorem type_of_decimal {text : TypeText} (isDecimal : text.base.1 = "decimal")
    (beside : TypeSizes) :
    text.type beside =
      .decimal ((text.sizes[0]?.or beside.precision).getD 10)
        ((text.sizes[1]?.or beside.scale).getD 2) := by
  obtain ⟨⟨base, family⟩, isBase, arguments?⟩ := text
  obtain rfl : base = "decimal" := isDecimal
  obtain rfl : family = .decimal := by simpa [bases] using isBase
  rfl

/-! ## Usual texts -/

/-- A number of 32 bits in decimal digits. -/
def Argument.plain (size : UInt32) : Argument where
  before := spaces 0
  hasPlus := false
  digits := Nat.toDigits 10 size.toNat
  someDigit := Nat.toDigits_ne_nil
  areDigits _ isDigit := Nat.isDigit_of_mem_toDigits (by decide) (by decide) isDigit
  small := by
    rw [Nat.ofDigitChars_toDigits (by decide) (by decide)]
    exact size.toNat_lt
  after := spaces 0

theorem Argument.text_plain (size : UInt32) :
    (Argument.plain size).text = Nat.toDigits 10 size.toNat := by
  simp [text, plain]

theorem Argument.size_plain (size : UInt32) : (Argument.plain size).size = size := by
  simp [Argument.size, plain, Nat.ofDigitChars_toDigits]

/-- Digits have no letter case. -/
theorem map_toLower_toDigits (number : Nat) :
    (Nat.toDigits 10 number).map Char.toLower = Nat.toDigits 10 number := by
  have same : ∀ c ∈ Nat.toDigits 10 number, c.toLower = id c := by
    intro c listed
    have isDigit := Nat.isDigit_of_mem_toDigits (by decide) (by decide) listed
    refine Char.toLower_eq_of_not_isUpper fun isUpper => ?_
    simp only [Char.isDigit, Char.isUpper, Bool.and_eq_true, decide_eq_true_eq,
      UInt32.le_iff_toNat_le] at isDigit isUpper
    exact absurd (isUpper.1.trans isDigit.2) (by decide)
  rw [List.map_congr_left same, List.map_id]

/-- The usual text of a type is one of its texts. -/
theorem exists_spells_usualText (type : LogicalType) :
    ∃ text : TypeText, text.Spells type.usualText ∧ ∀ beside, text.type beside = type := by
  have spells {text : TypeText} {usual : String} (same : usual.toList = text.letters)
      (lower : asciiLower usual.toList = usual.toList) : text.Spells usual :=
    ⟨spaces 0, spaces 0, usual.toList, lower.trans same, by simp⟩
  have plain {base : String} {type : LogicalType} (isBase : (base, .plain type) ∈ bases)
      (lower : asciiLower base.toList = base.toList) :
      ∃ text : TypeText, text.Spells base ∧ ∀ beside, text.type beside = type :=
    ⟨⟨_, isBase, none⟩, spells (by simp [letters]) lower, fun _ => rfl⟩
  cases type with
  | string length =>
    refine ⟨⟨("string", .string), by simp [bases],
      some ⟨spaces 0, .plain length, []⟩⟩, spells ?_ ?_, fun beside => ?_⟩
    · simp [LogicalType.usualText, LogicalType.sized, letters, Arguments.text, Arguments.all,
        Argument.text_plain, Nat.toList_repr]
    · simp [LogicalType.usualText, LogicalType.sized, asciiLower, map_toLower_toDigits,
        Nat.toList_repr]
    · simp [type, sizes, Arguments.all, Argument.size_plain]
  | decimal precision scale =>
    refine ⟨⟨("decimal", .decimal), by simp [bases],
      some ⟨spaces 0, .plain precision, [.plain scale]⟩⟩, spells ?_ ?_, fun beside => ?_⟩
    · simp [LogicalType.usualText, LogicalType.sized, letters, Arguments.text, Arguments.all,
        Argument.text_plain, Nat.toList_repr]
    · simp [LogicalType.usualText, LogicalType.sized, asciiLower, map_toLower_toDigits,
        Nat.toList_repr]
    · simp [type, sizes, Arguments.all, Argument.size_plain]
  | integer | bigInteger | text | float | boolean | date | dateTime | timestamp | binary | json
  | uuid => exact plain (by simp [bases, LogicalType.usualText]) (by decide)

end TypeText

/-! ## Columns -/

namespace ColumnDefinition

/-- A column has the type of its text, given the sizes beside it. -/
theorem logicalType?_of_letters {column : ColumnDefinition} {text : TypeText}
    (letters : text.letters = asciiLower (trim column.type.toList)) :
    column.logicalType? =
      some (text.type ⟨column.length, column.precision, column.scale⟩) := by
  rw [logicalType?, LogicalType.resolve?, parse?_of_letters letters, Option.bind_some,
    ofTypeName?_base]

/-- A column that has a type has a type text. -/
theorem exists_letters_of_logicalType? {column : ColumnDefinition} {type : LogicalType}
    (known : column.logicalType? = some type) :
    ∃ text : TypeText, text.letters = asciiLower (trim column.type.toList) := by
  rw [logicalType?, LogicalType.resolve?] at known
  obtain ⟨name, parsed, known⟩ := Option.bind_eq_some_iff.1 known
  obtain ⟨family, isBase⟩ := exists_base_of_ofTypeName? known
  obtain ⟨text, letters, -⟩ := exists_of_parse? isBase parsed
  exact ⟨text, letters⟩

/-- A column has a type exactly if its text, trimmed and in lower case, is a type text: a listed
name, and possibly blanks and sizes in parentheses. The sizes in the text then come before those
beside it, and these before the usual ones. Any other text is an error that tells the name of the
column and the text as it was given. So a string of a given length, and a decimal number of a
given precision and scale, may be spelled in any letter case and with any blanks; and every type
has a text. -/
theorem resolve_by_grammar :
    (∀ column : ColumnDefinition,
      ((∃ type, column.resolve = .ok type) ↔
        ∃ text : TypeText, text.letters = asciiLower (trim column.type.toList)) ∧
      (∀ text : TypeText, text.letters = asciiLower (trim column.type.toList) →
        column.resolve = .ok (text.type ⟨column.length, column.precision, column.scale⟩)) ∧
      ∀ error, column.resolve = .error error → error = .unknownType column.name column.type) ∧
    (∀ (column : ColumnDefinition) (text : TypeText), text.Spells column.type →
      (∀ length, text.base.1 = "string" → text.sizes = [length] →
        column.resolve = .ok (.string length)) ∧
      ∀ precision scale, text.base.1 = "decimal" → text.sizes = [precision, scale] →
        column.resolve = .ok (.decimal precision scale)) ∧
    ∀ (column : ColumnDefinition) (type : LogicalType), column.type = type.usualText →
      column.resolve = .ok type := by
  have resolved {column : ColumnDefinition} {text : TypeText}
      (letters : text.letters = asciiLower (trim column.type.toList)) :
      column.resolve = .ok (text.type ⟨column.length, column.precision, column.scale⟩) :=
    resolve_eq_ok_iff.2 (logicalType?_of_letters letters)
  refine ⟨fun column => ⟨⟨?_, ?_⟩, fun text => resolved, ?_⟩, fun column text spells => ⟨?_, ?_⟩,
    fun column type usual => ?_⟩
  · rintro ⟨type, known⟩
    exact exists_letters_of_logicalType? (resolve_eq_ok_iff.1 known)
  · rintro ⟨text, letters⟩
    exact ⟨_, resolved letters⟩
  · intro error rejected
    exact (resolve_eq_error_iff.1 rejected).2
  · intro length isString sizes
    rw [resolved (TypeText.spells_iff.1 spells), TypeText.type_of_string isString, sizes]
    rfl
  · intro precision scale isDecimal sizes
    rw [resolved (TypeText.spells_iff.1 spells), TypeText.type_of_decimal isDecimal, sizes]
    rfl
  · obtain ⟨text, spells, same⟩ := TypeText.exists_spells_usualText type
    rw [resolved (TypeText.spells_iff.1 (usual ▸ spells)), same]

/-- A price that has a precision of its own beside its text. -/
def samplePrice : ColumnDefinition :=
  (plain "price" "\tDecimal (+012, 4) ").withPrecision 9 3

/-- The text of that price. -/
def samplePriceText : TypeText where
  base := ("decimal", .decimal)
  isBase := by simp [TypeText.bases]
  arguments? := some
    { gap := TypeText.spaces 1
      first := ⟨TypeText.spaces 0, true, ['0', '1', '2'], by simp, List.all_eq_true.1 rfl,
        by decide, TypeText.spaces 0⟩
      others := [⟨TypeText.spaces 1, false, ['4'], by simp, List.all_eq_true.1 rfl,
        by decide, TypeText.spaces 0⟩] }

/-- The sizes of the text are those of the price, and a text with an empty size is rejected. -/
theorem resolve_by_grammar_price :
    samplePriceText.Spells samplePrice.type ∧ samplePriceText.sizes = [12, 4] ∧
      samplePrice.resolve = .ok (.decimal 12 4) ∧
      (plain "name" "string(32,)").resolve = .error (.unknownType "name" "string(32,)") := by
  have spells : samplePriceText.Spells samplePrice.type :=
    ⟨⟨['\t'], List.all_eq_true.1 rfl⟩, TypeText.spaces 1,
      "Decimal (+012, 4)".toList, by decide, by decide⟩
  have sizes : samplePriceText.sizes = [12, 4] := by decide
  refine ⟨spells, sizes, (resolve_by_grammar.2.1 _ _ spells).2 12 4 rfl sizes, ?_⟩
  have unknown : (plain "name" "string(32,)").logicalType? = none := by decide
  cases outcome : (plain "name" "string(32,)").resolve with
  | ok type =>
    rw [resolve_eq_ok_iff.1 outcome] at unknown
    contradiction
  | error error => exact congrArg Except.error ((resolve_by_grammar.1 _).2.2 error outcome)

end ColumnDefinition

end NeutralSql
