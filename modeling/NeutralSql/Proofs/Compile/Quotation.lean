import NeutralSql.Compile.Literal
import NeutralSql.Proofs.Json.Printer

/-!
# Reading literals back

A string literal stands in single quotes, and a quote inside is doubled. That is read back by a
dialect in which a doubled quote stands for one and nothing else is special. In a dialect in which
a backslash and the character behind it stand for something else, a backslash in the string is
read as the beginning of an escape: the string comes back changed, and if the escape takes a quote
the literal does not end where it should. `Literal.read?_ofValue_mysql_iff` says when it does.
-/

namespace NeutralSql.Literal

/-- How a dialect reads what stands in single quotes: which characters begin an escape, and what
the character behind such a one stands for. A quote begins none. -/
structure QuoteRule where
  escape? : Char → Option (Char → List Char)
  sparesQuote : escape? '\'' = none

namespace QuoteRule

/-- A backslash begins an escape. -/
def backslash (stands : Char → List Char) : QuoteRule where
  escape? c := if c = '\\' then some stands else none
  sparesQuote := rfl

/-- A character read in front of others. -/
def before (content : List Char) : List Char × List Char → List Char × List Char :=
  Prod.map (content ++ ·) id

/-- The content of a literal whose opening quote has been read, and the text behind its closing
quote. A doubled quote stands for one. -/
def content? (rule : QuoteRule) : List Char → Option (List Char × List Char)
  | [] => none
  | [c] => if c = '\'' then some ([], []) else none
  | c :: next :: rest =>
    match rule.escape? c with
    | some stands => (rule.content? rest).map (before (stands next))
    | none =>
      if c = '\'' then
        if next = '\'' then (rule.content? rest).map (before ['\''])
        else some ([], next :: rest)
      else (rule.content? (next :: rest)).map (before [c])

/-- The content of the literal at the front of a text, and the text behind it. -/
def read? (rule : QuoteRule) : List Char → Option (List Char × List Char)
  | '\'' :: rest => rule.content? rest
  | _ => none

/-- What a text stands for by its escapes alone. An escape that takes a quote, or has nothing to
take, leaves it without a meaning. -/
def unescape? (rule : QuoteRule) : List Char → Option (List Char)
  | [] => some []
  | c :: rest =>
    match rule.escape? c, rest with
    | none, rest => (rule.unescape? rest).map (c :: ·)
    | some _, [] => none
    | some stands, next :: rest =>
      if next = '\'' then none else (rule.unescape? rest).map (stands next ++ ·)

/-! ## Contents one step at a time -/

section Steps

variable {rule : QuoteRule} {c next : Char} {rest : List Char}

theorem content?_escape {stands : Char → List Char} (escapes : rule.escape? c = some stands) :
    rule.content? (c :: next :: rest) = (rule.content? rest).map (before (stands next)) := by
  rw [content?, escapes]

theorem content?_doubled :
    rule.content? ('\'' :: '\'' :: rest) = (rule.content? rest).map (before ['\'']) := by
  rw [content?, rule.sparesQuote]
  rfl

theorem content?_closing (apart : ∀ c ∈ rest.head?, c ≠ '\'') :
    rule.content? ('\'' :: rest) = some ([], rest) := by
  cases rest with
  | nil => rfl
  | cons next rest =>
    have other : next ≠ '\'' := apart next rfl
    rw [content?, rule.sparesQuote]
    simp [other]

theorem content?_plain (plain : rule.escape? c = none) (other : c ≠ '\'') :
    rule.content? (c :: rest) = (rule.content? rest).map (before [c]) := by
  cases rest with
  | nil => simp [content?, other]
  | cons next rest =>
    rw [content?, plain]
    simp [other]

theorem unescape?_plain (plain : rule.escape? c = none) :
    rule.unescape? (c :: rest) = (rule.unescape? rest).map (c :: ·) := by
  rw [unescape?]
  exact plain

theorem unescape?_escape {stands : Char → List Char} (escapes : rule.escape? c = some stands)
    (other : next ≠ '\'') :
    rule.unescape? (c :: next :: rest) = (rule.unescape? rest).map (stands next ++ ·) := by
  simp [unescape?, escapes, other]

end Steps

theorem map_before_eq_some_iff {read : Option (List Char × List Char)}
    {front content left : List Char} :
    read.map (before front) = some (content, left) ↔
      ∃ inner, read = some (inner, left) ∧ front ++ inner = content := by
  constructor
  · intro found
    obtain ⟨⟨inner, behind⟩, read, same⟩ := Option.map_eq_some_iff.1 found
    obtain ⟨content, rfl⟩ := Prod.mk.inj same
    exact ⟨inner, read, content⟩
  · rintro ⟨inner, rfl, rfl⟩
    rfl

/-- A literal reaches at least to its closing quote. -/
theorem length_of_content? {rule : QuoteRule} {text content left : List Char}
    (read : rule.content? text = some (content, left)) : left.length < text.length := by
  fun_induction content? rule text generalizing content left with
  | case1 | case3 => contradiction
  | case2 =>
    obtain ⟨-, rfl⟩ := Prod.mk.inj (Option.some.inj read)
    exact Nat.one_pos
  | case4 c next rest stands escapes inductionHypothesis =>
    obtain ⟨inner, read, -⟩ := map_before_eq_some_iff.1 read
    have shorter := inductionHypothesis read
    simp only [List.length_cons]
    omega
  | case5 rest plain inductionHypothesis =>
    obtain ⟨inner, read, -⟩ := map_before_eq_some_iff.1 read
    have shorter := inductionHypothesis read
    simp only [List.length_cons]
    omega
  | case6 next rest other plain =>
    obtain ⟨-, rfl⟩ := Prod.mk.inj (Option.some.inj read)
    exact Nat.lt_succ_self _
  | case7 c next rest plain other inductionHypothesis =>
    obtain ⟨inner, read, -⟩ := map_before_eq_some_iff.1 read
    exact Nat.lt_trans (inductionHypothesis read) (Nat.lt_succ_self _)

/-! ## Strings between their quotes -/

section Strings

variable {rule : QuoteRule} {behind : List Char}

theorem doubleQuotes_cons_of_ne {c : Char} (other : c ≠ '\'') (text : List Char) :
    doubleQuotes (c :: text) = c :: doubleQuotes text := by
  simp [doubleQuotes, other]

theorem doubleQuotes_quote_cons (text : List Char) :
    doubleQuotes ('\'' :: text) = '\'' :: '\'' :: doubleQuotes text := by
  simp [doubleQuotes]

/-- A character that begins an escape is no quote. -/
theorem ne_quote_of_escape {c : Char} {stands : Char → List Char}
    (escapes : rule.escape? c = some stands) : c ≠ '\'' := by
  rintro rfl
  rw [rule.sparesQuote] at escapes
  contradiction

/-- A character that begins no escape is read as itself, a quote from its two. -/
theorem content?_doubleQuotes_cons {c : Char} (plain : rule.escape? c = none) (text : List Char) :
    rule.content? (doubleQuotes (c :: text) ++ '\'' :: behind) =
      (rule.content? (doubleQuotes text ++ '\'' :: behind)).map (before [c]) := by
  by_cases isQuote : c = '\''
  · rw [isQuote, doubleQuotes_quote_cons]
    exact content?_doubled
  · rw [doubleQuotes_cons_of_ne isQuote]
    exact content?_plain plain isQuote

/-- Where reading is one quote behind, it does not end where the string does: either some
character of the string comes to stand outside, or the closing quote comes to stand inside. -/
theorem left_ne_of_behind_quote {text content left : List Char}
    (read : rule.content? ('\'' :: (doubleQuotes text ++ '\'' :: behind)) = some (content, left)) :
    left ≠ behind := by
  induction text generalizing content with
  | nil =>
    rw [doubleQuotes, List.flatMap_nil, List.nil_append, content?_doubled] at read
    obtain ⟨inner, read, -⟩ := map_before_eq_some_iff.1 read
    rintro rfl
    exact Nat.lt_irrefl _ (length_of_content? read)
  | cons c text inductionHypothesis =>
    by_cases isQuote : c = '\''
    · rw [isQuote, doubleQuotes_quote_cons, List.cons_append, List.cons_append,
        content?_doubled] at read
      obtain ⟨inner, read, -⟩ := map_before_eq_some_iff.1 read
      exact inductionHypothesis read
    · rw [doubleQuotes_cons_of_ne isQuote, List.cons_append,
        content?_closing (by simpa using isQuote)] at read
      obtain ⟨-, rfl⟩ := Prod.mk.inj (Option.some.inj read)
      intro same
      have lengths := congrArg List.length same
      simp only [List.length_cons, List.length_append] at lengths
      omega

/-- A string is read up to its closing quote exactly if its text has a meaning, and then as what
it stands for. -/
theorem content?_doubleQuotes_iff {text content : List Char}
    (apart : ∀ c ∈ behind.head?, c ≠ '\'') :
    rule.content? (doubleQuotes text ++ '\'' :: behind) = some (content, behind) ↔
      rule.unescape? text = some content := by
  fun_induction unescape? rule text generalizing content with
  | case1 =>
    rw [doubleQuotes, List.flatMap_nil, List.nil_append, content?_closing apart]
    simp
  | case2 c rest plain inductionHypothesis =>
    rw [content?_doubleQuotes_cons plain, map_before_eq_some_iff, Option.map_eq_some_iff]
    exact exists_congr fun inner => and_congr_left' inductionHypothesis
  | case3 c stands escapes =>
    -- The escape takes the closing quote.
    refine iff_of_false (fun read => ?_) nofun
    rw [doubleQuotes_cons_of_ne (ne_quote_of_escape escapes), List.cons_append] at read
    obtain ⟨inner, read, -⟩ := map_before_eq_some_iff.1 ((content?_escape escapes).symm.trans read)
    exact Nat.lt_irrefl _ (length_of_content? read)
  | case4 c stands rest escapes =>
    -- The escape takes one of two quotes.
    refine iff_of_false (fun read => ?_) nofun
    rw [doubleQuotes_cons_of_ne (ne_quote_of_escape escapes), doubleQuotes_quote_cons,
      List.cons_append, List.cons_append, content?_escape escapes] at read
    obtain ⟨inner, read, -⟩ := map_before_eq_some_iff.1 read
    exact left_ne_of_behind_quote read rfl
  | case5 c stands next rest escapes other inductionHypothesis =>
    rw [doubleQuotes_cons_of_ne (ne_quote_of_escape escapes), doubleQuotes_cons_of_ne other,
      List.cons_append, List.cons_append, content?_escape escapes, map_before_eq_some_iff,
      Option.map_eq_some_iff]
    exact exists_congr fun inner => and_congr_left' inductionHypothesis

/-- The literal of a text. -/
theorem read?_quote (text : String) :
    rule.read? ((quote text).toList ++ behind) =
      rule.content? (doubleQuotes text.toList ++ '\'' :: behind) := by
  simp [quote, quotedContent, read?]

end Strings

/-! ## What texts stand for -/

section Meanings

variable {rule : QuoteRule} {text content : List Char}

/-- A text without escapes stands for itself. -/
theorem unescape?_of_plain (plain : ∀ c ∈ text, rule.escape? c = none) :
    rule.unescape? text = some text := by
  induction text with
  | nil => rfl
  | cons c rest inductionHypothesis =>
    obtain ⟨first, others⟩ := List.forall_mem_cons.1 plain
    rw [unescape?_plain first, inductionHypothesis others]
    rfl

/-- Where an escape stands for one character, a text with escapes stands for a shorter one. -/
theorem length_of_unescape? (single : ∀ c stands, rule.escape? c = some stands →
      ∀ next, (stands next).length = 1) (meaning : rule.unescape? text = some content) :
    content.length ≤ text.length ∧
      ((∃ c ∈ text, rule.escape? c ≠ none) → content.length < text.length) := by
  fun_induction unescape? rule text generalizing content with
  | case1 =>
    obtain rfl := Option.some.inj meaning
    simp
  | case2 c rest plain inductionHypothesis =>
    obtain ⟨inner, innerMeaning, rfl⟩ := Option.map_eq_some_iff.1 meaning
    obtain ⟨short, shorter⟩ := inductionHypothesis innerMeaning
    refine ⟨Nat.succ_le_succ short, ?_⟩
    rintro ⟨escaped, listed, escapes⟩
    rcases List.mem_cons.1 listed with rfl | behind
    · exact absurd plain escapes
    · exact Nat.succ_lt_succ (shorter ⟨escaped, behind, escapes⟩)
  | case3 | case4 => contradiction
  | case5 c stands next rest escapes other inductionHypothesis =>
    obtain ⟨inner, innerMeaning, rfl⟩ := Option.map_eq_some_iff.1 meaning
    have short := (inductionHypothesis innerMeaning).1
    have one := single c stands escapes next
    simp only [List.length_append, List.length_cons]
    omega

/-- A text behind one that has a meaning adds its own. -/
theorem unescape?_append {front rest frontMeaning : List Char}
    (meaning : rule.unescape? front = some frontMeaning) :
    rule.unescape? (front ++ rest) = (rule.unescape? rest).map (frontMeaning ++ ·) := by
  fun_induction unescape? rule front generalizing frontMeaning with
  | case1 =>
    obtain rfl := Option.some.inj meaning
    simp
  | case2 c front plain inductionHypothesis =>
    obtain ⟨inner, innerMeaning, rfl⟩ := Option.map_eq_some_iff.1 meaning
    rw [List.cons_append, unescape?_plain plain, inductionHypothesis innerMeaning, Option.map_map]
    rfl
  | case3 | case4 => contradiction
  | case5 c stands next front escapes other inductionHypothesis =>
    obtain ⟨inner, innerMeaning, rfl⟩ := Option.map_eq_some_iff.1 meaning
    rw [List.cons_append, List.cons_append, unescape?_escape escapes other,
      inductionHypothesis innerMeaning, Option.map_map]
    simp [Function.comp_def, List.append_assoc]

end Meanings

/-! ## JSON in quotes -/

/-- The text stands for something: no escape in it takes a quote, and each has a character to
take. -/
def HasMeaning (rule : QuoteRule) (text : List Char) : Prop :=
  ∃ content, rule.unescape? text = some content

namespace HasMeaning

variable {stands : Char → List Char}

theorem append {rule : QuoteRule} {front rest : List Char} (first : rule.HasMeaning front)
    (second : rule.HasMeaning rest) : rule.HasMeaning (front ++ rest) := by
  obtain ⟨frontMeaning, first⟩ := first
  obtain ⟨restMeaning, second⟩ := second
  exact ⟨frontMeaning ++ restMeaning, by rw [unescape?_append first, second]; rfl⟩

theorem of_noBackslash {text : List Char} (plain : '\\' ∉ text) :
    (backslash stands).HasMeaning text := by
  refine ⟨text, unescape?_of_plain fun c listed => if_neg ?_⟩
  rintro rfl
  exact plain listed

theorem intercalate {rule : QuoteRule} {separator : String}
    (between : rule.HasMeaning separator.toList) {texts : List String}
    (each : ∀ text ∈ texts, rule.HasMeaning text.toList) :
    rule.HasMeaning (String.intercalate separator texts).toList := by
  induction texts with
  | nil => exact ⟨[], rfl⟩
  | cons first rest inductionHypothesis =>
    rw [List.forall_mem_cons] at each
    cases rest with
    | nil =>
      rw [String.intercalate_singleton]
      exact each.1
    | cons second others =>
      rw [String.intercalate_cons_of_ne_nil (List.cons_ne_nil _ _), String.toList_append,
        String.toList_append]
      exact (each.1.append between).append (inductionHypothesis each.2)

/-- A character as it stands in JSON is itself without a backslash, or a whole escape. -/
theorem escape (c : Char) : (backslash stands).HasMeaning (Json.escape c) := by
  have short (next : Char) (other : next ≠ '\'') :
      (backslash stands).HasMeaning ['\\', next] := by
    have begins : (backslash stands).escape? '\\' = some stands := by
      simp [backslash]
    exact ⟨_, unescape?_escape begins other⟩
  have digits : ∀ n < 16, Json.hexDigit n ≠ '\\' := by decide
  rw [Json.escape]
  split
  · exact short _ (by decide)
  split
  · exact short _ (by decide)
  split
  · exact short _ (by decide)
  split
  · exact short _ (by decide)
  split
  · exact short _ (by decide)
  split
  · exact short _ (by decide)
  split
  · exact short _ (by decide)
  split
  · rename_i isControl
    have high := digits (c.toNat / 16) (by omega)
    have low := digits (c.toNat % 16) (by omega)
    refine (short 'u' (by decide)).append (of_noBackslash ?_)
    simp [high.symm, low.symm]
  · rename_i notBackslash _ _ _ _ _ _
    exact of_noBackslash (by simpa using Ne.symm notBackslash)

theorem quote (text : String) : (backslash stands).HasMeaning (Json.quote text).toList := by
  have inside (letters : List Char) :
      (backslash stands).HasMeaning (letters.flatMap Json.escape) := by
    induction letters with
    | nil => exact ⟨[], rfl⟩
    | cons c rest inductionHypothesis =>
      rw [List.flatMap_cons]
      exact (escape c).append inductionHypothesis
  have mark : (backslash stands).HasMeaning ['"'] := of_noBackslash (by decide)
  rw [Json.toList_quote]
  exact mark.append ((inside _).append mark)

mutual

/-- The text of a JSON value stands for something. -/
theorem compact : (value : Json) → (backslash stands).HasMeaning value.compact.toList
  | .null | .bool true | .bool false => by
    rw [Json.compact]
    exact of_noBackslash (by decide)
  | .number value => by
    rw [Json.compact]
    refine of_noBackslash fun listed => ?_
    exact absurd (Json.isNumericText_text value _ listed) (by decide)
  | .string value => by
    rw [Json.compact]
    exact quote value
  | .array items => by
    rw [Json.compact, String.toList_append, String.toList_append]
    refine ((of_noBackslash (by decide)).append ?_).append (of_noBackslash (by decide))
    exact intercalate (of_noBackslash (by decide)) (compactItems items)
  | .object members => by
    rw [Json.compact, String.toList_append, String.toList_append]
    refine ((of_noBackslash (by decide)).append ?_).append (of_noBackslash (by decide))
    exact intercalate (of_noBackslash (by decide)) (compactMembers members)

theorem compactItems : (items : List Json) →
    ∀ text ∈ Json.compactItems items, (backslash stands).HasMeaning text.toList
  | [] => nofun
  | item :: rest => List.forall_mem_cons.2 ⟨compact item, compactItems rest⟩

theorem compactMembers : (members : List (String × Json)) →
    ∀ text ∈ Json.compactMembers members, (backslash stands).HasMeaning text.toList
  | [] => nofun
  | (key, value) :: rest => by
    refine List.forall_mem_cons.2 ⟨?_, compactMembers rest⟩
    rw [String.toList_append, String.toList_append]
    exact ((quote key).append (of_noBackslash (by decide))).append (compact value)

end

end HasMeaning

end QuoteRule

end NeutralSql.Literal

namespace NeutralSql

/-- The text that stands in quotes where a value is written as a string. -/
def Value.quotedText? : Value → Option String
  | .string text => some text
  | .json value => some value.compact
  | _ => none

namespace Literal

open QuoteRule (backslash)

/-- Such a value is written as that text in quotes, in every dialect. -/
theorem ofValue_of_quotedText? {dialect : Dialect} {value : Value} {text : String}
    (quoted : value.quotedText? = some text) : ofValue dialect value = quote text := by
  cases value with
  | string content =>
    obtain rfl := Option.some.inj quoted
    rfl
  | json content =>
    obtain rfl := Option.some.inj quoted
    rfl
  | null | boolean | integer | float | bytes => contradiction

/-- MySQL reads a backslash and the character behind it as an escape, whatever the escapes stand
for. There, a string default or a JSON default is read up to its closing quote, and no further,
exactly if its text has a meaning by its escapes: it does not end inside an escape, and no escape
in it takes a quote. It is then read as that meaning. This is the text itself if no backslash is
in it; it is another text if some backslash is and escapes stand for one character each. A JSON
default always ends at its closing quote. -/
theorem read?_ofValue_mysql_iff (stands : Char → List Char) {value : Value} {text : String}
    (quoted : value.quotedText? = some text) {behind : List Char}
    (apart : ∀ c ∈ behind.head?, c ≠ '\'') :
    (∀ content, (backslash stands).read? ((ofValue .mysql value).toList ++ behind) =
        some (content, behind) ↔ (backslash stands).unescape? text.toList = some content) ∧
      ('\\' ∉ text.toList → (backslash stands).read? ((ofValue .mysql value).toList ++ behind) =
        some (text.toList, behind)) ∧
      ((∀ next, (stands next).length = 1) → '\\' ∈ text.toList →
        (backslash stands).read? ((ofValue .mysql value).toList ++ behind) ≠
          some (text.toList, behind)) ∧
      ((∃ json, value = .json json) → ∃ content,
        (backslash stands).read? ((ofValue .mysql value).toList ++ behind) =
          some (content, behind)) := by
  have read (content : List Char) :
      (backslash stands).read? ((ofValue .mysql value).toList ++ behind) =
        some (content, behind) ↔ (backslash stands).unescape? text.toList = some content := by
    rw [ofValue_of_quotedText? quoted, QuoteRule.read?_quote]
    exact QuoteRule.content?_doubleQuotes_iff apart
  refine ⟨read, fun plain => ?_, fun single escapes same => ?_, ?_⟩
  · refine (read _).2 (QuoteRule.unescape?_of_plain fun c listed => if_neg ?_)
    rintro rfl
    exact plain listed
  · have shorter := (QuoteRule.length_of_unescape? ?_ ((read _).1 same)).2
    · exact Nat.lt_irrefl _ (shorter ⟨'\\', escapes, by simp [backslash]⟩)
    · intro c stood begins next
      by_cases isBackslash : c = '\\'
      · obtain rfl : stands = stood := by simpa [backslash, isBackslash] using begins
        exact single next
      · simp [backslash, isBackslash] at begins
  · rintro ⟨json, rfl⟩
    obtain rfl := Option.some.inj quoted
    obtain ⟨content, meaning⟩ := QuoteRule.HasMeaning.compact json
    exact ⟨content, (read content).2 meaning⟩

/-- What MySQL takes a backslash and the character behind it for. -/
def mysqlEscape (next : Char) : List Char :=
  match next with
  | '0' => ['\x00']
  | 'b' => ['\x08']
  | 'n' => ['\n']
  | 'r' => ['\r']
  | 't' => ['\t']
  | 'Z' => ['\x1a']
  | '%' => ['\\', '%']
  | '_' => ['\\', '_']
  | _ => [next]

/-- A string with a quote comes back as it is, a path comes back changed, and so does a JSON text
with a quotation mark in it. -/
theorem read?_ofValue_mysql_samples :
    (backslash mysqlEscape).read? ((ofValue .mysql (.string "it's")).toList ++ [')']) =
        some ("it's".toList, [')']) ∧
      (backslash mysqlEscape).read? ((ofValue .mysql (.string "C:\\new")).toList ++ [',']) =
        some ("C:\new".toList, [',']) ∧
      (backslash mysqlEscape).read?
          ((ofValue .mysql (.json (.array [.string "\""]))).toList ++ [')']) =
        some ("[\"\"\"]".toList, [')']) := by
  refine ⟨?_, ?_, ?_⟩
  · exact (read?_ofValue_mysql_iff mysqlEscape rfl (by simp)).2.1 (by decide)
  · exact ((read?_ofValue_mysql_iff mysqlEscape rfl (by simp)).1 _).2 rfl
  · exact ((read?_ofValue_mysql_iff mysqlEscape rfl (by simp)).1 _).2 (by decide)

/-- A default that is one backslash takes its closing quote, so that its literal does not end; and
a default with a backslash in front of a quote ends early, so that its own text goes on as SQL. -/
theorem mysql_default_escapes_quotes :
    (backslash mysqlEscape).read? ((ofValue .mysql (.string "\\")).toList ++ [')']) = none ∧
      (backslash mysqlEscape).read?
          ((ofValue .mysql (.string "\\'); DROP TABLE users; -- ")).toList ++ [')']) =
        some (['\''], "); DROP TABLE users; -- ')".toList) := by
  decide

end Literal

end NeutralSql
