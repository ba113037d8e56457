import NeutralSql.Json.Document
import NeutralSql.Proofs.Json.Printer

/-!
# Reading printed tokens

What is printed for a value is read as tokens, piece by piece: a mark and a string end by
themselves, and a number ends where no character follows that it could go on with.
-/

namespace NeutralSql.Json

/-- A text is read as these tokens, with spaces between them. -/
inductive Reads : List Char → List Token → Prop where
  | done {text : List Char} (blank : text.dropWhile isSpace = []) : Reads text []
  | token {text rest : List Char} {token : Token} {tokens : List Token}
      (first : token? (text.dropWhile isSpace) = some (token, rest))
      (shorter : rest.length < text.length) (others : Reads rest tokens) :
      Reads text (token :: tokens)

namespace Reads

/-- Reading takes no more steps than the text has characters. -/
theorem tokensWithin {text : List Char} {tokens : List Token} (reads : Reads text tokens)
    {fuel : Nat} (enough : text.length < fuel) (front : List Token) :
    tokensWithin fuel front text = some (front.reverse ++ tokens) := by
  induction reads generalizing fuel front with
  | done blank =>
    cases fuel with
    | zero => contradiction
    | succ fuel =>
      rw [Json.tokensWithin, blank]
      simp
  | @token text rest token tokens first shorter others inductionHypothesis =>
    cases fuel with
    | zero => contradiction
    | succ fuel =>
      have left : Json.tokensWithin fuel (token :: front) rest =
          some ((token :: front).reverse ++ tokens) := inductionHypothesis (by omega) _
      rw [Json.tokensWithin]
      split
      · rename_i blank
        rw [blank] at first
        exact nomatch first
      · simp only [first, left, List.reverse_cons, List.append_assoc, List.singleton_append]

/-- The tokens of a text. -/
theorem tokens? {text : String} {tokens : List Token} (reads : Reads text.toList tokens) :
    tokens? text = some tokens :=
  reads.tokensWithin (by rw [String.length_toList]; exact Nat.lt_succ_self _) []

/-- Spaces in front of a text make no difference. -/
theorem behindSpaces {spaces text : List Char} {tokens : List Token} (reads : Reads text tokens)
    (areSpaces : ∀ c ∈ spaces, isSpace c = true) : Reads (spaces ++ text) tokens := by
  have dropped : (spaces ++ text).dropWhile isSpace = text.dropWhile isSpace :=
    List.dropWhile_append_of_pos areSpaces
  cases reads with
  | done blank => exact .done (dropped.trans blank)
  | token first shorter others =>
    refine .token (dropped ▸ first) ?_ others
    rw [List.length_append]
    omega

end Reads

/-! ## Pieces of text -/

/-- A text that no number could go on with. -/
def EndsNumber (behind : List Char) : Prop :=
  ∀ c ∈ behind.head?, isNumeric c = false

/-- The text is read as these tokens, whatever stands behind it. -/
def WritesClosed (text : List Char) (tokens : List Token) : Prop :=
  ∀ ⦃behind more⦄, Reads behind more → Reads (text ++ behind) (tokens ++ more)

/-- The text is read as these tokens, if what stands behind it does not go on with a number. -/
def Writes (text : List Char) (tokens : List Token) : Prop :=
  ∀ ⦃behind more⦄, EndsNumber behind → Reads behind more → Reads (text ++ behind) (tokens ++ more)

section Pieces

variable {first second : List Char} {firstTokens secondTokens : List Token}

theorem WritesClosed.writes (closed : WritesClosed first firstTokens) :
    Writes first firstTokens :=
  fun _ _ _ reads => closed reads

theorem WritesClosed.append (closed : WritesClosed first firstTokens)
    (next : WritesClosed second secondTokens) :
    WritesClosed (first ++ second) (firstTokens ++ secondTokens) := by
  intro behind more reads
  rw [List.append_assoc, List.append_assoc]
  exact closed (next reads)

theorem WritesClosed.before (closed : WritesClosed first firstTokens)
    (next : Writes second secondTokens) :
    Writes (first ++ second) (firstTokens ++ secondTokens) := by
  intro behind more ends reads
  rw [List.append_assoc, List.append_assoc]
  exact closed (next ends reads)

/-- A piece that a number may end is closed by one that begins with no character of a number. -/
theorem Writes.closedBy (writes : Writes first firstTokens)
    (next : WritesClosed second secondTokens) (present : second ≠ []) (ends : EndsNumber second) :
    WritesClosed (first ++ second) (firstTokens ++ secondTokens) := by
  intro behind more reads
  rw [List.append_assoc, List.append_assoc]
  refine writes ?_ (next reads)
  cases second with
  | nil => contradiction
  | cons c rest => exact ends

/-- A text behind which nothing stands is read as its tokens. -/
theorem Writes.reads (writes : Writes first firstTokens) : Reads first firstTokens := by
  have blank : Reads [] [] := .done rfl
  have whole := writes (nofun : EndsNumber []) blank
  rwa [List.append_nil, List.append_nil] at whole

end Pieces

/-- Spaces are read as nothing. -/
theorem writesClosed_spaces {spaces : List Char} (areSpaces : ∀ c ∈ spaces, isSpace c = true) :
    WritesClosed spaces [] :=
  fun _ _ reads => reads.behindSpaces areSpaces

/-- A piece is read as one token if its own characters are all that is read. -/
theorem Reads.front {text behind : List Char} {token : Token} {more : List Token}
    (present : text ≠ []) (noSpace : ∀ c ∈ text.head?, isSpace c = false)
    (read : token? (text ++ behind) = some (token, behind)) (reads : Reads behind more) :
    Reads (text ++ behind) (token :: more) := by
  cases text with
  | nil => contradiction
  | cons c rest =>
    have kept : (c :: rest ++ behind).dropWhile isSpace = c :: rest ++ behind :=
      List.dropWhile_cons_of_neg (by simp [noSpace c rfl])
    refine .token (kept.symm ▸ read) ?_ reads
    simp only [List.cons_append, List.length_cons, List.length_append]
    omega

/-- A token that ends by itself. -/
theorem writesClosed_token {text : List Char} {token : Token} (present : text ≠ [])
    (noSpace : ∀ c ∈ text.head?, isSpace c = false)
    (read : ∀ behind, token? (text ++ behind) = some (token, behind)) :
    WritesClosed text [token] :=
  fun behind _ reads => .front present noSpace (read behind) reads

/-- A mark. -/
theorem writesClosed_mark {mark : Char} {token : Token} (noSpace : isSpace mark = false)
    (read : ∀ behind, token? (mark :: behind) = some (token, behind)) :
    WritesClosed [mark] [token] :=
  writesClosed_token (List.cons_ne_nil _ _) (by simpa using noSpace) read

/-- Words. -/
theorem writesClosed_null : WritesClosed ['n', 'u', 'l', 'l'] [.null] :=
  writesClosed_token (List.cons_ne_nil _ _) (by simp [isSpace]) fun _ => rfl

theorem writesClosed_true : WritesClosed ['t', 'r', 'u', 'e'] [.bool true] :=
  writesClosed_token (List.cons_ne_nil _ _) (by simp [isSpace]) fun _ => rfl

theorem writesClosed_false : WritesClosed ['f', 'a', 'l', 's', 'e'] [.bool false] :=
  writesClosed_token (List.cons_ne_nil _ _) (by simp [isSpace]) fun _ => rfl

/-! ## Strings -/

/-- What a printed character is read as: itself, or the code of a control character without an
escape of its own. -/
def piece (c : Char) : StringPiece :=
  if c.toNat < 0x20 ∧ c ∉ ['\x08', '\x0c', '\n', '\r', '\t'] then .unit c.toNat else .char c

section Tail

variable {c : Char} (pieces : List StringPiece) (rest : List Char)

theorem stringTail_short (notUnit : c ≠ 'u') :
    stringTail pieces ('\\' :: c :: rest) =
      (shortEscape? c).bind fun value => stringTail (.char value :: pieces) rest := by
  rw [stringTail]
  · rfl
  · rintro _ _ _ _ _ same
    exact absurd same notUnit

theorem stringTail_unit {a b c d : Char} {i j k l : Nat} (first : hexValue? a = some i)
    (second : hexValue? b = some j) (third : hexValue? c = some k) (fourth : hexValue? d = some l) :
    stringTail pieces ('\\' :: 'u' :: a :: b :: c :: d :: rest) =
      stringTail (.unit (((i * 16 + j) * 16 + k) * 16 + l) :: pieces) rest := by
  rw [stringTail, first, second, third, fourth]
  rfl

theorem stringTail_plain (notQuote : c ≠ '"') (notBackslash : c ≠ '\\')
    (printable : ¬ c.toNat < 0x20) :
    stringTail pieces (c :: rest) = stringTail (.char c :: pieces) rest := by
  rw [stringTail]
  · exact if_neg printable
  · exact notQuote
  · rintro _ _ _ _ _ same
    exact absurd same notBackslash
  · rintro _ _ same
    exact absurd same notBackslash

/-- A hexadecimal digit has its value. -/
theorem hexValue?_hexDigit : ∀ n < 16, hexValue? (hexDigit n) = some n := by
  decide

/-- One printed character is read as its piece. -/
theorem stringTail_escape (c : Char) :
    stringTail pieces (escape c ++ rest) = stringTail (piece c :: pieces) rest := by
  have short {c escaped : Char} (isShort : escape c = ['\\', escaped]) (isChar : piece c = .char c)
      (read : shortEscape? escaped = some c) (notUnit : escaped ≠ 'u') :
      stringTail pieces (escape c ++ rest) = stringTail (piece c :: pieces) rest := by
    rw [isShort, isChar, List.cons_append, List.cons_append, List.nil_append,
      stringTail_short pieces rest notUnit, read, Option.bind_some]
  by_cases isQuote : c = '"'
  · subst isQuote
    exact short rfl rfl rfl (by decide)
  by_cases isBackslash : c = '\\'
  · subst isBackslash
    exact short rfl rfl rfl (by decide)
  by_cases isShort : c ∈ ['\x08', '\x0c', '\n', '\r', '\t']
  · simp only [List.mem_cons, List.not_mem_nil, or_false] at isShort
    rcases isShort with rfl | rfl | rfl | rfl | rfl
    · exact short rfl rfl rfl (by decide)
    · exact short rfl rfl rfl (by decide)
    · exact short rfl rfl rfl (by decide)
    · exact short rfl rfl rfl (by decide)
    · exact short rfl rfl rfl (by decide)
  obtain ⟨notB, notF, notN, notR, notT⟩ :
      c ≠ '\x08' ∧ c ≠ '\x0c' ∧ c ≠ '\n' ∧ c ≠ '\r' ∧ c ≠ '\t' := by simpa using isShort
  rw [escape, if_neg isQuote, if_neg isBackslash, if_neg notB, if_neg notF, if_neg notN,
    if_neg notR, if_neg notT]
  by_cases isControl : c.toNat < 0x20
  · have high := hexValue?_hexDigit (c.toNat / 16) (by omega)
    have low := hexValue?_hexDigit (c.toNat % 16) (by omega)
    have code : ((0 * 16 + 0) * 16 + c.toNat / 16) * 16 + c.toNat % 16 = c.toNat := by omega
    have zero : hexValue? '0' = some 0 := rfl
    have read := stringTail_unit pieces rest zero zero high low
    rw [if_pos isControl, piece, if_pos ⟨isControl, isShort⟩]
    rwa [code] at read
  · rw [if_neg isControl, piece, if_neg fun control => isControl control.1]
    exact stringTail_plain pieces rest isQuote isBackslash isControl

/-- The characters of a string up to its closing quote are read as their pieces. -/
theorem stringTail_flatMap_escape (text : List Char) :
    stringTail pieces (text.flatMap escape ++ '"' :: rest) =
      some (pieces.reverse ++ text.map piece, rest) := by
  induction text generalizing pieces with
  | nil =>
    rw [List.map_nil, List.append_nil]
    rfl
  | cons c text inductionHypothesis =>
    rw [List.flatMap_cons, List.append_assoc, stringTail_escape, inductionHypothesis]
    simp

end Tail

/-- A code unit that is no surrogate denotes a character by itself. -/
theorem joinPieces?_unit {code : Nat} (low : code < 0xD800) (rest : List StringPiece) :
    Document.joinPieces? (.unit code :: rest) =
      (Document.joinPieces? rest).map (Char.ofNat code :: ·) := by
  have notSurrogate : ¬(0xD800 ≤ code ∧ code < 0xE000) := by omega
  have notHigh : ¬(0xD800 ≤ code ∧ code < 0xDC00) := by omega
  have notLow : ¬(0xDC00 ≤ code ∧ code < 0xE000) := by omega
  cases rest with
  | nil => simp only [Document.joinPieces?, if_neg notSurrogate]
  | cons next rest =>
    cases next with
    | char c => simp only [Document.joinPieces?, if_neg notSurrogate]
    | unit other => simp only [Document.joinPieces?, if_neg notHigh, if_neg notLow]

/-- The pieces of printed characters denote the characters. -/
theorem joinPieces?_map_piece (text : List Char) :
    Document.joinPieces? (text.map piece) = some text := by
  induction text with
  | nil => rfl
  | cons c text inductionHypothesis =>
    rw [List.map_cons, piece]
    split
    · rename_i control
      rw [joinPieces?_unit (by omega), inductionHypothesis, Char.ofNat_toNat]
      rfl
    · rw [Document.joinPieces?, inductionHypothesis]
      rfl

/-- The pieces of a printed string denote the string. -/
theorem text?_map_piece (text : String) :
    Document.text? (text.toList.map piece) = some text := by
  rw [Document.text?, joinPieces?_map_piece, Option.map_some, String.ofList_toList]

/-- A printed string is read as its pieces. -/
theorem writesClosed_quote (text : String) :
    WritesClosed (quote text).toList [.string (text.toList.map piece)] := by
  rw [toList_quote]
  refine writesClosed_token (List.cons_ne_nil _ _) (by simp [isSpace]) fun behind => ?_
  rw [List.cons_append, List.append_assoc, List.singleton_append, token?,
    stringTail_flatMap_escape]
  rfl

end NeutralSql.Json
