import NeutralSql.Proofs.Json.Numeral
import NeutralSql.Proofs.Json.Token

/-!
# Reading back the text of a number

The text of a number is one token, wherever it stands, provided that it is read as that number
when it stands alone. Integers of 64 bits are: `Number.readsBack_int`. Of doubles this is not so
in general, since reading rounds several times.
-/

namespace NeutralSql.Json

/-- The text of the number is read as that number. -/
def Number.ReadsBack (number : Number) : Prop :=
  Document.parse? number.text = some (.number number)

/-! ## A numeral with other text behind it -/

/-- A character that ends a number is no digit. -/
theorem EndsNumber.isDigit {behind : List Char} (ends : EndsNumber behind) :
    ∀ c ∈ behind.head?, c.isDigit = false := by
  intro c isHead
  have notNumeric := ends c isHead
  simp only [isNumeric, Char.isAlphanum, Bool.or_eq_false_iff] at notNumeric
  exact notNumeric.1.1.1.2

/-- Reading takes characters from the front of a text, and no others if what is put behind the
text does not go on with a number. -/
structure TakesFront {α : Type} (read : List Char → Option (α × List Char)) : Prop where
  isSuffix {text left : List Char} {value : α} (taken : read text = some (value, left)) :
    left <:+ text
  append {text left behind : List Char} {value : α} (ends : EndsNumber behind)
    (taken : read text = some (value, left)) : read (text ++ behind) = some (value, left ++ behind)

theorem takesFront_digits? : TakesFront digits? where
  isSuffix taken := by
    simp only [digits?] at taken
    split at taken
    · contradiction
    · obtain ⟨-, rfl⟩ := Prod.mk.inj (Option.some.inj taken)
      exact List.dropWhile_suffix _
  append {text left behind value} ends taken := by
    have noDigit : behind.takeWhile Char.isDigit = [] := by
      cases behind with
      | nil => rfl
      | cons c rest => exact List.takeWhile_cons_of_neg (by simp [ends.isDigit c rfl])
    have allLeft : behind.dropWhile Char.isDigit = behind := by
      cases behind with
      | nil => rfl
      | cons c rest => exact List.dropWhile_cons_of_neg (by simp [ends.isDigit c rfl])
    have sameDigits : (text ++ behind).takeWhile Char.isDigit = text.takeWhile Char.isDigit := by
      rw [List.takeWhile_append, noDigit, List.append_nil]
      split
      · rename_i whole
        exact ((List.takeWhile_prefix Char.isDigit).eq_of_length whole).symm
      · rfl
    have moreLeft : (text ++ behind).dropWhile Char.isDigit =
        text.dropWhile Char.isDigit ++ behind := by
      rw [List.dropWhile_append, allLeft]
      split
      · rename_i empty
        rw [List.isEmpty_iff.1 empty, List.nil_append]
      · rfl
    simp only [digits?] at taken ⊢
    rw [sameDigits, moreLeft]
    split at taken
    · contradiction
    · rename_i present
      obtain ⟨rfl, rfl⟩ := Prod.mk.inj (Option.some.inj taken)
      exact if_neg present

/-- A whole part without a zero in front of it. -/
theorem wholePart?_of_ne {c : Char} (notZero : c ≠ '0') (rest : List Char) :
    wholePart? (c :: rest) = digits? (c :: rest) := by
  rw [wholePart?]
  rintro _ same
  exact notZero (List.cons.inj same).1

theorem takesFront_wholePart? : TakesFront wholePart? where
  isSuffix {text left value} taken := by
    cases text with
    | nil => contradiction
    | cons c rest =>
      by_cases isZero : c = '0'
      · subst isZero
        obtain ⟨-, rfl⟩ := Prod.mk.inj (Option.some.inj taken)
        exact List.suffix_cons _ _
      · exact takesFront_digits?.isSuffix (wholePart?_of_ne isZero rest ▸ taken)
  append {text left behind value} ends taken := by
    cases text with
    | nil => contradiction
    | cons c rest =>
      by_cases isZero : c = '0'
      · subst isZero
        obtain ⟨rfl, rfl⟩ := Prod.mk.inj (Option.some.inj taken)
        rfl
      · rw [wholePart?_of_ne isZero] at taken
        exact (wholePart?_of_ne isZero _).trans (takesFront_digits?.append ends taken)

/-- There is no part behind a point where no point stands. -/
theorem fractionPart?_of_ne {text : List Char} (noPoint : '.' ∉ text.head?) :
    fractionPart? text = some (none, text) := by
  rw [fractionPart?]
  rintro rest rfl
  exact noPoint rfl

theorem takesFront_fractionPart? : TakesFront fractionPart? where
  isSuffix {text left value} taken := by
    by_cases isPoint : '.' ∈ text.head?
    · obtain ⟨rest, rfl⟩ := List.head?_eq_some_iff.1 isPoint
      obtain ⟨⟨digits, others⟩, read, same⟩ := Option.map_eq_some_iff.1 taken
      obtain ⟨-, rfl⟩ := Prod.mk.inj same
      exact (takesFront_digits?.isSuffix read).trans (List.suffix_cons _ _)
    · obtain ⟨-, rfl⟩ := Prod.mk.inj (Option.some.inj (fractionPart?_of_ne isPoint ▸ taken))
      exact List.suffix_rfl
  append {text left behind value} ends taken := by
    by_cases isPoint : '.' ∈ text.head?
    · obtain ⟨rest, rfl⟩ := List.head?_eq_some_iff.1 isPoint
      obtain ⟨⟨digits, others⟩, read, same⟩ := Option.map_eq_some_iff.1 taken
      obtain ⟨rfl, rfl⟩ := Prod.mk.inj same
      rw [List.cons_append, fractionPart?, takesFront_digits?.append ends read]
      rfl
    · obtain ⟨rfl, rfl⟩ := Prod.mk.inj (Option.some.inj (fractionPart?_of_ne isPoint ▸ taken))
      refine fractionPart?_of_ne ?_
      cases text with
      | nil => exact fun isHead => absurd (ends '.' isHead) (by decide)
      | cons c rest => exact isPoint

/-- There is no exponent where the letter of one does not stand. -/
theorem exponentPart?_of_ne {text : List Char} (noLetter : ∀ c ∈ text.head?, c ≠ 'e' ∧ c ≠ 'E') :
    exponentPart? text = some (none, text) := by
  cases text with
  | nil => rfl
  | cons c rest =>
    obtain ⟨notSmall, notLarge⟩ := noLetter c rfl
    rw [exponentPart?, if_neg (not_or.2 ⟨notSmall, notLarge⟩)]

/-- The sign of an exponent does not depend on what stands behind its digits. -/
theorem exponentSign_append {text : List Char} (present : text ≠ []) (behind : List Char) :
    exponentSign (text ++ behind) = ((exponentSign text).1, (exponentSign text).2 ++ behind) := by
  cases text with
  | nil => contradiction
  | cons c rest =>
    rw [List.cons_append]
    by_cases isMinus : c = '-'
    · subst isMinus
      rfl
    by_cases isPlus : c = '+'
    · subst isPlus
      rfl
    have unsigned (others : List Char) : exponentSign (c :: others) = (false, c :: others) := by
      rw [exponentSign]
      · rintro _ same
        exact isMinus (List.cons.inj same).1
      · rintro _ same
        exact isPlus (List.cons.inj same).1
    rw [unsigned, unsigned, List.cons_append]

theorem exponentSign_suffix (text : List Char) : (exponentSign text).2 <:+ text := by
  rw [exponentSign.eq_def]
  split
  · exact List.suffix_cons _ _
  · exact List.suffix_cons _ _
  · exact List.suffix_rfl

/-- An exponent is a letter, a sign and digits. -/
theorem exponentPart?_of_eq {c : Char} (isLetter : c = 'e' ∨ c = 'E') (rest : List Char) :
    exponentPart? (c :: rest) = (digits? (exponentSign rest).2).map fun (digits, left) =>
      (some ((exponentSign rest).1, digits), left) := by
  rw [exponentPart?, if_pos isLetter]

theorem takesFront_exponentPart? : TakesFront exponentPart? where
  isSuffix {text left value} taken := by
    cases text with
    | nil =>
      obtain ⟨-, rfl⟩ := Prod.mk.inj (Option.some.inj taken)
      exact List.suffix_rfl
    | cons c rest =>
      by_cases isLetter : c = 'e' ∨ c = 'E'
      · rw [exponentPart?_of_eq isLetter] at taken
        obtain ⟨⟨digits, others⟩, read, same⟩ := Option.map_eq_some_iff.1 taken
        obtain ⟨-, rfl⟩ := Prod.mk.inj same
        exact ((takesFront_digits?.isSuffix read).trans (exponentSign_suffix rest)).trans
          (List.suffix_cons _ _)
      · rw [exponentPart?, if_neg isLetter] at taken
        obtain ⟨-, rfl⟩ := Prod.mk.inj (Option.some.inj taken)
        exact List.suffix_rfl
  append {text left behind value} ends taken := by
    cases text with
    | nil =>
      obtain ⟨rfl, rfl⟩ := Prod.mk.inj (Option.some.inj taken)
      refine exponentPart?_of_ne fun c isHead => ?_
      have notNumeric := ends c isHead
      constructor
      · rintro rfl
        exact absurd notNumeric (by decide)
      · rintro rfl
        exact absurd notNumeric (by decide)
    | cons c rest =>
      by_cases isLetter : c = 'e' ∨ c = 'E'
      · rw [exponentPart?_of_eq isLetter] at taken
        obtain ⟨⟨digits, others⟩, read, same⟩ := Option.map_eq_some_iff.1 taken
        obtain ⟨rfl, rfl⟩ := Prod.mk.inj same
        have present : rest ≠ [] := by
          rintro rfl
          exact nomatch read
        rw [List.cons_append, exponentPart?_of_eq isLetter, exponentSign_append present,
          takesFront_digits?.append ends read]
        rfl
      · rw [exponentPart?, if_neg isLetter] at taken
        obtain ⟨rfl, rfl⟩ := Prod.mk.inj (Option.some.inj taken)
        rw [List.cons_append, exponentPart?, if_neg isLetter]

/-- The parts of a number without its sign. -/
theorem numeral?_eq_some_iff {isNegative : Bool} {text left : List Char} {numeral : Numeral} :
    numeral? isNegative text = some (numeral, left) ↔
      ∃ whole wholeLeft fraction fractionLeft exponent,
        wholePart? text = some (whole, wholeLeft) ∧
        fractionPart? wholeLeft = some (fraction, fractionLeft) ∧
        exponentPart? fractionLeft = some (exponent, left) ∧
        numeral = ⟨isNegative, whole, fraction, exponent⟩ := by
  constructor
  · intro taken
    obtain ⟨⟨whole, wholeLeft⟩, wholeRead, taken⟩ := Option.bind_eq_some_iff.1 taken
    obtain ⟨⟨fraction, fractionLeft⟩, fractionRead, taken⟩ := Option.bind_eq_some_iff.1 taken
    obtain ⟨⟨exponent, others⟩, exponentRead, taken⟩ := Option.bind_eq_some_iff.1 taken
    obtain ⟨rfl, rfl⟩ := Prod.mk.inj (Option.some.inj taken)
    exact ⟨_, _, _, _, _, wholeRead, fractionRead, exponentRead, rfl⟩
  · rintro ⟨whole, wholeLeft, fraction, fractionLeft, exponent, wholeRead, fractionRead,
      exponentRead, rfl⟩
    simp [numeral?, wholeRead, fractionRead, exponentRead]

theorem takesFront_numeral? (isNegative : Bool) : TakesFront (numeral? isNegative) where
  isSuffix taken := by
    obtain ⟨_, _, _, _, _, wholeRead, fractionRead, exponentRead, -⟩ :=
      numeral?_eq_some_iff.1 taken
    exact ((takesFront_exponentPart?.isSuffix exponentRead).trans
      (takesFront_fractionPart?.isSuffix fractionRead)).trans
        (takesFront_wholePart?.isSuffix wholeRead)
  append ends taken := by
    obtain ⟨_, _, _, _, _, wholeRead, fractionRead, exponentRead, rfl⟩ :=
      numeral?_eq_some_iff.1 taken
    exact numeral?_eq_some_iff.2 ⟨_, _, _, _, _, takesFront_wholePart?.append ends wholeRead,
      takesFront_fractionPart?.append ends fractionRead,
      takesFront_exponentPart?.append ends exponentRead, rfl⟩

/-! ## The token of a number -/

section Token

variable {c : Char} {rest left : List Char} {token : Token} {numeral : Numeral}

/-- A number without its sign begins with a digit. -/
theorem isDigit_of_numeral? {isNegative : Bool}
    (taken : numeral? isNegative (c :: rest) = some (numeral, left)) : c.isDigit = true := by
  obtain ⟨whole, wholeLeft, -, -, -, wholeRead, -⟩ := numeral?_eq_some_iff.1 taken
  by_cases isZero : c = '0'
  · subst isZero
    rfl
  · rw [wholePart?_of_ne isZero] at wholeRead
    simp only [digits?] at wholeRead
    split at wholeRead
    · contradiction
    · rename_i present
      by_contra notDigit
      exact present (by rw [List.takeWhile_cons_of_neg notDigit]; rfl)

/-- A text that begins with a digit begins with a number. -/
theorem token?_of_isDigit (isDigit : c.isDigit = true) (rest : List Char) :
    token? (c :: rest) = (numeral? false (c :: rest)).map fun (numeral, left) =>
      (.number numeral, left) := by
  -- No other token begins with a digit.
  rw [token?]
  all_goals
    intro others same
    obtain rfl := (List.cons.inj same).1
    contradiction

theorem token?_minus (rest : List Char) :
    token? ('-' :: rest) = (numeral? true rest).map fun (numeral, left) =>
      (.number numeral, left) := by
  rw [token?]

/-- A text that begins like a number begins with a word or a number. -/
theorem token?_of_isNumeric (numeric : isNumeric c = true)
    (taken : token? (c :: rest) = some (token, left)) :
    token = .null ∨ (∃ value, token = .bool value) ∨
      ∃ numeral, token = .number numeral ∧
        (c = '-' ∧ numeral? true rest = some (numeral, left) ∨
          c.isDigit = true ∧ numeral? false (c :: rest) = some (numeral, left)) := by
  have asNumber {isNegative : Bool} {text : List Char}
      (taken : (numeral? isNegative text).map (fun (numeral, left) => (Token.number numeral, left)) =
        some (token, left)) :
      ∃ numeral, token = .number numeral ∧ numeral? isNegative text = some (numeral, left) := by
    obtain ⟨⟨numeral, others⟩, read, same⟩ := Option.map_eq_some_iff.1 taken
    obtain ⟨rfl, rfl⟩ := Prod.mk.inj same
    exact ⟨numeral, rfl, read⟩
  have notMark {mark : Char} {others : List Char} (isMark : c :: rest = mark :: others)
      (other : isNumeric mark = false) : False := by
    rw [(List.cons.inj isMark).1, other] at numeric
    contradiction
  unfold token? at taken
  split at taken
  next isMark => exact (notMark isMark rfl).elim
  next isMark => exact (notMark isMark rfl).elim
  next isMark => exact (notMark isMark rfl).elim
  next isMark => exact (notMark isMark rfl).elim
  next isMark => exact (notMark isMark rfl).elim
  next isMark => exact (notMark isMark rfl).elim
  · exact .inl (Prod.mk.inj (Option.some.inj taken)).1.symm
  · exact .inr (.inl ⟨true, (Prod.mk.inj (Option.some.inj taken)).1.symm⟩)
  · exact .inr (.inl ⟨false, (Prod.mk.inj (Option.some.inj taken)).1.symm⟩)
  next isQuote => exact (notMark isQuote rfl).elim
  next isMinus =>
    obtain ⟨rfl, rfl⟩ := List.cons.inj isMinus
    obtain ⟨numeral, isNumber, read⟩ := asNumber taken
    exact .inr (.inr ⟨numeral, isNumber, .inl ⟨rfl, read⟩⟩)
  · obtain ⟨numeral, isNumber, read⟩ := asNumber taken
    exact .inr (.inr ⟨numeral, isNumber, .inr ⟨isDigit_of_numeral? read, read⟩⟩)

/-- No space belongs to a number. -/
theorem isSpace_of_isNumeric (numeric : isNumeric c = true) : isSpace c = false := by
  by_contra isBlank
  simp only [Bool.not_eq_false, isSpace, Bool.or_eq_true, decide_eq_true_eq] at isBlank
  rcases isBlank with ((rfl | rfl) | rfl) | rfl <;> contradiction

/-- No space is skipped in front of a number. -/
theorem dropWhile_isSpace_of_isNumeric (numeric : isNumeric c = true) (rest : List Char) :
    (c :: rest).dropWhile isSpace = c :: rest :=
  List.dropWhile_cons_of_neg (by simp [isSpace_of_isNumeric numeric])

theorem isNumeric_of_isDigit (isDigit : c.isDigit = true) : isNumeric c = true := by
  simp [isNumeric, Char.isAlphanum, isDigit]

/-- A text that is a numeral and nothing else, with or without a sign, is read as that numeral. -/
theorem writes_of_numeral
    (whole : c = '-' ∧ numeral? true rest = some (numeral, []) ∨
      c.isDigit = true ∧ numeral? false (c :: rest) = some (numeral, [])) :
    Writes (c :: rest) [.number numeral] := by
  intro behind more ends reads
  rcases whole with ⟨rfl, read⟩ | ⟨isDigit, read⟩
  · refine .front (List.cons_ne_nil _ _) (by simp [isSpace]) ?_ reads
    have longer := (takesFront_numeral? true).append ends read
    rw [List.cons_append, token?_minus, longer]
    rfl
  · refine .front (List.cons_ne_nil _ _) ?_ ?_ reads
    · rintro _ ⟨⟩
      exact isSpace_of_isNumeric (isNumeric_of_isDigit isDigit)
    · have longer := (takesFront_numeral? false).append ends read
      rw [List.cons_append] at longer ⊢
      rw [token?_of_isDigit isDigit, longer]
      rfl

end Token

/-! ## Texts that are one number -/

/-- Reading goes on from the tokens read before and stops where only spaces are left. -/
theorem exists_of_tokensWithin {fuel : Nat} {front tokens : List Token} {text : List Char}
    (read : tokensWithin fuel front text = some tokens) :
    ∃ others, tokens = front.reverse ++ others ∧
      (others = [] → text.dropWhile isSpace = []) := by
  induction fuel generalizing front text with
  | zero => contradiction
  | succ fuel inductionHypothesis =>
    rw [tokensWithin] at read
    split at read
    · rename_i blank
      obtain rfl := Option.some.inj read
      exact ⟨[], (List.append_nil _).symm, fun _ => blank⟩
    · split at read
      · contradiction
      · rename_i token left taken
        obtain ⟨others, rfl, -⟩ := inductionHypothesis read
        exact ⟨token :: others, by simp, fun empty => absurd empty (List.cons_ne_nil _ _)⟩

/-- No token may follow a complete text. -/
theorem run_complete {result : Option Document} {tokens : List Token} {next : Document.Progress}
    (run : tokens.foldlM Document.Progress.read ⟨[], result, .separator⟩ = some next) :
    tokens = [] ∧ next.result = result := by
  cases tokens with
  | nil => exact ⟨rfl, Option.some.inj run ▸ rfl⟩
  | cons token tokens => cases token <;> exact nomatch run

/-- A text of a number that is read as a number is one numeral, wherever it stands. -/
theorem exists_numeral_of_parse? {text : String} {number : Number} (numeric : IsNumericText text)
    (parsed : Document.parse? text = some (.number number)) :
    ∃ numeral, Writes text.toList [.number numeral] ∧ numeral.value? = some number := by
  obtain ⟨tokens, tokensRead, parsed⟩ := Option.bind_eq_some_iff.1 parsed
  obtain ⟨progress, run, isResult⟩ := Option.bind_eq_some_iff.1 parsed
  rw [IsNumericText] at numeric
  rw [tokens?, tokensWithin] at tokensRead
  cases written : text.toList with
  | nil =>
    rw [written] at tokensRead
    obtain rfl := Option.some.inj tokensRead
    obtain rfl := Option.some.inj run
    contradiction
  | cons c rest =>
    rw [written] at tokensRead numeric
    have isFirst := numeric c List.mem_cons_self
    simp only [dropWhile_isSpace_of_isNumeric isFirst] at tokensRead
    split at tokensRead
    · contradiction
    · rename_i token left taken
      obtain ⟨others, rfl, atEnd⟩ := exists_of_tokensWithin tokensRead
      rcases token?_of_isNumeric isFirst taken with
        rfl | ⟨value, rfl⟩ | ⟨numeral, rfl, whole⟩
      · obtain ⟨-, same⟩ := run_complete run
        simp [same] at isResult
      · obtain ⟨-, same⟩ := run_complete run
        simp [same] at isResult
      · obtain ⟨rfl, same⟩ := run_complete run
        have isSuffix : left <:+ c :: rest := by
          rcases whole with ⟨-, read⟩ | ⟨-, read⟩
          · exact ((takesFront_numeral? true).isSuffix read).trans (List.suffix_cons _ _)
          · exact (takesFront_numeral? false).isSuffix read
        -- What is left consists of spaces, and of characters of a number.
        have nothingLeft : left = [] := by
          cases left with
          | nil => rfl
          | cons d left =>
            have isNext := numeric d (isSuffix.subset List.mem_cons_self)
            rw [dropWhile_isSpace_of_isNumeric isNext] at atEnd
            exact absurd (atEnd rfl) (List.cons_ne_nil _ _)
        subst nothingLeft
        refine ⟨numeral, writes_of_numeral whole, ?_⟩
        rw [same] at isResult
        cases denoted : numeral.value? with
        | none => simp [denoted] at isResult
        | some held => simpa [denoted] using isResult

/-- The text of a number that is read as that number is one numeral, wherever it stands. -/
theorem Number.ReadsBack.exists_numeral {number : Number} (readsBack : number.ReadsBack) :
    ∃ numeral, Writes number.text.toList [.number numeral] ∧ numeral.value? = some number :=
  exists_numeral_of_parse? (isNumericText_text number) readsBack

/-! ## Integers -/

/-- The digits of a positive number have no zero in front. -/
theorem head?_toDigits_ne_zero {n : Nat} (positive : 0 < n) :
    (Nat.toDigits 10 n).head? ≠ some '0' := by
  induction n using Nat.strongRecOn with
  | ind n inductionHypothesis =>
    by_cases small : n < 10
    · rw [Nat.toDigits_of_lt_base small]
      have nonzero : ∀ n < 10, 0 < n → n.digitChar ≠ '0' := by decide
      exact fun isZero => nonzero n small positive (Option.some.inj isZero)
    · rw [Nat.toDigits_of_base_le (by decide) (by omega),
        List.head?_append_of_ne_nil _ Nat.toDigits_ne_nil]
      exact inductionHypothesis (n / 10) (by omega) (by omega)

/-- The digits of a number are a whole part. -/
theorem wholePart?_toDigits (n : Nat) :
    wholePart? (Nat.toDigits 10 n) = some (Nat.toDigits 10 n, []) := by
  have areDigits : ∀ c ∈ Nat.toDigits 10 n, c.isDigit = true := fun _ listed =>
    Nat.isDigit_of_mem_toDigits (by decide) (by decide) listed
  have taken : (Nat.toDigits 10 n).takeWhile Char.isDigit = Nat.toDigits 10 n := by
    simpa using @List.takeWhile_append_of_pos _ _ _ [] areDigits
  have nothingLeft : (Nat.toDigits 10 n).dropWhile Char.isDigit = [] := by
    simpa using @List.dropWhile_append_of_pos _ _ _ [] areDigits
  rcases Nat.eq_zero_or_pos n with rfl | positive
  · rfl
  · have first := head?_toDigits_ne_zero positive
    cases written : Nat.toDigits 10 n with
    | nil => exact absurd written Nat.toDigits_ne_nil
    | cons c rest =>
      rw [written] at first taken nothingLeft
      rw [wholePart?_of_ne fun isZero => first (congrArg some isZero), digits?, taken, nothingLeft]
      rfl

/-- The digits of a number are a numeral. -/
theorem numeral?_toDigits (isNegative : Bool) (n : Nat) :
    numeral? isNegative (Nat.toDigits 10 n) =
      some (⟨isNegative, Nat.toDigits 10 n, none, none⟩, []) :=
  numeral?_eq_some_iff.2 ⟨_, _, _, _, _, wholePart?_toDigits n, rfl, rfl, rfl⟩

/-- Digits of a number of 64 bits are all collected. -/
theorem Collected.addWhole_of_lt {digits : List Char} {coefficient : Nat}
    (small : Nat.ofDigitChars 10 digits coefficient < UInt64.size) :
    Collected.addWhole ⟨coefficient, 0⟩ digits = ⟨Nat.ofDigitChars 10 digits coefficient, 0⟩ := by
  induction digits generalizing coefficient with
  | nil => rfl
  | cons digit rest inductionHypothesis =>
    rw [Nat.ofDigitChars_cons, Nat.mul_comm] at small ⊢
    have fits : coefficient * 10 + (digit.toNat - '0'.toNat) < UInt64.size := by
      rw [Nat.ofDigitChars_eq_ofDigitChars_zero] at small
      have grows := Nat.le_mul_of_pos_left (coefficient * 10 + (digit.toNat - '0'.toNat))
        (Nat.pow_pos (n := rest.length) (by decide : 0 < 10))
      omega
    rw [addWhole_cons, append?, if_pos fits]
    exact inductionHypothesis small

theorem collected_toDigits {n : Nat} (small : n < UInt64.size) :
    Collected.addWhole ⟨0, 0⟩ (Nat.toDigits 10 n) = ⟨n, 0⟩ := by
  have value : Nat.ofDigitChars 10 (Nat.toDigits 10 n) 0 = n :=
    Nat.ofDigitChars_toDigits (by decide) (by decide)
  rw [Collected.addWhole_of_lt (by rwa [value]), value]

/-- The value of the digits of a number. -/
theorem value?_toDigits {n : Nat} (small : n < UInt64.size) :
    (Numeral.mk false (Nat.toDigits 10 n) none none).value? = some (.int n) := by
  have read : (Numeral.mk false (Nat.toDigits 10 n) none none).integer? = some (n : Int) := by
    simp [Numeral.integer?, collected_toDigits small]
  rw [Numeral.value?, read]

theorem value?_minus_toDigits {n : Nat} (positive : 0 < n)
    (small : n ≤ Int64.minValue.toInt.natAbs) :
    (Numeral.mk true (Nat.toDigits 10 n) none none).value? = some (.int (-n)) := by
  have least : Int64.minValue.toInt.natAbs < UInt64.size := by decide
  have collected := collected_toDigits (Nat.lt_of_le_of_lt small least)
  have read : (Numeral.mk true (Nat.toDigits 10 n) none none).integer? = some (-n : Int) := by
    simpa [Numeral.integer?, collected, positive] using small
  rw [Numeral.value?, read]

/-- A text that is one numeral holds the value of that numeral. -/
theorem parse?_of_writes {text : String} {numeral : Numeral} {number : Number}
    (writes : Writes text.toList [.number numeral]) (denoted : numeral.value? = some number) :
    Document.parse? text = some (.number number) := by
  rw [Document.parse?, writes.reads.tokens?]
  simp [Document.Progress.read, Document.Progress.start, Document.Progress.readValue,
    Document.Progress.supply, denoted]

/-- Integers of 64 bits are read back. -/
theorem Number.readsBack_int {value : Int} (fits : (Number.int value).Fits) :
    (Number.int value).ReadsBack := by
  obtain ⟨least, size⟩ := fits
  cases value with
  | ofNat n =>
    refine parse?_of_writes ?_ (value?_toDigits (Int.ofNat_lt.1 size))
    have text : (Number.int (.ofNat n)).text.toList = Nat.toDigits 10 n := Nat.toList_repr
    have digits := numeral?_toDigits false n
    rw [text]
    cases written : Nat.toDigits 10 n with
    | nil => exact absurd written Nat.toDigits_ne_nil
    | cons c rest =>
      rw [written] at digits
      exact writes_of_numeral (.inr ⟨isDigit_of_numeral? digits, digits⟩)
  | negSucc n =>
    refine parse?_of_writes ?_ (value?_minus_toDigits (Nat.succ_pos n) (by omega))
    have text : (Number.int (.negSucc n)).text.toList = '-' :: Nat.toDigits 10 (n + 1) := by
      have digits : (n + 1).repr.toList = Nat.toDigits 10 (n + 1) := Nat.toList_repr
      rw [← digits]
      exact String.toList_append
    rw [text]
    exact writes_of_numeral (.inl ⟨rfl, numeral?_toDigits true (n + 1)⟩)

end NeutralSql.Json
