import NeutralSql.Proofs.SqlText.Scan
import NeutralSql.SqlText.Kind

/-!
# What stands in front of a statement

Blanks, opening parentheses and comments may stand in front of a statement, in any order. They
are skipped round by round: a round passes over blanks and parentheses, and over one comment if
one stands there. Each round that finds a comment leaves a shorter text, and the first one that
finds none leaves the statement. `skipPreamble_eq_iff` says what is skipped: all of a preamble, and
nothing else but a comment without an end.
-/

namespace NeutralSql.SqlText

open Text (isBlank)

/-! ## Comments and their ends -/

/-- A line goes up to its first line feed. -/
theorem afterLine_append {content : List Char} (oneLine : '\n' ∉ content) (rest : List Char) :
    afterLine (content ++ '\n' :: rest) = rest := by
  induction content with
  | nil => rfl
  | cons c content inductionHypothesis =>
    obtain ⟨other, oneLine⟩ := not_or.1 (mt List.mem_cons.2 oneLine)
    rw [List.cons_append, afterLine, if_neg (Ne.symm other)]
    exact inductionHypothesis oneLine

/-- A line has an end, or it is all that is left. -/
theorem afterLine_cases (text : List Char) :
    (∃ content, '\n' ∉ content ∧ text = content ++ '\n' :: afterLine text) ∨
      '\n' ∉ text ∧ afterLine text = [] := by
  induction text with
  | nil => exact .inr ⟨List.not_mem_nil, rfl⟩
  | cons c rest inductionHypothesis =>
    by_cases ends : c = '\n'
    · rw [afterLine, if_pos ends]
      exact .inl ⟨[], List.not_mem_nil, by rw [ends, List.nil_append]⟩
    · rw [afterLine, if_neg ends]
      have kept {content : List Char} (oneLine : '\n' ∉ content) : '\n' ∉ c :: content :=
        List.not_mem_cons_of_ne_of_not_mem (Ne.symm ends) oneLine
      rcases inductionHypothesis with ⟨content, oneLine, same⟩ | ⟨oneLine, nothing⟩
      · exact .inl ⟨c :: content, kept oneLine, congrArg (c :: ·) same⟩
      · exact .inr ⟨kept oneLine, nothing⟩

/-- A comment goes up to its first closing mark. -/
theorem afterComment_append {content : List Char} (unclosed : ¬ ['*', '/'] <:+: content)
    (rest : List Char) : afterComment (content ++ '*' :: '/' :: rest) = rest := by
  induction content with
  | nil => rfl
  | cons c content inductionHypothesis =>
    rw [List.infix_cons_iff, not_or] at unclosed
    rw [List.cons_append, afterComment]
    · exact inductionHypothesis unclosed.2
    · rintro behind rfl closes
      cases content with
      | nil => exact absurd (List.cons.inj closes).1 (by decide)
      | cons next content =>
        obtain ⟨rfl, -⟩ := List.cons.inj closes
        exact unclosed.1 ⟨content, rfl⟩

/-- A comment has an end, or it is all that is left. -/
theorem afterComment_cases (text : List Char) :
    (∃ content, ¬ ['*', '/'] <:+: content ∧ text = content ++ '*' :: '/' :: afterComment text) ∨
      ¬ ['*', '/'] <:+: text ∧ afterComment text = [] := by
  have empty : ¬ ['*', '/'] <:+: ([] : List Char) := by decide
  fun_induction afterComment text with
  | case1 rest => exact .inl ⟨[], empty, rfl⟩
  | case2 c rest noEnd inductionHypothesis =>
    -- The first mark in `rest` is the first one here, as none begins at `c`.
    have kept {content behind : List Char} (unclosed : ¬ ['*', '/'] <:+: content)
        (front : rest = content ++ behind) : ¬ ['*', '/'] <:+: c :: content := by
      rw [List.infix_cons_iff, not_or]
      refine ⟨?_, unclosed⟩
      rintro ⟨others, closes⟩
      obtain ⟨rfl, rfl⟩ := List.cons.inj closes
      exact noEnd (others ++ behind) rfl front
    rcases inductionHypothesis with ⟨content, unclosed, same⟩ | ⟨unclosed, nothing⟩
    · exact .inl ⟨c :: content, kept unclosed same, congrArg (c :: ·) same⟩
    · exact .inr ⟨kept unclosed (List.append_nil rest).symm, nothing⟩
  | case3 => exact .inr ⟨empty, rfl⟩

/-! ## One round -/

section Rounds

variable {text rest next : List Char}

/-- A line comment is skipped. -/
theorem skipPreamble_line (front : text.dropWhile isPreamble = '-' :: '-' :: rest) :
    skipPreamble text = skipPreamble (afterLine rest) := by
  rw [skipPreamble]
  split
  · rename_i behind isLine
    rw [front] at isLine
    obtain ⟨-, isLine⟩ := List.cons.inj isLine
    obtain ⟨-, rfl⟩ := List.cons.inj isLine
    rfl
  · rename_i behind isComment
    rw [front] at isComment
    exact absurd (List.cons.inj isComment).1 (by decide)
  · rename_i noLine _
    exact absurd front (noLine rest)

/-- A comment between marks is skipped. -/
theorem skipPreamble_comment (front : text.dropWhile isPreamble = '/' :: '*' :: rest) :
    skipPreamble text = skipPreamble (afterComment rest) := by
  rw [skipPreamble]
  split
  · rename_i behind isLine
    rw [front] at isLine
    exact absurd (List.cons.inj isLine).1 (by decide)
  · rename_i behind isComment
    rw [front] at isComment
    obtain ⟨-, isComment⟩ := List.cons.inj isComment
    obtain ⟨-, rfl⟩ := List.cons.inj isComment
    rfl
  · rename_i _ noComment
    exact absurd front (noComment rest)

/-- Nothing more is skipped where no comment stands. -/
theorem skipPreamble_body (noLine : ∀ rest, text.dropWhile isPreamble ≠ '-' :: '-' :: rest)
    (noComment : ∀ rest, text.dropWhile isPreamble ≠ '/' :: '*' :: rest) :
    skipPreamble text = text.dropWhile isPreamble := by
  rw [skipPreamble]
  split
  · rename_i rest isLine
    exact absurd isLine (noLine rest)
  · rename_i rest isComment
    exact absurd isComment (noComment rest)
  · rfl

/-- Blanks and parentheses in front do not matter. -/
theorem skipPreamble_congr {other : List Char}
    (same : text.dropWhile isPreamble = other.dropWhile isPreamble) :
    skipPreamble text = skipPreamble other := by
  fun_cases skipPreamble other with
  | case1 rest front => exact skipPreamble_line (same.trans front)
  | case2 rest front => exact skipPreamble_comment (same.trans front)
  | case3 noLine noComment =>
    rw [← same] at noLine noComment ⊢
    exact skipPreamble_body noLine noComment

/-- A round that finds a comment goes on with what follows that. -/
inductive SkipsTo (text : List Char) : List Char → Prop where
  | line {rest : List Char} (front : text.dropWhile isPreamble = '-' :: '-' :: rest) :
      SkipsTo text (afterLine rest)
  | comment {rest : List Char} (front : text.dropWhile isPreamble = '/' :: '*' :: rest) :
      SkipsTo text (afterComment rest)

/-- Such a round takes the opening mark at least. -/
theorem SkipsTo.shortens (round : SkipsTo text next) : next.length + 2 ≤ text.length := by
  have passed := length_dropWhile_le isPreamble text
  cases round with
  | @line rest front =>
    have kept := length_afterLine_le rest
    rw [front, List.length_cons, List.length_cons] at passed
    omega
  | @comment rest front =>
    have kept := length_afterComment_le rest
    rw [front, List.length_cons, List.length_cons] at passed
    omega

/-- It does not change what is left in the end. -/
theorem SkipsTo.skipPreamble_eq (round : SkipsTo text next) :
    skipPreamble text = skipPreamble next := by
  cases round with
  | line front => exact skipPreamble_line front
  | comment front => exact skipPreamble_comment front

/-- From every text the rounds come to one in which none finds a comment, and that one leaves
what skipping leaves. -/
theorem exists_last_round (text : List Char) :
    ∃ last, Relation.ReflTransGen SkipsTo text last ∧ (∀ next, ¬ SkipsTo last next) ∧
      skipPreamble text = last.dropWhile isPreamble := by
  fun_induction skipPreamble text with
  | case1 text rest front inductionHypothesis =>
    obtain ⟨last, rounds, isLast⟩ := inductionHypothesis
    exact ⟨last, .head (.line front) rounds, isLast⟩
  | case2 text rest front inductionHypothesis =>
    obtain ⟨last, rounds, isLast⟩ := inductionHypothesis
    exact ⟨last, .head (.comment front) rounds, isLast⟩
  | case3 text noLine noComment =>
    refine ⟨text, .refl, ?_, rfl⟩
    rintro next (⟨front⟩ | ⟨front⟩)
    · exact noLine _ front
    · exact noComment _ front

end Rounds

/-! ## What is left -/

/-- Nothing that may stand in front of a statement stands in front of the text. -/
structure IsBody (text : List Char) : Prop where
  first : ∀ c ∈ text.head?, isBlank c = false ∧ c ≠ '('
  noLine : ¬ ['-', '-'] <+: text
  noComment : ¬ ['/', '*'] <+: text

/-- Of such a text nothing is skipped. -/
theorem IsBody.skipPreamble_eq {text : List Char} (isBody : IsBody text) :
    skipPreamble text = text := by
  have kept : text.dropWhile isPreamble = text := by
    cases text with
    | nil => rfl
    | cons c rest =>
      obtain ⟨notBlank, notOpen⟩ := isBody.first c rfl
      exact List.dropWhile_cons_of_neg (by simp [isPreamble, notBlank, notOpen])
  refine (skipPreamble_body ?_ ?_).trans kept
  · rintro rest front
    exact isBody.noLine ⟨rest, front.symm.trans kept⟩
  · rintro rest front
    exact isBody.noComment ⟨rest, front.symm.trans kept⟩

/-- Skipping leaves nothing more to be skipped. -/
theorem isBody_skipPreamble (text : List Char) : IsBody (skipPreamble text) := by
  fun_induction skipPreamble text with
  | case1 text rest front inductionHypothesis => exact inductionHypothesis
  | case2 text rest front inductionHypothesis => exact inductionHypothesis
  | case3 text noLine noComment =>
    refine ⟨fun c isFirst => ?_, ?_, ?_⟩
    · have stopped := List.head?_dropWhile_not isPreamble text
      rw [isFirst] at stopped
      simpa [isPreamble] using stopped
    · rintro ⟨rest, front⟩
      exact noLine rest front.symm
    · rintro ⟨rest, front⟩
      exact noComment rest front.symm

/-- A text that begins with a letter is such a text. -/
theorem isBody_cons_of_isAlpha {c : Char} (letter : c.isAlpha = true) (rest : List Char) :
    IsBody (c :: rest) := by
  have apart {first second : Char} (notLetter : first.isAlpha = false) :
      ¬ [first, second] <+: c :: rest := by
    rintro ⟨behind, front⟩
    obtain ⟨rfl, -⟩ := List.cons.inj front
    exact Bool.false_ne_true (notLetter.symm.trans letter)
  refine ⟨fun other isFirst => ?_, apart rfl, apart rfl⟩
  obtain rfl := Option.some.inj isFirst
  constructor
  · have isWord : Text.isWord c = true :=
      isWord_of_isAlphanum (by rw [Char.isAlphanum, letter, Bool.true_or])
    rw [Bool.eq_false_iff]
    intro blank
    rw [isWord_of_isBlank blank] at isWord
    contradiction
  · rintro rfl
    contradiction

/-! ## Preambles -/

/-- A part of a preamble. A line holds no line feed but the one that ends it, and a comment
between marks no closing mark but its own. -/
inductive PreamblePart where
  | blank (c : Char) (isBlank : Text.isBlank c = true)
  | parenthesis
  | line (content : List Char) (oneLine : '\n' ∉ content)
  | comment (content : List Char) (unclosed : ¬ ['*', '/'] <:+: content)

namespace PreamblePart

/-- The text of a part. -/
def text : PreamblePart → List Char
  | blank c _ => [c]
  | parenthesis => ['(']
  | line content _ => ['-', '-'] ++ content ++ ['\n']
  | comment content _ => ['/', '*'] ++ content ++ ['*', '/']

/-- A part in front is skipped. -/
theorem skipPreamble_append (part : PreamblePart) (rest : List Char) :
    skipPreamble (part.text ++ rest) = skipPreamble rest := by
  cases part with
  | blank c isBlank =>
    have passed : isPreamble c = true := by rw [isPreamble, isBlank, Bool.true_or]
    exact skipPreamble_congr (List.dropWhile_cons_of_pos passed)
  | parenthesis => exact skipPreamble_congr rfl
  | line content oneLine =>
    have front : (line content oneLine).text ++ rest = '-' :: '-' :: (content ++ '\n' :: rest) := by
      simp [text]
    rw [front, skipPreamble_line rfl, afterLine_append oneLine]
  | comment content unclosed =>
    have front : (comment content unclosed).text ++ rest =
        '/' :: '*' :: (content ++ '*' :: '/' :: rest) := by
      simp [text]
    rw [front, skipPreamble_comment rfl, afterComment_append unclosed]

end PreamblePart

/-- The text of a preamble. -/
def preambleText (parts : List PreamblePart) : List Char :=
  parts.flatMap PreamblePart.text

/-- A preamble is skipped, whatever follows it. -/
theorem skipPreamble_preambleText (parts : List PreamblePart) (rest : List Char) :
    skipPreamble (preambleText parts ++ rest) = skipPreamble rest := by
  induction parts with
  | nil => rfl
  | cons part parts inductionHypothesis =>
    rw [preambleText, List.flatMap_cons, List.append_assoc, part.skipPreamble_append]
    exact inductionHypothesis

/-- A comment without an end. -/
inductive IsUnended : List Char → Prop where
  | line {content : List Char} (oneLine : '\n' ∉ content) : IsUnended ('-' :: '-' :: content)
  | comment {content : List Char} (unclosed : ¬ ['*', '/'] <:+: content) :
      IsUnended ('/' :: '*' :: content)

/-- Nothing is left of such a comment. -/
theorem IsUnended.skipPreamble_eq {comment : List Char} (unended : IsUnended comment) :
    skipPreamble comment = [] := by
  have nothingLeft : skipPreamble [] = [] := skipPreamble_body nofun nofun
  cases unended with
  | @line content oneLine =>
    rcases afterLine_cases content with ⟨front, -, ended⟩ | ⟨-, nothing⟩
    · rw [ended] at oneLine
      exact absurd List.mem_append_cons_self oneLine
    · rw [skipPreamble_line rfl, nothing, nothingLeft]
  | @comment content unclosed =>
    rcases afterComment_cases content with ⟨front, -, ended⟩ | ⟨-, nothing⟩
    · exact absurd ⟨front, afterComment content, by rw [List.append_assoc]; exact ended.symm⟩
        unclosed
    · rw [skipPreamble_comment rfl, nothing, nothingLeft]

/-- What a preamble in front of a text leaves; a comment without an end leaves nothing. -/
inductive Leaves (text : List Char) : List Char → Prop where
  | behind {left : List Char} (parts : List PreamblePart)
      (spelled : text = preambleText parts ++ left) : Leaves text left
  | nothing {comment : List Char} (parts : List PreamblePart) (unended : IsUnended comment)
      (spelled : text = preambleText parts ++ comment) : Leaves text []

namespace Leaves

variable {text middle left : List Char}

/-- What is left can be skipped on. -/
theorem trans (first : Leaves text middle) (second : Leaves middle left) : Leaves text left := by
  cases first with
  | behind parts spelled =>
    cases second with
    | behind others same => exact .behind (parts ++ others) (by simp [preambleText, spelled, same])
    | nothing others unended same =>
      exact .nothing (parts ++ others) unended (by simp [preambleText, spelled, same])
  | nothing parts unended spelled =>
    -- Behind a comment without an end there is nothing that could be skipped on.
    have empty : left = [] := by
      cases second with
      | behind others same => exact (List.append_eq_nil_iff.1 same.symm).2
      | nothing => rfl
    rw [empty]
    exact .nothing parts unended spelled

/-- What may be passed over without a comment is a preamble. -/
theorem dropWhile (text : List Char) : Leaves text (text.dropWhile isPreamble) := by
  induction text with
  | nil => exact .behind [] rfl
  | cons c rest inductionHypothesis =>
    by_cases passed : isPreamble c = true
    · rw [List.dropWhile_cons_of_pos passed]
      refine trans ?_ inductionHypothesis
      rcases Bool.or_eq_true_iff.1 passed with isBlank | isOpen
      · exact .behind [.blank c isBlank] rfl
      · obtain rfl := of_decide_eq_true isOpen
        exact .behind [.parenthesis] rfl
    · rw [List.dropWhile_cons_of_neg passed]
      exact .behind [] rfl

theorem afterLine (rest : List Char) : Leaves ('-' :: '-' :: rest) (afterLine rest) := by
  rcases afterLine_cases rest with ⟨content, oneLine, ended⟩ | ⟨oneLine, nothing⟩
  · refine .behind [.line content oneLine] (Eq.trans (congrArg (['-', '-'] ++ ·) ended) ?_)
    simp [preambleText, PreamblePart.text]
  · rw [nothing]
    exact .nothing [] (.line oneLine) rfl

theorem afterComment (rest : List Char) : Leaves ('/' :: '*' :: rest) (afterComment rest) := by
  rcases afterComment_cases rest with ⟨content, unclosed, ended⟩ | ⟨unclosed, nothing⟩
  · refine .behind [.comment content unclosed] (Eq.trans (congrArg (['/', '*'] ++ ·) ended) ?_)
    simp [preambleText, PreamblePart.text]
  · rw [nothing]
    exact .nothing [] (.comment unclosed) rfl

/-- A round passes over what it may and takes one comment. -/
theorem of_skipsTo (round : SkipsTo text middle) : Leaves text middle := by
  have passed := dropWhile text
  cases round with
  | line front =>
    rw [front] at passed
    exact passed.trans (afterLine _)
  | comment front =>
    rw [front] at passed
    exact passed.trans (afterComment _)

/-- So do all rounds together. -/
theorem of_rounds (rounds : Relation.ReflTransGen SkipsTo text left) : Leaves text left := by
  induction rounds with
  | refl => exact .behind [] rfl
  | tail _ round inductionHypothesis => exact inductionHypothesis.trans (of_skipsTo round)

theorem of_skipPreamble (text : List Char) : Leaves text (skipPreamble text) := by
  obtain ⟨last, rounds, -, same⟩ := exists_last_round text
  rw [same]
  exact (of_rounds rounds).trans (dropWhile last)

end Leaves

/-- Skipping leaves what a preamble leaves, if nothing more can be skipped of that. -/
theorem skipPreamble_eq_iff {text left : List Char} :
    skipPreamble text = left ↔ Leaves text left ∧ IsBody left := by
  constructor
  · rintro rfl
    exact ⟨.of_skipPreamble text, isBody_skipPreamble text⟩
  · rintro ⟨⟨parts, rfl⟩ | ⟨parts, unended, rfl⟩, isBody⟩
    · rw [skipPreamble_preambleText, isBody.skipPreamble_eq]
    · rw [skipPreamble_preambleText, unended.skipPreamble_eq]

/-- What stands in front of a statement decides nothing about its kind. -/
theorem classify_preambleText (parts : List PreamblePart) (rest : List Char) :
    classify (String.ofList (preambleText parts ++ rest)) = classify (String.ofList rest) := by
  simp only [classify, String.toList_ofList, skipPreamble_preambleText]

/-- Skipping comes to an end on every text, as each round that goes on leaves a shorter one. What
it leaves is what a preamble leaves, or nothing behind a comment without an end, and cannot be
skipped any further. Every preamble is skipped without a change to the kind of what follows,
whatever its comments say, and no more than the preamble where a letter follows. -/
theorem skipPreamble_exact :
    (∀ text next, SkipsTo text next →
      next.length < text.length ∧ skipPreamble text = skipPreamble next) ∧
      (∀ text, ∃ last, Relation.ReflTransGen SkipsTo text last ∧ (∀ next, ¬ SkipsTo last next) ∧
        skipPreamble text = last.dropWhile isPreamble) ∧
      (∀ text left, skipPreamble text = left ↔ Leaves text left ∧ IsBody left) ∧
      ∀ parts body,
        classify (String.ofList (preambleText parts ++ body)) = classify (String.ofList body) ∧
          ((∃ c ∈ body.head?, c.isAlpha = true) →
            skipPreamble (preambleText parts ++ body) = body) := by
  refine ⟨fun text next round => ⟨?_, round.skipPreamble_eq⟩, exists_last_round,
    fun text left => skipPreamble_eq_iff, fun parts body => ⟨classify_preambleText parts body, ?_⟩⟩
  · exact Nat.lt_of_lt_of_le (Nat.lt_add_of_pos_right Nat.two_pos) round.shortens
  · rintro ⟨c, isFirst, letter⟩
    obtain ⟨rest, rfl⟩ := List.head?_eq_some_iff.1 isFirst
    rw [skipPreamble_preambleText]
    exact (isBody_cons_of_isAlpha letter rest).skipPreamble_eq

/-- A round behind an empty comment, and a query behind comments that name writes and hold marks of
the other form. -/
theorem skipPreamble_exact_commented :
    skipPreamble ['-', '-', '\n', '('] = skipPreamble ['('] ∧
      skipPreamble "-- DELETE /*\n\u00A0/* UPDATE -- **/((WITH t AS (SELECT 1) SELECT 2".toList =
        "WITH t AS (SELECT 1) SELECT 2".toList ∧
      classify "-- DELETE /*\n\u00A0/* UPDATE -- **/((WITH t AS (SELECT 1) SELECT 2" =
        classify "WITH t AS (SELECT 1) SELECT 2" := by
  have round : SkipsTo ['-', '-', '\n', '('] ['('] := @SkipsTo.line _ ['\n', '('] rfl
  obtain ⟨parts, spelled⟩ : ∃ parts : List PreamblePart,
      preambleText parts ++ "WITH t AS (SELECT 1) SELECT 2".toList =
        "-- DELETE /*\n\u00A0/* UPDATE -- **/((WITH t AS (SELECT 1) SELECT 2".toList :=
    ⟨[.line " DELETE /*".toList (by decide), .blank '\u00A0' rfl,
      .comment " UPDATE -- *".toList (by decide), .parenthesis, .parenthesis], by decide⟩
  have behind := skipPreamble_exact.2.2.2 parts "WITH t AS (SELECT 1) SELECT 2".toList
  rw [spelled, String.ofList_toList, String.ofList_toList] at behind
  exact ⟨(skipPreamble_exact.1 _ _ round).2, behind.2 ⟨'W', rfl, rfl⟩, behind.1⟩

end NeutralSql.SqlText
