import NeutralSql.Proofs.SqlText.Path

/-!
# FROM behind any text

Names that are no tables do little harm as long as they hide no table. Text without
quotation marks hides the table behind the FROM that follows it in one case alone: its end
still waits for a name, as in `SELECT max(ts) AS update FROM users`. Then FROM is taken for
that name. `table_behind_from` tells the two cases apart by the text alone, whatever the table
is called and whatever stands behind it.
-/

namespace NeutralSql.SqlText

open Text (asciiLower isBlank isWord wordCanBegin wordHasEnded)

/-! ## Text that waits for a name -/

/-- Text behind an anchor in which the name still lacks its last segment: blanks, conditions
and segments with their dots. -/
inductive LacksName : List Char → Prop where
  | nil : LacksName []
  | blank {c : Char} {rest : List Char} (isBlank : isBlank c = true) (lacks : LacksName rest) :
      LacksName (c :: rest)
  | condition {text rest : List Char} (dropped : dropCondition? text = some rest)
      (lacks : LacksName rest) : LacksName text
  | dotted {text segment rest afterDot : List Char}
      (read : segment? text = some (segment, rest)) (dot : skipBlanks rest = '.' :: afterDot)
      (lacks : LacksName afterDot) : LacksName text

/-- An anchor with nothing behind it but a name that is lacking. -/
def LacksTarget (text : List Char) : Prop :=
  ∃ anchor ∈ anchors, ∃ rest, dropPhrase? anchor text = some rest ∧ LacksName rest

/-- Text that ends where a table is still to be named: from one of its words on it is an anchor
without a name. -/
def AwaitsTable (text : List Char) : Prop :=
  ∃ before left, text = before ++ left ∧ wordCanBegin before.getLast? = true ∧
    LacksTarget (left ++ [' '])

/-- Blanks in front of a name that is lacking do not matter. -/
theorem LacksName.of_skipBlanks {text : List Char} (lacks : LacksName (skipBlanks text)) :
    LacksName text := by
  induction text with
  | nil => exact .nil
  | cons c rest inductionHypothesis =>
    cases blank : isBlank c with
    | true =>
      rw [skipBlanks, List.dropWhile_cons, if_pos blank] at lacks
      exact .blank blank (inductionHypothesis lacks)
    | false => rwa [skipBlanks_cons blank] at lacks

/-! ## What stands in front of FROM -/

/-- Text without quotation marks that is empty or ends in a space. -/
structure IsFront (text : List Char) : Prop where
  unquoted : ∀ c ∈ text, closingMark? c = none
  spaced : text ≠ [] → text.getLast? = some ' '

/-- The end of a front is a front. -/
theorem IsFront.suffix {text rest : List Char} (isFront : IsFront text) (isEnd : rest <:+ text) :
    IsFront rest where
  unquoted c listed := isFront.unquoted c (isEnd.subset listed)
  spaced someRest := by
    obtain ⟨taken, rfl⟩ := isEnd
    have spaced := isFront.spaced (List.append_ne_nil_of_right_ne_nil taken someRest)
    rwa [List.getLast?_append_of_ne_nil taken someRest] at spaced

/-- A front goes on behind each of its characters that is no space. -/
theorem IsFront.tail_ne_nil {c : Char} {rest : List Char} (isFront : IsFront (c :: rest))
    (noSpace : c ≠ ' ') : rest ≠ [] := by
  rintro rfl
  exact noSpace (Option.some.inj (isFront.spaced (List.cons_ne_nil c [])))

/-- FROM, which is an identifier as well. -/
def fromName : List Char :=
  ['F', 'R', 'O', 'M']

/-- FROM with text behind it. -/
def fromThen (behind : List Char) : List Char :=
  fromName ++ behind

/-! ## Words and conditions -/

/-- Dropping something from a text leaves its end, and FROM behind the text makes no
difference. -/
structure StaysInside (drop? : List Char → Option (List Char)) (text : List Char) : Prop where
  same : ∀ behind, drop? (text ++ fromThen behind) = (drop? text).map (· ++ fromThen behind)
  suffix : ∀ {rest}, drop? text = some rest → rest <:+ text

/-- One thing is dropped behind another. -/
theorem StaysInside.bind {first? second? : List Char → Option (List Char)} {text : List Char}
    (first : StaysInside first? text)
    (second : ∀ {rest}, first? text = some rest → StaysInside second? rest) :
    StaysInside (fun text => (first? text).bind second?) text where
  same behind := by
    rw [first.same]
    cases dropped : first? text with
    | none => rfl
    | some rest => exact (second dropped).same behind
  suffix dropped := by
    obtain ⟨rest, firstDropped, secondDropped⟩ := Option.bind_eq_some_iff.1 dropped
    exact ((second firstDropped).suffix secondDropped).trans (first.suffix firstDropped)

/-- Blanks in front of FROM are skipped within the text. -/
theorem skipBlanks_append (text behind : List Char) :
    skipBlanks (text ++ fromThen behind) = skipBlanks text ++ fromThen behind := by
  have kept : skipBlanks (fromThen behind) = fromThen behind := skipBlanks_cons (by decide) _
  rw [skipBlanks, List.dropWhile_append]
  split
  · rename_i allBlank
    rw [skipBlanks, List.isEmpty_iff.1 allBlank]
    exact kept
  · rfl

/-- Blanks that have to stand somewhere are dropped within the text. -/
theorem dropBlanks?_inside (text : List Char) : StaysInside dropBlanks? text where
  same behind := by
    cases text with
    | nil => rfl
    | cons c rest =>
      rw [List.cons_append, dropBlanks?, dropBlanks?]
      split
      · exact congrArg some (skipBlanks_append rest behind)
      · rfl
  suffix dropped := by
    cases text with
    | nil => contradiction
    | cons c rest =>
      rw [dropBlanks?] at dropped
      split at dropped
      · obtain rfl := Option.some.inj dropped
        exact (List.dropWhile_suffix isBlank).trans (List.suffix_cons c rest)
      · contradiction

/-- A word of letters is dropped within a front, unless FROM alone begins like it. -/
theorem dropWord?_inside {word text : List Char} (isFront : IsFront text)
    (letters : ∀ letter ∈ word, isFormOf letter ' ' = false)
    (unlike : text = [] → ∀ letter ∈ word.head?, isFormOf letter 'F' = false) :
    StaysInside (dropWord? word) text := by
  induction word generalizing text with
  | nil => exact ⟨fun _ => rfl, fun dropped => Option.some.inj dropped ▸ List.suffix_rfl⟩
  | cons letter word inductionHypothesis =>
    obtain ⟨noSpace, letters⟩ := List.forall_mem_cons.1 letters
    cases text with
    | nil =>
      have noForm := unlike rfl letter rfl
      exact ⟨fun behind => by simp [fromThen, fromName, dropWord?, noForm], nofun⟩
    | cons c rest =>
      by_cases isForm : isFormOf letter c = true
      · have someRest : rest ≠ [] := isFront.tail_ne_nil fun space => by
          rw [space, noSpace] at isForm
          contradiction
        have inside := inductionHypothesis (isFront.suffix (List.suffix_cons c rest)) letters
          fun noRest => absurd noRest someRest
        refine ⟨fun behind => ?_, fun dropped => ?_⟩
        · rw [List.cons_append, dropWord?, dropWord?, if_pos isForm, if_pos isForm, inside.same]
        · rw [dropWord?, if_pos isForm] at dropped
          exact (inside.suffix dropped).trans (List.suffix_cons c rest)
      · refine ⟨fun behind => ?_, fun dropped => ?_⟩
        · rw [List.cons_append, dropWord?, dropWord?, if_neg isForm, if_neg isForm]
          rfl
        · rw [dropWord?, if_neg isForm] at dropped
          contradiction

/-- A keyword and its blanks are dropped within a front, unless FROM alone begins like it. -/
theorem dropPhrase?_inside {keyword : String} {text : List Char} (isFront : IsFront text)
    (letters : ∀ letter ∈ keyword.toList, isFormOf letter ' ' = false)
    (unlike : text = [] → ∀ letter ∈ keyword.toList.head?, isFormOf letter 'F' = false) :
    StaysInside (dropPhrase? keyword) text :=
  (dropWord?_inside isFront letters unlike).bind fun _ => dropBlanks?_inside _

/-- The words of a condition are letters, and FROM begins like none of them. -/
theorem condition_letters : ∀ keyword ∈ ["IF", "NOT", "EXISTS"],
    (∀ letter ∈ keyword.toList, isFormOf letter ' ' = false) ∧
      ∀ letter ∈ keyword.toList.head?, isFormOf letter 'F' = false := by
  have decided : ∀ keyword ∈ ["IF", "NOT", "EXISTS"],
      (keyword.toList.all fun letter => !isFormOf letter ' ') = true ∧
        (keyword.toList.head?.all fun letter => !isFormOf letter 'F') = true := by
    decide
  simpa using decided

/-- A condition is dropped within a front. -/
theorem dropCondition?_inside {text : List Char} (isFront : IsFront text) :
    StaysInside dropCondition? text := by
  have phrase (keyword : String) (listed : keyword ∈ ["IF", "NOT", "EXISTS"]) {text : List Char}
      (isFront : IsFront text) : StaysInside (dropPhrase? keyword) text :=
    dropPhrase?_inside isFront (condition_letters keyword listed).1
      fun _ => (condition_letters keyword listed).2
  have ifInside := phrase "IF" (by decide) isFront
  refine ifInside.bind fun {rest} dropped => ?_
  have restFront := isFront.suffix (ifInside.suffix dropped)
  have notInside := phrase "NOT" (by decide) restFront
  cases negated : dropPhrase? "NOT" rest with
  | none =>
    have inside := phrase "EXISTS" (by decide) restFront
    refine ⟨fun behind => ?_, fun dropped => ?_⟩
    · rw [notInside.same, negated]
      exact inside.same behind
    · rw [negated] at dropped
      exact inside.suffix dropped
  | some behind =>
    have isEnd := notInside.suffix negated
    have inside := phrase "EXISTS" (by decide) (restFront.suffix isEnd)
    refine ⟨fun behind => ?_, fun dropped => ?_⟩
    · rw [notInside.same, negated]
      exact inside.same behind
    · rw [negated] at dropped
      exact (inside.suffix dropped).trans isEnd

/-! ## Segments and paths -/

/-- A front without its identifier characters still ends in a space. -/
theorem IsFront.dropWhile_ne_nil {text : List Char} (isFront : IsFront text)
    (someText : text ≠ []) : text.dropWhile continuesName ≠ [] := by
  intro nothing
  have continues := List.dropWhile_eq_nil_iff.1 nothing ' '
    (List.mem_of_getLast? (isFront.spaced someText))
  exact absurd continues (by decide)

/-- A segment is read within a front. -/
theorem segment?_inside {text : List Char} (isFront : IsFront text) (someText : text ≠ [])
    (behind : List Char) :
    segment? (text ++ fromThen behind) =
      (segment? text).map fun (segment, rest) => (segment, rest ++ fromThen behind) := by
  cases text with
  | nil => contradiction
  | cons c rest =>
    have unquoted := isFront.unquoted c List.mem_cons_self
    rw [List.cons_append]
    simp only [segment?, unquoted, identifier?]
    split
    · rename_i begins
      have someRest : rest ≠ [] := isFront.tail_ne_nil (by rintro rfl; contradiction)
      have stops := (isFront.suffix (List.suffix_cons c rest)).dropWhile_ne_nil someRest
      have shorter : (rest.takeWhile continuesName).length ≠ rest.length := by
        intro same
        have whole := congrArg List.length
          (List.takeWhile_append_dropWhile (l := rest) (p := continuesName))
        rw [List.length_append, same, Nat.add_eq_left, List.length_eq_zero_iff] at whole
        exact stops whole
      rw [List.takeWhile_append, List.dropWhile_append, if_neg shorter,
        if_neg (by simpa using stops)]
      rfl
    · rfl

/-- What is left behind a segment of a front stands at its end. -/
theorem segment?_suffix {text segment rest : List Char} (isFront : IsFront text)
    (read : segment? text = some (segment, rest)) : rest <:+ text ∧ rest ≠ [] := by
  cases text with
  | nil => contradiction
  | cons c tail =>
    simp only [segment?, isFront.unquoted c List.mem_cons_self, identifier?] at read
    split at read
    · obtain ⟨-, rfl⟩ := Prod.mk.inj (Option.some.inj read)
      have someTail : tail ≠ [] := isFront.tail_ne_nil (by rintro rfl; contradiction)
      exact ⟨(List.dropWhile_suffix continuesName).trans (List.suffix_cons c tail),
        (isFront.suffix (List.suffix_cons c tail)).dropWhile_ne_nil someTail⟩
    · contradiction

/-- What a reader makes of a text with FROM behind it, whatever follows that: it reads
nothing, or stops within the text, or takes FROM for a name that the text lacks. -/
inductive Meets (read? : List Char → Option (List Char × List Char)) (text : List Char)
    (lacking : Prop) : Prop where
  | passes (read : ∀ behind, EndsName behind → read? (text ++ fromThen behind) = none)
  | stops (last rest : List Char) (someRest : rest ≠ []) (isEnd : rest <:+ text)
      (read : ∀ behind, EndsName behind → read? (text ++ fromThen behind) =
        some (last, rest ++ fromThen behind))
  | takes (lacks : lacking)
      (read : ∀ behind, EndsName behind → read? (text ++ fromThen behind) =
        some (fromName, behind))

/-- A reader makes of a text what another one makes of its end, if it goes on like that. -/
theorem Meets.behind {first? second? : List Char → Option (List Char × List Char)}
    {text left : List Char} {lacking lackingAll : Prop} (met : Meets second? left lacking)
    (isEnd : left <:+ text) (lacks : lacking → lackingAll)
    (goesOn : ∀ behind, EndsName behind → first? (text ++ fromThen behind) =
      second? (left ++ fromThen behind)) : Meets first? text lackingAll := by
  cases met with
  | passes read => exact .passes fun behind ends => (goesOn behind ends).trans (read behind ends)
  | stops last rest someRest isRest read =>
    exact .stops last rest someRest (isRest.trans isEnd) fun behind ends =>
      (goesOn behind ends).trans (read behind ends)
  | takes lacking read =>
    exact .takes (lacks lacking) fun behind ends => (goesOn behind ends).trans (read behind ends)

/-- Behind a front, FROM is read as a segment of its own. -/
theorem segment?_from {behind : List Char} (ends : EndsName behind) :
    segment? (fromThen behind) = some (fromName, behind) :=
  segment?_append (by decide) ends.stopped

/-- No dot follows FROM. -/
theorem pathTail_from {behind : List Char} (ends : EndsName behind) :
    pathTail fromName behind = (fromName, behind) :=
  pathTail_eq_self fun afterDot dotted => absurd dotted (ends.undotted afterDot)

/-- A dot in front of FROM stands in the text. -/
theorem exists_of_skipBlanks_dot {text behind afterDot : List Char}
    (dotted : skipBlanks (text ++ fromThen behind) = '.' :: afterDot) :
    ∃ inside, skipBlanks text = '.' :: inside ∧ afterDot = inside ++ fromThen behind := by
  rw [skipBlanks_append] at dotted
  cases front : skipBlanks text with
  | nil =>
    rw [front] at dotted
    exact absurd (List.cons.inj dotted).1 (by decide)
  | cons c inside =>
    rw [front] at dotted
    obtain ⟨rfl, rfl⟩ := List.cons.inj dotted
    exact ⟨inside, rfl, rfl⟩

/-- A path stops behind a segment of a front that no dot with a segment follows. -/
theorem pathTail_stops {last text : List Char} (someText : text ≠ []) {lacking : Prop}
    (ends : ∀ afterDot, skipBlanks text = '.' :: afterDot → ∀ behind,
      segment? (skipBlanks afterDot ++ fromThen behind) = none) :
    Meets (fun text => some (pathTail last text)) text lacking := by
  refine .stops last text someText List.suffix_rfl fun behind _ => congrArg some ?_
  refine pathTail_eq_self fun afterDot dotted => ?_
  obtain ⟨inside, dottedInside, rfl⟩ := exists_of_skipBlanks_dot dotted
  rw [skipBlanks_append]
  exact ends inside dottedInside behind

/-- A path that has begun within a front. -/
theorem pathTail_meets (last : List Char) {text : List Char} (isFront : IsFront text)
    (someText : text ≠ []) :
    Meets (fun text => some (pathTail last text)) text
      (∃ afterDot, skipBlanks text = '.' :: afterDot ∧ LacksName afterDot) := by
  have afterDotEnd {text afterDot : List Char} (dotted : skipBlanks text = '.' :: afterDot) :
      skipBlanks afterDot <:+ text :=
    (List.dropWhile_suffix isBlank).trans <| (List.suffix_cons '.' afterDot).trans <|
      dotted ▸ List.dropWhile_suffix isBlank
  have dottedBehind {text afterDot : List Char} (dotted : skipBlanks text = '.' :: afterDot)
      (behind : List Char) :
      skipBlanks (text ++ fromThen behind) = '.' :: (afterDot ++ fromThen behind) := by
    rw [skipBlanks_append, dotted, List.cons_append]
  fun_induction pathTail last text with
  | case1 last text afterDot dotted segment rest next inductionHypothesis =>
    have isEnd := afterDotEnd dotted
    have segmentFront := isFront.suffix isEnd
    obtain ⟨isRest, someRest⟩ := segment?_suffix segmentFront next
    have someSegment : skipBlanks afterDot ≠ [] := by
      intro nothing
      rw [nothing] at next
      contradiction
    refine (inductionHypothesis (segmentFront.suffix isRest) someRest).behind (isRest.trans isEnd)
      ?_ fun behind _ => congrArg some (pathTail_of_segment? (dottedBehind dotted behind) ?_)
    · rintro ⟨afterNext, dottedNext, lacks⟩
      exact ⟨afterDot, dotted, .of_skipBlanks (.dotted next dottedNext lacks)⟩
    · rw [skipBlanks_append, segment?_inside segmentFront someSegment, next]
      rfl
  | case2 last text afterDot dotted next =>
    by_cases nothing : skipBlanks afterDot = []
    · refine .takes ⟨afterDot, dotted, .of_skipBlanks (nothing ▸ .nil)⟩ fun behind ends => ?_
      have nextFrom : segment? (skipBlanks (afterDot ++ fromThen behind)) =
          some (fromName, behind) := by
        rw [skipBlanks_append, nothing]
        exact segment?_from ends
      exact congrArg some
        ((pathTail_of_segment? (dottedBehind dotted behind) nextFrom).trans (pathTail_from ends))
    · refine pathTail_stops someText fun inside again behind => ?_
      obtain ⟨-, rfl⟩ := List.cons.inj (dotted.symm.trans again)
      rw [segment?_inside (isFront.suffix (afterDotEnd dotted)) nothing, next]
      rfl
  | case3 last text noDot =>
    exact pathTail_stops someText fun afterDot dotted => absurd dotted (noDot afterDot)

/-- A path behind a front, or within it. -/
theorem path?_meets {text : List Char} (isFront : IsFront text) :
    Meets path? text (LacksName text) := by
  by_cases someText : text = []
  · subst someText
    exact .takes .nil fun behind ends =>
      path?_eq_some_iff.2 ⟨_, _, segment?_from ends, pathTail_from ends⟩
  cases read : segment? text with
  | none =>
    refine .passes fun behind _ => ?_
    rw [path?, segment?_inside isFront someText, read]
    rfl
  | some found =>
    obtain ⟨segment, rest⟩ := found
    obtain ⟨isEnd, someRest⟩ := segment?_suffix isFront read
    refine (pathTail_meets segment (isFront.suffix isEnd) someRest).behind isEnd ?_
      fun behind _ => ?_
    · rintro ⟨afterDot, dotted, lacks⟩
      exact .dotted read dotted lacks
    · rw [path?, segment?_inside isFront someText, read]
      rfl

/-! ## Anchored names -/

/-- A second reader tries what the first one leaves. -/
theorem Meets.or {first? second? : List Char → Option (List Char × List Char)} {text : List Char}
    {lacking : Prop} (first : Meets first? text lacking) (second : Meets second? text lacking) :
    Meets (fun text => (first? text).or (second? text)) text lacking := by
  cases first with
  | passes read =>
    refine second.behind List.suffix_rfl id fun behind ends => ?_
    rw [read behind ends, Option.none_or]
  | stops last rest someRest isEnd read =>
    exact .stops last rest someRest isEnd fun behind ends => by
      rw [read behind ends, Option.some_or]
  | takes lacks read =>
    exact .takes lacks fun behind ends => by rw [read behind ends, Option.some_or]

/-- A reader behind something that is dropped within the text. -/
theorem Meets.dropped {drop? : List Char → Option (List Char)}
    {read? : List Char → Option (List Char × List Char)} {text : List Char}
    {lacking : List Char → Prop} {lackingAll : Prop} (inside : StaysInside drop? text)
    (met : ∀ rest, drop? text = some rest → Meets read? rest (lacking rest))
    (lacks : ∀ rest, drop? text = some rest → lacking rest → lackingAll) :
    Meets (fun text => (drop? text).bind read?) text lackingAll := by
  cases dropped : drop? text with
  | none =>
    refine .passes fun behind _ => ?_
    rw [inside.same, dropped]
    rfl
  | some rest =>
    refine (met rest dropped).behind (inside.suffix dropped) (lacks rest dropped) fun behind _ => ?_
    rw [inside.same, dropped]
    rfl

/-- The target of an anchor behind a front, or within it. -/
theorem target?_meets {text : List Char} (isFront : IsFront text) :
    Meets target? text (LacksName text) := by
  have inside := dropCondition?_inside isFront
  have conditional := Meets.dropped inside
    (fun rest dropped => path?_meets (isFront.suffix (inside.suffix dropped)))
    (fun rest dropped lacks => LacksName.condition dropped lacks)
  exact conditional.or (path?_meets isFront)

/-- Anchors hold no space. -/
theorem anchor_letters : ∀ anchor ∈ anchors, ∀ letter ∈ anchor.toList,
    isFormOf letter ' ' = false := by
  have decided : ∀ anchor ∈ anchors,
      (anchor.toList.all fun letter => !isFormOf letter ' ') = true := by
    decide
  simpa using decided

/-- An anchored name that begins in a front. -/
theorem anchored?_meets {text : List Char} (isFront : IsFront text) (someText : text ≠ []) :
    Meets anchored? text (LacksTarget text) := by
  have each : ∀ listed : List String, (∀ anchor ∈ listed, anchor ∈ anchors) →
      Meets (fun text => listed.findSome? fun anchor => (dropPhrase? anchor text).bind target?) text
        (LacksTarget text) := by
    intro listed isAnchor
    induction listed with
    | nil => exact .passes fun _ _ => rfl
    | cons anchor listed inductionHypothesis =>
      obtain ⟨isFirst, isAnchor⟩ := List.forall_mem_cons.1 isAnchor
      have inside := dropPhrase?_inside isFront (anchor_letters anchor isFirst)
        fun noText => absurd noText someText
      have first : Meets (fun text => (dropPhrase? anchor text).bind target?) text
          (LacksTarget text) :=
        .dropped inside (fun rest dropped => target?_meets (isFront.suffix (inside.suffix dropped)))
          fun rest dropped lacks => ⟨anchor, isFirst, rest, dropped, lacks⟩
      refine (first.or (inductionHypothesis isAnchor)).behind List.suffix_rfl id fun _ _ => ?_
      rw [List.findSome?_cons]
      cases (dropPhrase? anchor _).bind target? <;> rfl
  exact each anchors fun _ => id

/-- Dropping a condition makes no text longer. -/
theorem length_le_of_dropCondition? {text rest : List Char}
    (dropped : dropCondition? text = some rest) : rest.length ≤ text.length := by
  obtain ⟨behind, ifDropped, existsDropped⟩ := Option.bind_eq_some_iff.1 dropped
  have first := length_lt_of_dropPhrase? ifDropped
  have third := length_lt_of_dropPhrase? existsDropped
  have second : ((dropPhrase? "NOT" behind).getD behind).length ≤ behind.length := by
    cases notDropped : dropPhrase? "NOT" behind with
    | none => exact Nat.le_refl _
    | some _ => exact Nat.le_of_lt (length_lt_of_dropPhrase? notDropped)
  omega

/-- An anchored name takes at least one character. -/
theorem length_lt_of_anchored? {text last rest : List Char}
    (read : anchored? text = some (last, rest)) : rest.length < text.length := by
  obtain ⟨anchor, -, inside, blank, behind, rfl, -, -, target⟩ := exists_of_anchored? read
  have first := length_dropWhile_le isBlank behind
  have second : rest.length < (skipBlanks behind).length := by
    rw [target?, Option.or_eq_some_iff] at target
    rcases target with conditional | ⟨-, path⟩
    · obtain ⟨left, dropped, path⟩ := Option.bind_eq_some_iff.1 conditional
      exact Nat.lt_of_lt_of_le (length_lt_of_path? path) (length_le_of_dropCondition? dropped)
    · exact length_lt_of_path? path
  rw [skipBlanks] at second
  simp only [List.length_append, List.length_cons]
  omega

/-! ## The scan up to FROM -/

/-- The scan of what is left of a text reaches the FROM behind it, or takes it for a name that
the text lacks. Which of them, and what is found before, does not depend on what follows. -/
inductive ScanMeets (text : List Char) (previous : Option Char) (left : List Char) : Prop where
  | reaches (found : List (List Char))
      (scan : ∀ behind, EndsName behind →
        occurrences anchored? 0 previous (left ++ fromThen behind) =
          found ++ occurrences anchored? 0 (some ' ') (fromThen behind))
  | takes (awaits : AwaitsTable text) (found : List (List Char)) (next : Option Char)
      (scan : ∀ behind, EndsName behind →
        occurrences anchored? 0 previous (left ++ fromThen behind) =
          found ++ fromName :: occurrences anchored? 0 next behind)

/-- The scan goes on with less of the text. -/
theorem ScanMeets.behind {text left rest : List Char} {previous next : Option Char}
    (met : ScanMeets text next rest) (front : List (List Char))
    (goesOn : ∀ behind, EndsName behind →
      occurrences anchored? 0 previous (left ++ fromThen behind) =
        front ++ occurrences anchored? 0 next (rest ++ fromThen behind)) :
    ScanMeets text previous left := by
  cases met with
  | reaches found scan =>
    refine .reaches (front ++ found) fun behind ends => ?_
    rw [goesOn behind ends, scan behind ends, List.append_assoc]
  | takes awaits found last scan =>
    refine .takes awaits (front ++ found) last fun behind ends => ?_
    rw [goesOn behind ends, scan behind ends, List.append_assoc]

/-- A front that is an anchor without a name ends a text that awaits a table. -/
theorem awaitsTable_of_lacksTarget {text before left : List Char}
    (whole : before ++ left = text ++ [' ']) (someLeft : left ≠ [])
    (begins : wordCanBegin before.getLast? = true) (lacks : LacksTarget left) :
    AwaitsTable text := by
  obtain ⟨inside, rfl⟩ : ∃ inside, left = inside ++ [' '] := by
    have ends := congrArg List.getLast? whole
    rw [List.getLast?_append_of_ne_nil before someLeft, List.getLast?_concat] at ends
    exact ⟨left.dropLast, (List.dropLast_append_getLast? ' ' ends).symm⟩
  rw [← List.append_assoc] at whole
  exact ⟨before, inside, (List.append_cancel_right whole).symm, begins, lacks⟩

/-- The scan of a text without quotation marks, from any of its characters on. -/
theorem scan_meets {text before left : List Char} (whole : before ++ left = text ++ [' '])
    (isFront : IsFront left) : ScanMeets text before.getLast? left := by
  -- The induction is on what is left of the text; a name that is read takes some of it.
  induction size : left.length using Nat.strong_induction_on generalizing before left with
  | h size inductionHypothesis =>
    subst size
    cases left with
    | nil =>
      rw [List.append_nil] at whole
      rw [whole, List.getLast?_concat]
      exact .reaches [] fun _ _ => rfl
    | cons c left =>
      have step (nothing : wordCanBegin before.getLast? = true → ∀ behind, EndsName behind →
          anchored? (c :: (left ++ fromThen behind)) = none) :
          ScanMeets text before.getLast? (c :: left) := by
        have next : ScanMeets text (before ++ [c]).getLast? left :=
          inductionHypothesis left.length (Nat.lt_succ_self _) (by simpa using whole)
            (isFront.suffix (List.suffix_cons c left)) rfl
        rw [List.getLast?_concat] at next
        exact next.behind [] fun behind ends =>
          occurrences_cons_of_none fun begins => nothing begins behind ends
      by_cases begins : wordCanBegin before.getLast? = true
      · cases anchored?_meets isFront (List.cons_ne_nil c left) with
        | passes read => exact step fun _ => read
        | stops last rest someRest isEnd read =>
          obtain ⟨taken, equal⟩ := isEnd
          have shorter := length_lt_of_anchored? (read [] endsName_nil)
          rw [← equal] at shorter
          simp only [List.length_append] at shorter
          have someTaken : taken ≠ [] := by
            rintro rfl
            simp at shorter
          have next : ScanMeets text (before ++ taken).getLast? rest :=
            inductionHypothesis rest.length (by rw [← equal, List.length_append]; omega)
              (by rw [List.append_assoc, equal, whole]) (isFront.suffix ⟨taken, equal⟩) rfl
          rw [List.getLast?_append_of_ne_nil before someTaken] at next
          refine next.behind [last] fun behind ends => ?_
          have read := read behind ends
          rw [← equal, List.append_assoc] at read ⊢
          exact occurrences_of_read begins someTaken read
        | takes lacks read =>
          refine .takes (awaitsTable_of_lacksTarget whole (List.cons_ne_nil c left) begins lacks) []
            (c :: left ++ fromName).getLast? fun behind ends => ?_
          have read := read behind ends
          rw [fromThen, ← List.append_assoc] at read ⊢
          exact occurrences_of_read begins (by simp) read
      · exact step fun canBegin => absurd canBegin begins

/-! ## The table behind FROM -/

/-- A table that may follow FROM: an ASCII identifier that is not reserved, with nothing or a
condition behind it. -/
structure IsReference (table rest : String) : Prop where
  isTable : isIdentifier table.toList = true
  notReserved : Text.lowercase table ∉ reserved
  ends : rest = "" ∨ ∃ condition, rest = " WHERE " ++ condition

namespace IsReference

variable {table rest : String} (isReference : IsReference table rest)
include isReference

/-- What stands behind the table closes its name. -/
theorem closes : closesName rest.toList = true := by
  obtain rfl | ⟨condition, rfl⟩ := isReference.ends
  · rfl
  · rw [String.toList_append]
    rfl

/-- A reference ends the FROM in front of it. -/
theorem endsName : EndsName (' ' :: (table.toList ++ rest.toList)) where
  stopped := rfl
  undotted afterDot dotted := by
    have isTable := isReference.isTable
    rw [skipBlanks_space, skipBlanks_identifier isTable] at dotted
    cases letters : table.toList with
    | nil => rw [letters] at isTable; contradiction
    | cons c others =>
      rw [letters] at isTable dotted
      have noDot := (nameChar (isNameChar_of_mem isTable c List.mem_cons_self)).2.2.2
      rw [(List.cons.inj dotted).1] at noDot
      contradiction

/-- The scan that reaches FROM finds the table behind it. -/
theorem mem_occurrences :
    table.toList ∈
      occurrences anchored? 0 (some ' ') (fromThen (' ' :: (table.toList ++ rest.toList))) := by
  have isAnchor : "FROM" ∈ anchors := by decide
  have isCondition : "" ∈ conditions := by decide
  have begins : wordCanBegin (some ' ') = true := by decide
  obtain ⟨next, found⟩ := occurrences_anchor isAnchor begins isCondition
    (.single isReference.isTable) isReference.closes
  exact found ▸ List.mem_cons_self

end IsReference

/-- Text without quotation marks either hides no table behind the FROM that follows it, or
awaits a table and has FROM taken for it. -/
theorem table_behind_from {front : String}
    (unquoted : ∀ c ∈ front.toList, closingMark? c = none) :
    (∀ table rest, IsReference table rest →
      Text.lowercase table ∈ tables (front ++ " FROM " ++ table ++ rest)) ∨
    (AwaitsTable front.toList ∧ ∀ table rest, IsReference table rest →
      "from" ∈ tables (front ++ " FROM " ++ table ++ rest)) := by
  have isFront : IsFront (front.toList ++ [' ']) := by
    refine ⟨fun c listed => ?_, fun _ => List.getLast?_concat⟩
    rcases List.mem_append.1 listed with inside | isSpace
    · exact unquoted c inside
    · rw [List.mem_singleton.1 isSpace]
      rfl
  have characters (table rest : String) : (front ++ " FROM " ++ table ++ rest).toList =
      (front.toList ++ [' ']) ++ fromThen (' ' :: (table.toList ++ rest.toList)) := by
    simp [fromThen, fromName]
  cases scan_meets (List.nil_append _) isFront with
  | reaches found scan =>
    refine .inl fun table rest isReference => ?_
    have lower := lowercase_of_isIdentifier isReference.isTable
    have notReserved := isReference.notReserved
    rw [String.ofList_toList] at lower
    rw [lower] at notReserved ⊢
    refine mem_tables ?_ isReference.isTable notReserved
    have scan := scan _ isReference.endsName
    rw [characters, ← List.getLast?_nil, scan]
    exact List.mem_append_right found isReference.mem_occurrences
  | takes awaits found next scan =>
    refine .inr ⟨awaits, fun table rest isReference => ?_⟩
    have isFound : fromName ∈
        occurrences anchored? 0 none (front ++ " FROM " ++ table ++ rest).toList := by
      have scan := scan _ isReference.endsName
      rw [characters, ← List.getLast?_nil, scan]
      exact List.mem_append_right found List.mem_cons_self
    exact mem_tables isFound (by decide) (by decide)

/-- Anchors in a string in front of FROM hide no table behind it. -/
theorem table_behind_from_string :
    (∀ c ∈ "SELECT 'from one table to another'".toList, closingMark? c = none) ∧
      ∀ table rest, IsReference table rest →
        Text.lowercase table ∈
          tables ("SELECT 'from one table to another'" ++ " FROM " ++ table ++ rest) := by
  have unquoted : ∀ c ∈ "SELECT 'from one table to another'".toList, closingMark? c = none := by
    simp [closingMark?]
  refine ⟨unquoted, ?_⟩
  obtain found | ⟨-, hidden⟩ := table_behind_from unquoted
  · exact found
  · have isReference : IsReference "users" "" := ⟨by decide, by decide +kernel, .inl rfl⟩
    exact absurd (hidden "users" "" isReference) (by decide +kernel)

/-- An alias that is an anchor awaits a table, so that FROM is taken for it and the table
behind FROM is missed. -/
theorem tables_behind_anchor_alias :
    (∀ c ∈ "SELECT max(ts) AS update".toList, closingMark? c = none) ∧
      IsReference "users" "" ∧
      Text.lowercase "users" ∉ tables ("SELECT max(ts) AS update" ++ " FROM " ++ "users" ++ "") ∧
      tables ("SELECT max(ts) AS update" ++ " FROM " ++ "users" ++ "") = ["from"] :=
  ⟨by simp [closingMark?], ⟨by decide, by decide +kernel, .inl rfl⟩, by decide +kernel,
    by decide +kernel⟩

end NeutralSql.SqlText
