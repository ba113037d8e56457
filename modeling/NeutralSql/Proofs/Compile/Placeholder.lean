import NeutralSql.Proofs.Compile.Template

/-!
# Reading placeholders back

A reader of finished text only sees marks, and behind each the letters and digits that run
on. It finds exactly the placeholders that were written, in order, if the text around them
has no marks (`Template.Spares`) and never runs on behind a placeholder
(`Template.IsGuarded`). Counting marks finds as many.
-/

namespace NeutralSql

namespace PlaceholderStyle

/-- The character that begins a placeholder. -/
def mark : PlaceholderStyle → Char
  | .positional => '?'
  | .indexed => '$'
  | .named mark => mark

/-- What follows the mark in the placeholder with a number. -/
def tail (style : PlaceholderStyle) (number : Nat) : List Char :=
  match style with
  | .positional => []
  | .indexed => (toString number).toList
  | .named _ => 'p' :: (toString number).toList

/-- A character that may belong to a placeholder that has begun. -/
def runsOn (c : Char) : Bool :=
  c.isDigit || c = 'p'

/-- The placeholders that a mark begins, each with what runs on behind it. -/
def marked (mark : Char) : List Char → List (List Char)
  | [] => []
  | c :: rest =>
    if c = mark then (c :: rest.takeWhile runsOn) :: marked mark rest else marked mark rest

/-- The placeholders that a text shows to a reader, from left to right. -/
def shown (style : PlaceholderStyle) (text : String) : List String :=
  (marked style.mark text.toList).map String.ofList

/-- A space does not run on. -/
theorem space_breaks : runsOn ' ' = false := by
  decide

/-- The mark of a style does not run on behind another one. -/
def IsProper (style : PlaceholderStyle) : Prop :=
  runsOn style.mark = false

/-- A placeholder is its mark and what follows it. -/
theorem toList_token (style : PlaceholderStyle) (number : Nat) :
    (style.token number).toList = style.mark :: style.tail number := by
  cases style <;> simp [token, mark, tail]

/-- A number is written in digits. -/
theorem runsOn_of_mem_toString {number : Nat} {c : Char} (isDigit : c ∈ (toString number).toList) :
    runsOn c = true := by
  have digit : c.isDigit = true :=
    Nat.isDigit_of_mem_toDigits (by decide) (by decide) (Nat.toList_repr ▸ isDigit)
  simp [runsOn, digit]

/-- A digit follows the mark of an indexed placeholder. -/
theorem isDigit_of_head_tail (number : Nat) :
    ((indexed.tail number).head?.any Char.isDigit) = true := by
  have digits : indexed.tail number = Nat.toDigits 10 number := Nat.toList_repr
  rw [digits]
  cases written : Nat.toDigits 10 number with
  | nil => exact absurd written Nat.toDigits_ne_nil
  | cons c rest =>
    exact Nat.isDigit_of_mem_toDigits (by decide) (by decide) (written ▸ List.mem_cons_self)

/-- What follows the mark of a placeholder runs on. -/
theorem runsOn_of_mem_tail {style : PlaceholderStyle} {number : Nat} {c : Char}
    (isTail : c ∈ style.tail number) : runsOn c = true := by
  cases style with
  | positional => exact absurd isTail List.not_mem_nil
  | indexed => exact runsOn_of_mem_toString isTail
  | named mark =>
    rcases List.mem_cons.1 isTail with rfl | isDigit
    · rfl
    · exact runsOn_of_mem_toString isDigit

/-- Text without a mark shows nothing. -/
theorem marked_append {mark : Char} {front : List Char} (spared : mark ∉ front)
    (rest : List Char) : marked mark (front ++ rest) = marked mark rest := by
  induction front with
  | nil => rfl
  | cons c others inductionHypothesis =>
    rw [List.mem_cons, not_or] at spared
    rw [List.cons_append, marked, if_neg (Ne.symm spared.1), inductionHypothesis spared.2]

/-- A placeholder shows itself where the text behind it does not run on. -/
theorem marked_token {style : PlaceholderStyle} (proper : style.IsProper) (number : Nat)
    {rest : List Char} (breaks : ∀ c ∈ rest.head?, runsOn c = false) :
    marked style.mark ((style.token number).toList ++ rest) =
      (style.token number).toList :: marked style.mark rest := by
  have spared : style.mark ∉ style.tail number := by
    intro isTail
    have runs := runsOn_of_mem_tail isTail
    rw [proper] at runs
    contradiction
  have stops : rest.takeWhile runsOn = [] := by
    cases rest with
    | nil => rfl
    | cons c others =>
      have noDigit := breaks c rfl
      rw [List.takeWhile_cons, noDigit]
      rfl
  rw [toList_token, List.cons_append, marked, if_pos rfl, marked_append spared,
    List.takeWhile_append_of_pos fun c isTail => runsOn_of_mem_tail isTail, stops, List.append_nil]

/-- Counting marks by what follows them counts the placeholders shown, if what does not run
on is no better than nothing. -/
theorem countMarks_eq {mark : Char} {follower : Option Char → Bool}
    (blind : ∀ c, runsOn c = false → follower (some c) = follower none) (text : List Char) :
    countMarks mark follower text =
      (marked mark text).countP fun placeholder => follower placeholder.tail.head? := by
  induction text with
  | nil => rfl
  | cons c rest inductionHypothesis =>
    have sameFollower : follower (rest.takeWhile runsOn).head? = follower rest.head? := by
      cases rest with
      | nil => rfl
      | cons next others =>
        rw [List.takeWhile_cons]
        cases runs : runsOn next with
        | true => rfl
        | false => exact (blind next runs).symm
    rw [countMarks, marked, inductionHypothesis]
    by_cases isMark : c = mark
    · rw [if_pos isMark, List.countP_cons, List.tail_cons, sameFollower, Nat.add_comm]
      simp [isMark]
    · rw [if_neg isMark]
      simp [isMark]

end PlaceholderStyle

namespace Template

open PlaceholderStyle (runsOn marked shown)

/-- A mark occurs in no text of a template. -/
def Spares (mark : Char) (template : Template) : Prop :=
  ∀ content, .text content ∈ template → mark ∉ content.toList

@[simp] theorem spares_nil (mark : Char) : Spares mark [] :=
  fun _ => List.not_mem_nil.elim

@[simp] theorem spares_append {mark : Char} {first second : Template} :
    Spares mark (first ++ second) ↔ first.Spares mark ∧ second.Spares mark := by
  simp only [Spares, List.mem_append, or_imp, forall_and]

@[simp] theorem spares_text {mark : Char} {content : String} :
    (text content).Spares mark ↔ mark ∉ content.toList := by
  simp [Spares, text]

@[simp] theorem spares_slot (mark : Char) (value : Value) : (slot value).Spares mark := by
  simp [Spares, slot]

@[simp] theorem spares_flatMap {α : Type} {mark : Char} {items : List α} {template : α → Template} :
    Spares mark (items.flatMap template) ↔ ∀ item ∈ items, (template item).Spares mark := by
  constructor
  · intro spares item listed content isPiece
    exact spares content (List.mem_flatMap.2 ⟨item, listed, isPiece⟩)
  · intro spares content isPiece
    obtain ⟨item, listed, isPiece⟩ := List.mem_flatMap.1 isPiece
    exact spares item listed content isPiece

/-- The first character of a template's text, unless a placeholder comes before it. -/
def first? : Template → Option Char
  | [] => none
  | .text content :: rest => content.toList.head?.or (first? rest)
  | .slot _ :: _ => none

/-- A template may stand behind a placeholder: its text does not run on. -/
def Breaks (template : Template) : Prop :=
  ∀ c ∈ template.first?, runsOn c = false

/-- Whatever stands behind a slot may stand there. -/
def IsGuarded : Template → Prop
  | [] => True
  | .text _ :: rest => IsGuarded rest
  | .slot _ :: rest => Breaks rest ∧ IsGuarded rest

/-- Templates that may stand behind a placeholder may do so one after the other. -/
theorem Breaks.append {first second : Template} (breaks : first.Breaks)
    (secondBreaks : second.Breaks) : Breaks (first ++ second) := by
  induction first with
  | nil => exact secondBreaks
  | cons piece rest inductionHypothesis =>
    cases piece with
    | slot value => exact breaks
    | text content =>
      rw [Breaks, first?] at breaks
      rw [List.cons_append, Breaks, first?]
      cases start : content.toList.head? with
      | some c =>
        rw [start] at breaks
        exact breaks
      | none =>
        rw [start] at breaks
        exact inductionHypothesis breaks

/-- A guarded template stays guarded in front of one that may stand behind a placeholder. -/
theorem IsGuarded.append {first second : Template} (guarded : first.IsGuarded)
    (breaks : second.Breaks) (secondGuarded : second.IsGuarded) :
    IsGuarded (first ++ second) := by
  induction first with
  | nil => exact secondGuarded
  | cons piece rest inductionHypothesis =>
    cases piece with
    | text content => exact inductionHypothesis guarded
    | slot value => exact ⟨guarded.1.append breaks, inductionHypothesis guarded.2⟩

/-- A guarded template that may stand behind a placeholder. -/
structure IsClause (template : Template) : Prop where
  breaks : template.Breaks
  guarded : template.IsGuarded

theorem IsClause.nil : IsClause [] :=
  ⟨fun _ => nofun, trivial⟩

/-- Clauses one after the other make a clause. -/
theorem IsClause.append {first second : Template} (isClause : first.IsClause)
    (secondIsClause : second.IsClause) : IsClause (first ++ second) :=
  ⟨isClause.breaks.append secondIsClause.breaks,
    isClause.guarded.append secondIsClause.breaks secondIsClause.guarded⟩

/-- Any number of clauses make a clause. -/
theorem IsClause.flatMap {α : Type} (items : List α) {template : α → Template}
    (areClauses : ∀ item ∈ items, (template item).IsClause) :
    IsClause (items.flatMap template) := by
  induction items with
  | nil => exact .nil
  | cons item rest inductionHypothesis =>
    rw [List.forall_mem_cons] at areClauses
    rw [List.flatMap_cons]
    exact areClauses.1.append (inductionHypothesis areClauses.2)

/-- A guarded template behind a text that does not run on is a clause. -/
theorem IsClause.behind {content : String} {c : Char} (starts : content.toList.head? = some c)
    (breaks : runsOn c = false) {template : Template} (guarded : template.IsGuarded) :
    IsClause (text content ++ template) := by
  refine ⟨fun other isFirst => ?_, guarded⟩
  rw [text, List.cons_append, first?, starts] at isFirst
  obtain rfl := Option.some.inj isFirst
  exact breaks

/-- A text that does not run on is a clause. -/
theorem isClause_text {content : String} {c : Char} (starts : content.toList.head? = some c)
    (breaks : runsOn c = false) : (text content).IsClause :=
  .behind starts breaks IsClause.nil.guarded

/-- A slot is guarded in front of a clause. -/
theorem IsClause.behindSlot {template : Template} (isClause : template.IsClause)
    (value : Value) : IsGuarded (slot value ++ template) :=
  ⟨isClause.breaks, isClause.guarded⟩

/-- A slot with nothing behind it is guarded. -/
theorem isGuarded_slot (value : Value) : (slot value).IsGuarded :=
  IsClause.nil.behindSlot value

/-- Guarded templates with a separator that does not run on are guarded. -/
theorem isGuarded_separated {separator : String} {c : Char}
    (starts : separator.toList.head? = some c) (breaks : runsOn c = false)
    {templates : List Template} (areGuarded : ∀ template ∈ templates, template.IsGuarded) :
    (separated separator templates).IsGuarded := by
  cases templates with
  | nil => trivial
  | cons first rest =>
    rw [List.forall_mem_cons] at areGuarded
    have others : IsClause (rest.flatMap fun template => text separator ++ template) :=
      .flatMap rest fun template listed => .behind starts breaks (areGuarded.2 template listed)
    exact areGuarded.1.append others.breaks others.guarded

/-- A separator without a mark leaves templates without marks. -/
theorem spares_separated {mark : Char} {separator : String} (spared : mark ∉ separator.toList)
    {templates : List Template} (areSpared : ∀ template ∈ templates, template.Spares mark) :
    (separated separator templates).Spares mark := by
  cases templates with
  | nil => exact spares_nil mark
  | cons first rest =>
    rw [List.forall_mem_cons] at areSpared
    rw [separated, spares_append, spares_flatMap]
    exact ⟨areSpared.1, fun template listed =>
      spares_append.2 ⟨spares_text.2 spared, areSpared.2 template listed⟩⟩

section Shown

variable {style : PlaceholderStyle} {template : Template}

/-- What is written for a template that may stand behind a placeholder does not run on. -/
theorem Breaks.write (breaks : template.Breaks) (proper : style.IsProper) (bound : Nat) :
    ∀ c ∈ (template.write style bound).toList.head?, runsOn c = false := by
  induction template with
  | nil => exact fun c => nofun
  | cons piece rest inductionHypothesis =>
    cases piece with
    | slot value =>
      intro c isFirst
      rw [Template.write, String.toList_append, PlaceholderStyle.toList_token] at isFirst
      obtain rfl := Option.some.inj isFirst
      exact proper
    | text content =>
      rw [Breaks, first?] at breaks
      rw [Template.write, String.toList_append, List.head?_append]
      cases start : content.toList.head? with
      | some c =>
        rw [start] at breaks
        exact breaks
      | none =>
        rw [start] at breaks
        exact inductionHypothesis breaks

/-- A reader finds the placeholders of a guarded template without marks, numbered in order
behind those that were bound before. -/
theorem marked_write (proper : style.IsProper) (spares : template.Spares style.mark)
    (guarded : template.IsGuarded) (bound : Nat) :
    marked style.mark (template.write style bound).toList =
      (List.range template.values.length).map fun index =>
        (style.token (bound + index + 1)).toList := by
  induction template generalizing bound with
  | nil => rfl
  | cons piece rest inductionHypothesis =>
    have restSpares : Spares style.mark rest :=
      fun content isPiece => spares content (List.mem_cons_of_mem _ isPiece)
    cases piece with
    | text content =>
      have spared : style.mark ∉ content.toList := spares content List.mem_cons_self
      rw [Template.write, String.toList_append, PlaceholderStyle.marked_append spared,
        inductionHypothesis restSpares guarded]
      rfl
    | slot value =>
      rw [Template.write, String.toList_append,
        PlaceholderStyle.marked_token proper _ (guarded.1.write proper _),
        inductionHypothesis restSpares guarded.2, values, List.length_cons,
        List.range_succ_eq_map, List.map_cons, List.map_map]
      refine List.cons_eq_cons.2 ⟨rfl, List.map_congr_left fun index _ => ?_⟩
      rw [Function.comp_apply, Nat.succ_eq_add_one, Nat.add_assoc bound 1, Nat.add_comm 1]

/-- A reader finds the placeholders of a guarded template without marks in order. -/
theorem shown_write (proper : style.IsProper) (spares : template.Spares style.mark)
    (guarded : template.IsGuarded) :
    shown style (template.write style 0) =
      (List.range template.values.length).map fun index => style.token (index + 1) := by
  rw [shown, marked_write proper spares guarded, List.map_map]
  refine List.map_congr_left fun index _ => ?_
  rw [Function.comp_apply, String.ofList_toList, Nat.zero_add]

/-- Counting finds as many placeholders as there are values. -/
theorem count_write (proper : style.IsProper) (spares : template.Spares style.mark)
    (guarded : template.IsGuarded) (bound : Nat) :
    style.count (template.write style bound) = template.values.length := by
  have counted : ∀ (follower : Option Char → Bool),
      (∀ c, runsOn c = false → follower (some c) = follower none) →
      (∀ number, follower (style.tail number).head? = true) →
      PlaceholderStyle.countMarks style.mark follower (template.write style bound).toList =
        template.values.length := by
    intro follower blind follows
    rw [PlaceholderStyle.countMarks_eq blind, marked_write proper spares guarded, List.countP_map,
      List.countP_eq_length.2, List.length_range]
    intro index _
    rw [Function.comp_apply, PlaceholderStyle.toList_token, List.tail_cons]
    exact follows _
  cases style with
  | positional => exact counted _ (fun _ _ => rfl) fun _ => rfl
  | indexed =>
    refine counted _ (fun c breaks => ?_) PlaceholderStyle.isDigit_of_head_tail
    have notDigit : c.isDigit = false := (Bool.or_eq_false_iff.1 breaks).1
    simp [notDigit]
  | named mark =>
    refine counted _ (fun c breaks => ?_) fun number => rfl
    have notLetter : c ≠ 'p' := of_decide_eq_false (Bool.or_eq_false_iff.1 breaks).2
    simp [notLetter]

end Shown

end Template

end NeutralSql
