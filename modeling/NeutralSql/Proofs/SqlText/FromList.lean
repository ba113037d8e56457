import NeutralSql.Proofs.SqlText.Reference

/-!
# Lists behind FROM

Two scans share the work on a list of references behind FROM: the scan for anchored names
finds the table of the first reference and passes over the others, since their text is quiet;
the scan for lists finds the others, if there are any. Together they find exactly the tables
of the list: `FromList.tables_text`.
-/

namespace NeutralSql.SqlText

open Text (asciiLower isBlank isWord wordCanBegin wordHasEnded)

/-! ## Lists -/

/-- A reference behind a comma, with blanks around the comma. -/
structure Item where
  before : Blanks
  after : Blanks
  reference : Reference

/-- A list of one reference or more, with commas between them. -/
structure FromList where
  first : Reference
  others : List Item

def Item.text (item : Item) : List Char :=
  item.before.text ++ ',' :: (item.after.text ++ item.reference.text)

/-- Items one after the other. -/
def itemsText (items : List Item) : List Char :=
  items.flatMap Item.text

def FromList.text (list : FromList) : List Char :=
  list.first.text ++ itemsText list.others

/-- All references of a list. -/
def FromList.references (list : FromList) : List Reference :=
  list.first :: list.others.map Item.reference

theorem itemsText_cons (item : Item) (others : List Item) :
    itemsText (item :: others) = item.before.text ++
      ',' :: (item.after.text ++ (item.reference.text ++ itemsText others)) := by
  simp [itemsText, Item.text]

/-- Items begin with a comma behind blanks, if there are any. -/
theorem endsItem_itemsText (items : List Item) : EndsItem (itemsText items) := by
  cases items with
  | nil => exact .nil
  | cons item others =>
    rw [itemsText_cons]
    exact .comma item.before _

/-! ## References are quiet -/

/-- No blank belongs to a word. -/
theorem Blanks.apart (blanks : Blanks) : ∀ c ∈ blanks.text, isWord c = false :=
  fun c isInside => isWord_of_isBlank (blanks.isBlank c isInside)

/-- A name is quiet. -/
theorem Name.quiet (name : Name) : Quiet name.letters := by
  refine quiet_of_not_containsWord fun anchor listed => ?_
  rintro ⟨before, inside, behind, letters, same, begins, ended⟩
  have isWord : ∀ c ∈ before ++ inside ++ behind, isWord c = true := by
    rw [← letters]
    exact fun c isInside => (nameChar (name.isNameChar c isInside)).1
  have noBefore : before = [] := by
    cases last : before.getLast? with
    | none => exact List.getLast?_eq_none_iff.1 last
    | some c =>
      have isLast := isWord c (by simp [List.mem_of_getLast? last])
      simp [last, wordCanBegin, isLast] at begins
  have noBehind : behind = [] := by
    cases behind with
    | nil => rfl
    | cons c rest =>
      have isFirst := isWord c (by simp)
      simp [wordHasEnded, isFirst] at ended
  rw [noBefore, noBehind, List.nil_append, List.append_nil] at letters
  exact name.notKeyword anchor (List.mem_append_left _ listed) (letters ▸ same)

/-- A segment is quiet. -/
theorem Segment.quiet_text (segment : Segment) : Quiet segment.text := by
  obtain text | ⟨opening, closing, -, isOpening, isClosing, text⟩ := segment.text_cases
  · rw [text]
    exact segment.name.quiet
  · rw [text]
    exact (segment.name.quiet.join quiet_nil (nameMark isClosing).2.2.2).behind
      (nameMark isOpening).2.2.2

/-- A path is quiet. -/
theorem Path.quiet_text (path : Path) : Quiet path.text := by
  induction path with
  | single segment => exact segment.quiet_text
  | dotted segment before after rest inductionHypothesis =>
    have dotEnds : continuesName '.' = false := by decide
    have behindDot : Quiet ('.' :: (after.text ++ rest.text)) :=
      (inductionHypothesis.behindAll after.apart).behind (by decide)
    exact segment.quiet_text.append (behindDot.behindAll before.apart)
      (wordHasEnded_of_stopped (before.stopped dotEnds _))

/-- AS is quiet. -/
theorem As.quiet_letters (keyword : As) : Quiet keyword.letters := by
  refine quiet_of_not_infix fun anchor listed => ?_
  have apart : ∀ anchor ∈ anchors, ¬asciiLower anchor.toList <:+: asciiLower "AS".toList := by
    decide
  rw [keyword.isAs]
  exact apart anchor listed

/-- An alias is quiet. -/
theorem Alias.quiet_text (naming : Alias) : Quiet naming.text := by
  have quietName := naming.name.quiet
  refine Quiet.behindAll ?_ naming.gap.apart
  cases naming.keyword? with
  | none => exact quietName
  | some keyword =>
    have shape : (some keyword).elim [] As.text ++ naming.name.letters =
        keyword.letters ++ (keyword.gap.text ++ naming.name.letters) := List.append_assoc _ _ _
    rw [shape]
    exact keyword.quiet_letters.append (quietName.behindAll keyword.gap.apart)
      (wordHasEnded_of_stopped (keyword.gap.stopped _))

namespace Reference

variable (reference : Reference) {rest : List Char} (ends : EndsItem rest) (quiet : Quiet rest)
include ends quiet

/-- What stands behind the path of a reference is quiet. -/
theorem quiet_aliasText : Quiet (reference.aliasText ++ rest) := by
  rw [aliasText]
  cases reference.alias? with
  | none => exact quiet
  | some naming =>
    exact naming.quiet_text.append quiet (wordHasEnded_of_stopped ends.endsName.stopped)

/-- A reference is quiet, with quiet items behind it. -/
theorem quiet_text : Quiet (reference.text ++ rest) := by
  rw [text, List.append_assoc]
  exact reference.path.quiet_text.append (reference.quiet_aliasText ends quiet)
    (wordHasEnded_of_stopped (reference.endsName ends).stopped)

end Reference

/-- Items are quiet. -/
theorem quiet_itemsText (items : List Item) : Quiet (itemsText items) := by
  induction items with
  | nil => exact quiet_nil
  | cons item others inductionHypothesis =>
    have quietReference := item.reference.quiet_text (endsItem_itemsText others) inductionHypothesis
    have quietRest := quietReference.behindAll item.after.apart
    have comma : isWord ',' = false := by decide
    rw [itemsText_cons]
    exact (quietRest.behind comma).behindAll item.before.apart

/-! ## Items -/

/-- An item is read up to what ends it. -/
theorem Item.listItem?_append (item : Item) {stop : List Char} (ends : EndsItem stop) :
    listItem? (item.before.text ++ ',' :: (item.after.text ++ (item.reference.text ++ stop))) =
      some (item.reference.path.last.text, stop) := by
  have comma : skipBlanks (item.before.text ++
      ',' :: (item.after.text ++ (item.reference.text ++ stop))) =
        ',' :: (item.after.text ++ (item.reference.text ++ stop)) := by
    rw [item.before.skipBlanks_append]
    exact skipBlanks_cons (by decide) _
  have start : skipBlanks (item.after.text ++ (item.reference.text ++ stop)) =
      item.reference.text ++ stop := by
    rw [item.after.skipBlanks_append, item.reference.skipBlanks_text]
  rw [listItem?, comma]
  simp only [start, item.reference.path?_text ends, Option.map_some,
    item.reference.skipAlias_text ends]

/-- All items are read. -/
theorem listItems_itemsText (items : List Item) :
    listItems (itemsText items) = (items.map fun item => item.reference.path.last.text, []) := by
  induction items with
  | nil => exact listItems_of_none rfl
  | cons item others inductionHypothesis =>
    rw [itemsText_cons, listItems_of_some (item.listItem?_append (endsItem_itemsText others)),
      inductionHypothesis]
    rfl

/-! ## The two scans -/

/-- A list is read only where FROM stands in front, with a blank behind it. -/
theorem needsAnchor_fromList? : NeedsAnchor fromList? := by
  intro text found read
  obtain ⟨first, anchored, -⟩ := Option.bind_eq_some_iff.1 read
  obtain ⟨tail, phrase, -⟩ := Option.bind_eq_some_iff.1 anchored
  have isAnchor : "FROM" ∈ anchors := by decide
  obtain ⟨inside, blank, rest, equal, same, isBlank, -⟩ :=
    exists_of_dropPhrase? (isPlainLetter_of_mem_anchor "FROM" isAnchor).2 phrase
  exact ⟨"FROM", isAnchor, inside, blank, rest, equal, same, isBlank⟩

namespace FromList

variable (list : FromList)

/-- A list begins with a character that is no blank. -/
theorem skipBlanks_text : skipBlanks list.text = list.text :=
  list.first.skipBlanks_text _

/-- What stands behind the first path of a list. -/
def behindFirst : List Char :=
  list.first.aliasText ++ itemsText list.others

theorem text_eq : list.text = list.first.path.text ++ list.behindFirst :=
  List.append_assoc _ _ _

/-- Behind FROM, the first path of a list is found and nothing else. -/
theorem occurrences_anchored? :
    occurrences anchored? 0 (some ' ') ("FROM".toList ++ ' ' :: list.text) =
      [list.first.path.last.text] := by
  have ends := endsItem_itemsText list.others
  have target : target? (skipBlanks list.text) =
      some (list.first.path.last.text, list.behindFirst) := by
    rw [list.skipBlanks_text, list.text_eq]
    exact list.first.path.target?_text (list.first.endsName ends)
  have read := anchored?_anchor (by decide : "FROM" ∈ anchors) target
  have taken : "FROM".toList ++ ' ' :: list.text =
      ("FROM".toList ++ ' ' :: list.first.path.text) ++ list.behindFirst := by
    rw [list.text_eq]
    simp
  have quiet : Quiet list.behindFirst :=
    list.first.quiet_aliasText ends (quiet_itemsText list.others)
  rw [taken] at read ⊢
  rw [occurrences_of_read (by decide) (by simp) read,
    needsAnchor_anchored?.occurrences_eq_nil quiet]

/-- At FROM, a list of two references or more is read up to its end. -/
theorem fromList?_text :
    fromList? ("FROM".toList ++ ' ' :: list.text) =
      match list.others.map fun item => item.reference.path.last.text with
      | [] => none
      | found => some (found, []) := by
  have ends := endsItem_itemsText list.others
  have phrase : dropPhrase? "FROM" ("FROM".toList ++ ' ' :: list.text) = some list.text := by
    rw [dropPhrase?_append (by decide), list.skipBlanks_text]
  have path : path? list.text = some (list.first.path.last.text, list.behindFirst) :=
    list.first.path?_text ends
  have items : listItems (skipAlias list.behindFirst) =
      (list.others.map fun item => item.reference.path.last.text, []) := by
    rw [behindFirst, list.first.skipAlias_text ends, listItems_itemsText]
  simp only [fromList?, phrase, Option.bind_eq_bind, Option.bind_some, path, items]
  cases list.others with
  | nil => rfl
  | cons item others => rfl

/-- Behind FROM, the other paths of a list are found, if there are any. -/
theorem occurrences_fromList? :
    (occurrences fromList? 0 (some ' ') ("FROM".toList ++ ' ' :: list.text)).flatten =
      list.others.map fun item => item.reference.path.last.text := by
  have read := list.fromList?_text
  cases others : list.others with
  | nil =>
    -- No list is read, and what stands behind the first letter of FROM is quiet.
    rw [others, List.map_nil] at read
    have shape : "FROM".toList ++ ' ' :: list.text = 'F' :: ("ROM".toList ++ ' ' :: list.text) :=
      rfl
    have quietRest : Quiet "ROM".toList := quiet_of_not_infix (by decide)
    have quietList : Quiet list.text :=
      list.first.quiet_text (endsItem_itemsText _) (quiet_itemsText _)
    rw [shape] at read ⊢
    rw [occurrences_cons_of_none fun _ => read,
      needsAnchor_fromList?.occurrences_eq_nil (quietRest.join quietList (by decide))]
    rfl
  | cons item items =>
    rw [others, List.map_cons] at read
    rw [← List.append_nil ("FROM".toList ++ ' ' :: list.text)] at read ⊢
    rw [occurrences_of_read (by decide) (by simp) read]
    simp [occurrences]

/-- Each reference of a list names its table. -/
theorem filterMap_tableName? (references : List Reference) :
    (references.map fun reference => reference.path.last.text).filterMap tableName? =
      references.map Reference.table := by
  have named : tableName? ∘ (fun reference : Reference => reference.path.last.text) =
      some ∘ Reference.table := by
    funext reference
    rw [Function.comp_apply, reference.path.last.tableName?_text reference.notReserved]
    rfl
  rw [List.filterMap_map, named, List.filterMap_eq_map]

/-- The tables of a list behind FROM are exactly those that its references name. -/
theorem tables_text :
    tables ("SELECT * FROM " ++ String.ofList list.text) =
      Text.nameSet (list.references.map Reference.table) := by
  have quiet : Quiet "SELECT *".toList := quiet_of_not_infix (by decide)
  have characters : ("SELECT * FROM " ++ String.ofList list.text).toList =
      "SELECT *".toList ++ ' ' :: ("FROM".toList ++ ' ' :: list.text) := by
    simp
  have single : occurrences anchored? 0 none
      ("SELECT *".toList ++ ' ' :: ("FROM".toList ++ ' ' :: list.text)) =
        [list.first.path.last.text] :=
    (needsAnchor_anchored?.skip quiet (by decide) none _).trans list.occurrences_anchored?
  have listed : (occurrences fromList? 0 none
      ("SELECT *".toList ++ ' ' :: ("FROM".toList ++ ' ' :: list.text))).flatten =
        list.others.map fun item => item.reference.path.last.text :=
    (congrArg List.flatten (needsAnchor_fromList?.skip quiet (by decide) none _)).trans
      list.occurrences_fromList?
  have all : [list.first.path.last.text] ++
      (list.others.map fun item => item.reference.path.last.text) =
        list.references.map fun reference => reference.path.last.text := by
    simp [references]
  rw [tables, characters]
  simp only [single, listed, all, filterMap_tableName?]

/-- One space. -/
def space : Gap :=
  ⟨⟨[' '], List.all_eq_true.1 rfl⟩, List.cons_ne_nil _ _⟩

/-- A qualified and quoted name with an alias, a name in brackets with AS and another alias, and
a name in backquotes. -/
def sample : FromList where
  first :=
    { path := .dotted ⟨.bare, ⟨"Shop".toList, by decide, by decide +kernel⟩⟩ space.toBlanks
        ⟨[], nofun⟩ (.single ⟨.double, ⟨"Orders".toList, by decide, by decide +kernel⟩⟩)
      alias? := some ⟨space, none, ⟨"o".toList, by decide, by decide +kernel⟩⟩
      notReserved := by decide }
  others :=
    [{ before := ⟨[], nofun⟩
       after := ⟨['\n', ' '], List.all_eq_true.1 rfl⟩
       reference :=
        { path := .single ⟨.bracket, ⟨"Customers".toList, by decide, by decide +kernel⟩⟩
          alias? := some ⟨space, some ⟨"aS".toList, by decide, space⟩,
            ⟨"from_crm".toList, by decide, by decide +kernel⟩⟩
          notReserved := by decide } },
     { before := space.toBlanks
       after := ⟨[], nofun⟩
       reference :=
        { path := .single ⟨.back, ⟨"items".toList, by decide, by decide +kernel⟩⟩
          alias? := none
          notReserved := by decide } }]

/-- The tables of a list of three references. -/
theorem tables_text_sample :
    String.ofList sample.text = "Shop .\"Orders\" o,\n [Customers] aS from_crm ,\x60items\x60" ∧
      tables ("SELECT * FROM " ++ String.ofList sample.text) = ["customers", "items", "orders"] :=
  ⟨by decide, sample.tables_text.trans (by decide +kernel)⟩

end FromList

end NeutralSql.SqlText
