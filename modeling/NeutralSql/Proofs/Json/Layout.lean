import NeutralSql.Proofs.Json.Depth
import NeutralSql.Proofs.Json.NumberText

/-!
# Reading back a layout

What is printed for a value with one item a line is read as that value: `parse?_pretty`. The
numbers in it have to be read back one by one, and it must not be nested too deep.
-/

namespace NeutralSql.Document

open Json (Writes WritesClosed EndsNumber isNumeric isSpace block prettyAt prettyItems
  prettyMembers quote)

/-! ## What a text does to what has been read -/

/-- Reading the text leads from one state to another, if no number goes on behind the text. -/
def Takes (text : String) (origin target : Progress) : Prop :=
  ∃ tokens, Writes text.toList tokens ∧ tokens.foldlM Progress.read origin = some target

/-- Reading the text leads from one state to another, whatever stands behind the text. -/
def TakesClosed (text : String) (origin target : Progress) : Prop :=
  ∃ tokens, WritesClosed text.toList tokens ∧ tokens.foldlM Progress.read origin = some target

/-- The text begins with a character that no number has. -/
def Separate (text : String) : Prop :=
  ∃ c ∈ text.toList.head?, isNumeric c = false

section Steps

variable {first second : String} {origin middle target : Progress}

theorem Separate.append (separate : Separate first) (second : String) :
    Separate (first ++ second) := by
  obtain ⟨c, isHead, other⟩ := separate
  obtain ⟨rest, written⟩ := List.head?_eq_some_iff.1 isHead
  exact ⟨c, by rw [String.toList_append, written]; rfl, other⟩

theorem TakesClosed.takes (takes : TakesClosed first origin target) : Takes first origin target := by
  obtain ⟨tokens, writes, run⟩ := takes
  exact ⟨tokens, writes.writes, run⟩

/-- Two runs of tokens, one after the other. -/
theorem run_append {firstTokens secondTokens : List Json.Token}
    (firstRun : firstTokens.foldlM Progress.read origin = some middle)
    (secondRun : secondTokens.foldlM Progress.read middle = some target) :
    (firstTokens ++ secondTokens).foldlM Progress.read origin = some target := by
  rw [List.foldlM_append, firstRun]
  exact secondRun

theorem TakesClosed.append (takes : TakesClosed first origin middle)
    (next : TakesClosed second middle target) : TakesClosed (first ++ second) origin target := by
  obtain ⟨tokens, writes, run⟩ := takes
  obtain ⟨others, writesNext, runNext⟩ := next
  exact ⟨_, String.toList_append ▸ writes.append writesNext, run_append run runNext⟩

theorem TakesClosed.before (takes : TakesClosed first origin middle)
    (next : Takes second middle target) : Takes (first ++ second) origin target := by
  obtain ⟨tokens, writes, run⟩ := takes
  obtain ⟨others, writesNext, runNext⟩ := next
  exact ⟨_, String.toList_append ▸ writes.before writesNext, run_append run runNext⟩

theorem Takes.closedBy (takes : Takes first origin middle)
    (next : TakesClosed second middle target) (separate : Separate second) :
    TakesClosed (first ++ second) origin target := by
  obtain ⟨tokens, writes, run⟩ := takes
  obtain ⟨others, writesNext, runNext⟩ := next
  obtain ⟨c, isHead, other⟩ := separate
  obtain ⟨rest, written⟩ := List.head?_eq_some_iff.1 isHead
  refine ⟨_, String.toList_append ▸ writes.closedBy writesNext ?_ ?_, run_append run runNext⟩
  · exact written ▸ List.cons_ne_nil c rest
  · intro d isFirst
    obtain rfl := Option.some.inj (isHead.symm.trans isFirst)
    exact other

/-- Spaces change nothing. -/
theorem takesClosed_spaces (areSpaces : ∀ c ∈ first.toList, isSpace c = true) :
    TakesClosed first origin origin :=
  ⟨[], Json.writesClosed_spaces areSpaces, rfl⟩

/-- One token is read. -/
theorem takesClosed_token {token : Json.Token} (writes : WritesClosed first.toList [token])
    (read : origin.read token = some target) : TakesClosed first origin target := by
  refine ⟨[token], writes, ?_⟩
  rw [List.foldlM_cons, read]
  rfl

end Steps

/-- A value may come next. -/
def Progress.ExpectsValue (progress : Progress) : Prop :=
  progress.expected = .value ∨ progress.expected = .valueOrEnd

/-- The text is read as a document where a value is expected, if containers are nested no deeper
than this around it. -/
def Spells (limit : Nat) (text : String) (document : Document) : Prop :=
  ∀ ⦃progress : Progress⦄, progress.ExpectsValue →
    progress.frames.length + limit ≤ depthLimit → Takes text progress (progress.supply document)

/-! ## Values without parts -/

section Leaves

variable {limit : Nat}

/-- Where a value may come next, whatever begins one is read as one. -/
theorem read_of_expectsValue {progress next : Progress} {token : Json.Token}
    (expected : progress.ExpectsValue) (read : progress.readValue token = some next) :
    progress.read token = some next := by
  rcases expected with isValue | isValue
  · rw [Progress.read.eq_def, isValue]
    exact read
  · rw [Progress.read.eq_def, isValue]
    cases token with
    | closeArray => contradiction
    | openArray | openObject | closeObject | colon | comma | null | bool | number | string =>
      exact read

/-- A token that is a value by itself. -/
theorem spells_of_token {text : String} {document : Document} {token : Json.Token}
    (writes : Writes text.toList [token])
    (read : ∀ progress, Progress.readValue progress token = some (progress.supply document)) :
    Spells limit text document := by
  intro progress expected _
  refine ⟨[token], writes, ?_⟩
  rw [List.foldlM_cons, read_of_expectsValue expected (read progress)]
  rfl

theorem spells_null : Spells limit "null" .null :=
  spells_of_token Json.writesClosed_null.writes fun _ => rfl

theorem spells_bool (value : Bool) : Spells limit (if value then "true" else "false") (.bool value) := by
  cases value with
  | true => exact spells_of_token Json.writesClosed_true.writes fun _ => rfl
  | false => exact spells_of_token Json.writesClosed_false.writes fun _ => rfl

theorem spells_string (value : String) : Spells limit (quote value) (.string value) := by
  refine spells_of_token (Json.writesClosed_quote value).writes fun progress => ?_
  rw [Progress.readValue, Json.text?_map_piece]
  rfl

theorem spells_number {number : Json.Number} (readsBack : number.ReadsBack) :
    Spells limit number.text (.number number) := by
  obtain ⟨numeral, writes, denoted⟩ := readsBack.exists_numeral
  refine spells_of_token writes fun progress => ?_
  rw [Progress.readValue, denoted]
  rfl

end Leaves

/-! ## Containers -/

/-- Text that begins with spaces does not go on with a number. -/
theorem Separate.behindSpaces {spaces text : String} (separate : Separate text)
    (areSpaces : ∀ c ∈ spaces.toList, isSpace c = true) : Separate (spaces ++ text) := by
  rw [Separate, String.toList_append]
  cases written : spaces.toList with
  | nil => exact separate
  | cons c rest =>
    refine ⟨c, rfl, ?_⟩
    by_contra numeric
    have notSpace := Json.isSpace_of_isNumeric (Bool.not_eq_false _ ▸ numeric)
    rw [areSpaces c (written ▸ List.mem_cons_self)] at notSpace
    contradiction

/-- What stands between the lines of a layout. -/
def newline (depth : Nat) : String :=
  "\n" ++ String.ofList (List.replicate (2 * depth) ' ')

theorem isSpace_of_mem_newline (depth : Nat) : ∀ c ∈ (newline depth).toList, isSpace c = true := by
  intro c listed
  rw [newline, String.toList_append] at listed
  rcases List.mem_append.1 listed with isBreak | isBlank
  · rw [List.mem_singleton.1 isBreak]
    rfl
  · rw [String.toList_ofList] at isBlank
    rw [List.eq_of_mem_replicate isBlank]
    rfl

/-- The lines of a container that has parts. -/
theorem block_cons (depth : Nat) (opening closing line : String) (lines : List String) :
    block depth opening closing (line :: lines) =
      opening ++ (newline (depth + 1) ++
        (String.intercalate ("," ++ newline (depth + 1)) (line :: lines) ++
          (newline depth ++ closing))) := by
  rw [block, if_neg (by simp)]
  simp only [String.append_assoc, newline]

/-- What came next does not matter to a finished value. -/
theorem supply_expected (progress : Progress) (expected : Expected) (value : Document) :
    Progress.supply { progress with expected := expected } value = progress.supply value := by
  rw [Progress.supply, Progress.supply]

/-- A kind of container: how it is kept while it is open, with its parts in reverse, what it is
read as, and its brackets. -/
structure Brackets (α : Type) where
  frame : List α → Frame
  document : List α → Document
  opening : String
  closing : String
  /-- What may come behind the opening bracket. -/
  opened : Expected
  /-- What has to come behind a comma. -/
  next : Expected
  opens : ∀ {progress : Progress}, progress.ExpectsValue →
    TakesClosed opening progress (progress.enter (frame []) opened)
  separates : ∀ {parts outer result}, TakesClosed "," ⟨frame parts :: outer, result, .separator⟩
    ⟨frame parts :: outer, result, next⟩
  closes : ∀ {parts outer result}, outer.length < depthLimit →
    TakesClosed closing ⟨frame parts :: outer, result, .separator⟩
      (Progress.supply ⟨outer, result, .separator⟩ (document parts.reverse))
  closesEmpty : ∀ {outer result}, outer.length < depthLimit →
    TakesClosed closing ⟨frame [] :: outer, result, opened⟩
      (Progress.supply ⟨outer, result, .separator⟩ (document []))
  isSeparate : Separate closing

namespace Brackets

variable {α : Type} (brackets : Brackets α) {limit : Nat}

/-- The text is read as one part of such a container. -/
def SpellsPart (limit : Nat) (text : String) (part : α) : Prop :=
  ∀ ⦃parts outer result expected⦄, expected = brackets.opened ∨ expected = brackets.next →
    outer.length + 1 + limit ≤ depthLimit →
    Takes text ⟨brackets.frame parts :: outer, result, expected⟩
      ⟨brackets.frame (part :: parts) :: outer, result, .separator⟩

/-- The parts of a container, from the first one to the closing bracket. -/
theorem takesClosed_parts {lines : List String} {parts : List α}
    (spelled : List.Forall₂ (brackets.SpellsPart limit) lines parts) (present : lines ≠ [])
    {gap last : String} (isGap : ∀ c ∈ gap.toList, isSpace c = true)
    (isLast : ∀ c ∈ last.toList, isSpace c = true) (done : List α) (outer : List Frame)
    (result : Option Document) {expected : Expected}
    (isExpected : expected = brackets.opened ∨ expected = brackets.next)
    (room : outer.length + 1 + limit ≤ depthLimit) :
    TakesClosed (String.intercalate ("," ++ gap) lines ++ (last ++ brackets.closing))
      ⟨brackets.frame done :: outer, result, expected⟩
      (Progress.supply ⟨outer, result, .separator⟩
        (brackets.document (done.reverse ++ parts))) := by
  induction spelled generalizing done expected with
  | nil => contradiction
  | @cons line part lines parts first spelled inductionHypothesis =>
    have taken : Takes line ⟨brackets.frame done :: outer, result, expected⟩
        ⟨brackets.frame (part :: done) :: outer, result, .separator⟩ := first isExpected room
    cases spelled with
    | nil =>
      rw [String.intercalate_singleton, ← List.reverse_cons]
      refine taken.closedBy ?_ (brackets.isSeparate.behindSpaces isLast)
      exact (takesClosed_spaces isLast).append (brackets.closes (by omega))
    | cons =>
      have rest := inductionHypothesis (List.cons_ne_nil _ _) (part :: done) (.inr rfl)
      rw [List.reverse_cons, List.append_assoc] at rest
      rw [String.intercalate_cons_cons, String.append_assoc, String.append_assoc]
      refine taken.closedBy ?_ ?_
      · exact (brackets.separates.append (takesClosed_spaces isGap)).append rest
      · exact (Separate.append ⟨',', rfl, rfl⟩ gap).append _

/-- A container with one part a line. -/
theorem spells_block {lines : List String} {parts : List α}
    (spelled : List.Forall₂ (brackets.SpellsPart limit) lines parts) (depth : Nat) :
    Spells (limit + 1) (block depth brackets.opening brackets.closing lines)
      (brackets.document parts) := by
  intro progress expected room
  have opens := brackets.opens expected
  have whole : Progress.supply ⟨progress.frames, progress.result, .separator⟩
      (brackets.document parts) = progress.supply (brackets.document parts) :=
    supply_expected progress .separator _
  rw [← whole]
  cases spelled with
  | nil => exact (opens.append (brackets.closesEmpty (by omega))).takes
  | @cons line part lines parts first others =>
    have inside := brackets.takesClosed_parts (.cons first others) (List.cons_ne_nil _ _)
      (isSpace_of_mem_newline (depth + 1)) (isSpace_of_mem_newline depth) [] progress.frames
      progress.result (.inl rfl) (by omega)
    rw [block_cons]
    exact (opens.append ((takesClosed_spaces (isSpace_of_mem_newline _)).append inside)).takes

end Brackets

/-- A mark of one character is read as its token. -/
theorem takesClosed_mark {mark : Char} {token : Json.Token} {origin target : Progress}
    (noSpace : isSpace mark = false)
    (write : ∀ behind, Json.token? (mark :: behind) = some (token, behind))
    (read : origin.read token = some target) :
    TakesClosed (String.ofList [mark]) origin target :=
  takesClosed_token (String.toList_ofList ▸ Json.writesClosed_mark noSpace write) read

theorem closed_array {enclosing : Nat} (shallow : enclosing < depthLimit) (items : List Document) :
    Progress.closed enclosing (.array items) = .array items.reverse :=
  if_pos shallow

theorem closed_object {enclosing : Nat} (shallow : enclosing < depthLimit)
    (members : List (String × Document)) (key : Option String) :
    Progress.closed enclosing (.object members true key) = .object members.reverse := by
  rw [Progress.closed, Bool.true_and, if_pos (decide_eq_true shallow)]

/-- The brackets of an array. -/
def arrayBrackets : Brackets Document where
  frame := .array
  document := .array
  opening := "["
  closing := "]"
  opened := .valueOrEnd
  next := .value
  opens expected := takesClosed_mark rfl (fun _ => rfl) (read_of_expectsValue expected rfl)
  separates := takesClosed_mark rfl (fun _ => rfl) rfl
  closes shallow := by
    rw [← closed_array shallow]
    exact takesClosed_mark rfl (fun _ => rfl) rfl
  closesEmpty shallow := by
    rw [← List.reverse_nil, ← closed_array shallow]
    exact takesClosed_mark rfl (fun _ => rfl) rfl
  isSeparate := ⟨']', rfl, rfl⟩

/-- The brackets of an object. -/
def objectBrackets : Brackets (String × Document) where
  frame members := .object members true none
  document := .object
  opening := "\x7b"
  closing := "\x7d"
  opened := .keyOrEnd
  next := .key
  opens expected := takesClosed_mark rfl (fun _ => rfl) (read_of_expectsValue expected rfl)
  separates := takesClosed_mark rfl (fun _ => rfl) rfl
  closes {members outer result} shallow := by
    rw [← closed_object shallow members none]
    exact takesClosed_mark rfl (fun _ => rfl) rfl
  closesEmpty {outer result} shallow := by
    rw [← List.reverse_nil, ← closed_object shallow [] none]
    exact takesClosed_mark rfl (fun _ => rfl) rfl
  isSeparate := ⟨'\x7d', rfl, rfl⟩

section Parts

variable {limit : Nat} {text : String} {document : Document}

/-- An item stands as it is. -/
theorem spellsPart_item (spells : Spells limit text document) :
    arrayBrackets.SpellsPart limit text document :=
  fun _ _ _ _ isExpected room => spells isExpected.symm room

/-- A member stands behind its key. -/
theorem spellsPart_member (key : String) (spells : Spells limit text document) :
    objectBrackets.SpellsPart limit (quote key ++ ": " ++ text) (key, document) := by
  intro members outer result expected isExpected room
  have readKey : Progress.read ⟨.object members true none :: outer, result, expected⟩
      (.string (key.toList.map Json.piece)) =
      some ⟨.object members true (some key) :: outer, result, .colon⟩ := by
    rcases isExpected with rfl | rfl
    · change some (Progress.mk (.object members true (text? _) :: outer) result .colon) = _
      rw [Json.text?_map_piece]
    · change some (Progress.mk (.object members true (text? _) :: outer) result .colon) = _
      rw [Json.text?_map_piece]
  have colon : TakesClosed ": " ⟨.object members true (some key) :: outer, result, .colon⟩
      ⟨.object members true (some key) :: outer, result, .value⟩ := by
    have apart : ": " = ":" ++ " " := rfl
    rw [apart]
    exact (takesClosed_mark rfl (fun _ => rfl) rfl).append (takesClosed_spaces (by simp [isSpace]))
  have value : Takes text ⟨.object members true (some key) :: outer, result, .value⟩
      ⟨.object ((key, document) :: members) true none :: outer, result, .separator⟩ :=
    spells (.inl rfl) room
  exact ((takesClosed_token (Json.writesClosed_quote key) readKey).append colon).before value

end Parts

/-! ## Printed values -/

/-- All numbers of a document are read back. -/
def NumbersReadBack (document : Document) : Prop :=
  ∀ number, document.Holds number → number.ReadsBack

mutual

/-- A printed value is read as that value. -/
theorem spells_prettyAt : (value : Json) → (depth : Nat) → {limit : Nat} →
    (ofJson value).NumbersReadBack → (ofJson value).Within limit →
    Spells limit (prettyAt depth value) (ofJson value)
  | .null, _, _, _, _ => spells_null
  | .bool true, _, _, _, _ => spells_bool true
  | .bool false, _, _, _, _ => spells_bool false
  | .number held, _, _, readBack, _ => spells_number (readBack held .number)
  | .string value, _, _, _, _ => spells_string value
  | .array items, depth, limit, readBack, within => by
    rw [ofJson] at readBack within
    obtain ⟨positive, parts⟩ := within_array.1 within
    obtain ⟨less, rfl⟩ := Nat.exists_eq_succ_of_ne_zero (Nat.ne_of_gt positive)
    exact arrayBrackets.spells_block (spells_prettyItems items (depth + 1)
      (fun item listed number holds => readBack number (.item listed holds)) parts) depth
  | .object members, depth, limit, readBack, within => by
    rw [ofJson] at readBack within
    obtain ⟨positive, parts⟩ := within_object.1 within
    obtain ⟨less, rfl⟩ := Nat.exists_eq_succ_of_ne_zero (Nat.ne_of_gt positive)
    exact objectBrackets.spells_block (spells_prettyMembers members (depth + 1)
      (fun member listed number holds => readBack number (.member listed holds)) parts) depth

/-- The lines of an array are read as its items. -/
theorem spells_prettyItems : (items : List Json) → (depth : Nat) → {limit : Nat} →
    (∀ item ∈ ofJsonItems items, item.NumbersReadBack) →
    (∀ item ∈ ofJsonItems items, item.Within limit) →
    List.Forall₂ (arrayBrackets.SpellsPart limit) (prettyItems depth items) (ofJsonItems items)
  | [], _, _, _, _ => .nil
  | item :: rest, depth, limit, readBack, within => by
    rw [ofJsonItems] at readBack within ⊢
    obtain ⟨firstReadBack, readBack⟩ := List.forall_mem_cons.1 readBack
    obtain ⟨firstWithin, within⟩ := List.forall_mem_cons.1 within
    exact .cons (spellsPart_item (spells_prettyAt item depth firstReadBack firstWithin))
      (spells_prettyItems rest depth readBack within)

/-- The lines of an object are read as its members. -/
theorem spells_prettyMembers : (members : List (String × Json)) → (depth : Nat) → {limit : Nat} →
    (∀ member ∈ ofJsonMembers members, member.2.NumbersReadBack) →
    (∀ member ∈ ofJsonMembers members, member.2.Within limit) →
    List.Forall₂ (objectBrackets.SpellsPart limit) (prettyMembers depth members)
      (ofJsonMembers members)
  | [], _, _, _, _ => .nil
  | (key, value) :: rest, depth, limit, readBack, within => by
    rw [ofJsonMembers] at readBack within ⊢
    obtain ⟨firstReadBack, readBack⟩ := List.forall_mem_cons.1 readBack
    obtain ⟨firstWithin, within⟩ := List.forall_mem_cons.1 within
    exact .cons (spellsPart_member key (spells_prettyAt value depth firstReadBack firstWithin))
      (spells_prettyMembers rest depth readBack within)

end

/-- A value printed at any depth is read back, if its numbers are and it is not nested too
deep. -/
theorem parse?_prettyAt {value : Json} (depth : Nat) (readBack : (ofJson value).NumbersReadBack)
    (within : (ofJson value).Within depthLimit) :
    parse? (prettyAt depth value) = some (ofJson value) := by
  have takes : Takes (prettyAt depth value) .start (Progress.start.supply (ofJson value)) :=
    spells_prettyAt value depth readBack within (.inl rfl) (Nat.zero_add _).le
  obtain ⟨tokens, writes, run⟩ := takes
  rw [parse?, writes.reads.tokens?]
  change (tokens.foldlM Progress.read Progress.start).bind Progress.result = _
  rw [run]
  rfl

/-- Only doubles may fail to be read back. -/
theorem numbersReadBack_of_float {document : Document} (fits : document.Fits)
    (float : ∀ value, document.Holds (.float value) → (Json.Number.float value).ReadsBack) :
    document.NumbersReadBack := by
  intro number holds
  cases number with
  | int value => exact Json.Number.readsBack_int (fits _ holds)
  | float value => exact float value holds

end NeutralSql.Document

/-! ## Where lines stand -/

namespace NeutralSql.Json

/-- One text stands somewhere in another. -/
def Occurs (inner outer : String) : Prop :=
  ∃ front behind, outer = front ++ inner ++ behind

theorem Occurs.trans {inner middle outer : String} (occurs : Occurs inner middle)
    (next : Occurs middle outer) : Occurs inner outer := by
  obtain ⟨front, behind, rfl⟩ := occurs
  obtain ⟨before, after, rfl⟩ := next
  exact ⟨before ++ front, behind ++ after, by simp only [String.append_assoc]⟩

/-- Lines begin with the first of them. -/
theorem exists_intercalate_cons (separator line : String) (lines : List String) :
    ∃ behind, String.intercalate separator (line :: lines) = line ++ behind := by
  cases lines with
  | nil => exact ⟨"", by rw [String.intercalate_singleton, String.append_empty]⟩
  | cons next lines => exact ⟨_, by rw [String.intercalate_cons_cons, String.append_assoc]⟩

theorem occurs_intercalate {line : String} {lines : List String} (listed : line ∈ lines)
    (separator : String) : Occurs line (String.intercalate separator lines) := by
  induction lines with
  | nil => contradiction
  | cons first lines inductionHypothesis =>
    rcases List.mem_cons.1 listed with rfl | isLater
    · obtain ⟨behind, written⟩ := exists_intercalate_cons separator line lines
      exact ⟨"", behind, by rw [written, String.empty_append]⟩
    · obtain ⟨front, behind, written⟩ := inductionHypothesis isLater
      have present : lines ≠ [] := List.ne_nil_of_mem isLater
      refine ⟨first ++ separator ++ front, behind, ?_⟩
      rw [String.intercalate_cons_of_ne_nil present, written]
      simp only [String.append_assoc]

/-- Every part of a container stands in what is printed for it. -/
theorem occurs_block {line : String} {lines : List String} (listed : line ∈ lines) (depth : Nat)
    (opening closing : String) : Occurs line (block depth opening closing lines) := by
  cases lines with
  | nil => contradiction
  | cons first lines =>
    obtain ⟨front, behind, written⟩ :=
      occurs_intercalate listed ("," ++ Document.newline (depth + 1))
    rw [Document.block_cons, written]
    refine ⟨opening ++ (Document.newline (depth + 1) ++ front),
      behind ++ (Document.newline depth ++ closing), ?_⟩
    simp only [String.append_assoc]

/-- The items of an array are printed one by one. -/
theorem prettyItems_eq_map (depth : Nat) (items : List Json) :
    prettyItems depth items = items.map (prettyAt depth) := by
  induction items with
  | nil => rfl
  | cons item rest inductionHypothesis =>
    rw [prettyItems, inductionHypothesis, List.map_cons]

/-- Every item of an array stands in what is printed for the array. -/
theorem occurs_item {item : Json} {items : List Json} (listed : item ∈ items) (depth : Nat) :
    Occurs (prettyAt (depth + 1) item) (prettyAt depth (.array items)) := by
  rw [prettyAt, prettyItems_eq_map]
  exact occurs_block (List.mem_map_of_mem listed) depth _ _

end NeutralSql.Json
