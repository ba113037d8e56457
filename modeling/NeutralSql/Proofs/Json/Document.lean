import NeutralSql.Json.Document
import NeutralSql.Proofs.Json.Numeral

/-!
# Documents and the numbers in them

What reading ensures of every part of a document, each token preserves of the containers that are
still open: `Ensured.of_parse?`. So no number of a parsed document is out of range, however deep it
stands: `fits_of_parse?`. A document made from a value gives the value back, and it is the only
one that does.
-/

namespace NeutralSql.Document

open Json (Token)

/-- A number that stands somewhere in a document. -/
inductive Holds (number : Json.Number) : Document → Prop where
  | number : Holds number (.number number)
  | item {item : Document} {items : List Document} (listed : item ∈ items)
      (holds : Holds number item) : Holds number (.array items)
  | member {key : String} {value : Document} {members : List (String × Document)}
      (listed : (key, value) ∈ members) (holds : Holds number value) :
      Holds number (.object members)

/-- All numbers of a document fit. -/
def Fits (document : Document) : Prop :=
  ∀ number, document.Holds number → number.Fits

section Parts

variable {items : List Document} {members : List (String × Document)}

/-- A number fits as a document if it does. -/
theorem fits_number {number : Json.Number} : (Document.number number).Fits ↔ number.Fits := by
  constructor
  · exact fun fits => fits number .number
  · rintro fits _ (_ | _ | _)
    exact fits

/-- An array fits if all its items do. -/
theorem fits_array : (array items).Fits ↔ ∀ item ∈ items, item.Fits := by
  constructor
  · exact fun fits item listed number holds => fits number (.item listed holds)
  · rintro fits number (_ | ⟨listed, holds⟩ | _)
    exact fits _ listed number holds

/-- An object fits if the values of all its members do. -/
theorem fits_object : (object members).Fits ↔ ∀ member ∈ members, member.2.Fits := by
  constructor
  · exact fun fits member listed number holds => fits number (.member listed holds)
  · rintro fits number (_ | _ | ⟨listed, holds⟩)
    exact fits _ listed number holds

end Parts

/-! ## Reading tokens -/

/-- A property of documents, which may depend on how many containers enclose them, that reading
ensures: whatever has no parts has it, numbers that a numeral denotes do, and containers do that
are not nested too deep and whose parts do. -/
structure Ensured (property : Nat → Document → Prop) : Prop where
  null {enclosing : Nat} : property enclosing .null
  bool {enclosing : Nat} {value : Bool} : property enclosing (.bool value)
  string {enclosing : Nat} {value : String} : property enclosing (.string value)
  unreadable {enclosing : Nat} : property enclosing .unreadable
  number {enclosing : Nat} {numeral : Json.Numeral} {value : Json.Number}
    (denoted : numeral.value? = some value) : property enclosing (.number value)
  array {enclosing : Nat} {items : List Document} (shallow : enclosing < depthLimit)
    (parts : ∀ item ∈ items, property (enclosing + 1) item) : property enclosing (.array items)
  object {enclosing : Nat} {members : List (String × Document)} (shallow : enclosing < depthLimit)
    (parts : ∀ member ∈ members, property (enclosing + 1) member.2) :
    property enclosing (.object members)

section Ensured

variable {property : Nat → Document → Prop}

/-- All finished parts of an open container have a property. -/
def Frame.Parts (property : Document → Prop) : Frame → Prop
  | .array items => ∀ item ∈ items, property item
  | .object members _ _ => ∀ member ∈ members, property member.2

/-- An array that was just opened has no parts. -/
theorem Frame.parts_array_nil {property : Document → Prop} : (Frame.array []).Parts property :=
  List.forall_mem_nil _

/-- An object that was just opened has no parts. -/
theorem Frame.parts_object_nil {property : Document → Prop} :
    (Frame.object [] true none).Parts property :=
  List.forall_mem_nil _

/-- All finished parts of open containers have a property. -/
def Frame.AllParts (property : Nat → Document → Prop) : List Frame → Prop
  | [] => True
  | frame :: outer => frame.Parts (property (outer.length + 1)) ∧ AllParts property outer

namespace Progress

/-- All finished parts of what has been read have a property. -/
structure Ensures (property : Nat → Document → Prop) (progress : Progress) : Prop where
  frames : Frame.AllParts property progress.frames
  result : ∀ document ∈ progress.result, property 0 document

variable {progress next : Progress}

/-- Nothing has been read yet. -/
theorem ensures_start : start.Ensures property :=
  ⟨trivial, nofun⟩

/-- A finished value may be supplied. -/
theorem Ensures.supply (ensures : progress.Ensures property) {value : Document}
    (held : property progress.frames.length value) : (progress.supply value).Ensures property := by
  obtain ⟨frames, result, expected⟩ := progress
  obtain ⟨frameParts, resultHeld⟩ := ensures
  rw [Progress.supply]
  split
  · rename_i empty
    obtain rfl : frames = [] := empty
    exact ⟨trivial, fun document isResult => Option.some.inj isResult ▸ held⟩
  · rename_i items outer same
    obtain rfl : frames = .array items :: outer := same
    exact ⟨⟨List.forall_mem_cons.2 ⟨held, frameParts.1⟩, frameParts.2⟩, resultHeld⟩
  · rename_i members isReadable key outer same
    obtain rfl : frames = .object members isReadable key :: outer := same
    refine ⟨⟨?_, frameParts.2⟩, resultHeld⟩
    cases key with
    | some key => exact List.forall_mem_cons.2 ⟨held, frameParts.1⟩
    | none => exact frameParts.1

/-- A container is opened without any part. -/
theorem Ensures.enter (ensures : progress.Ensures property) {frame : Frame}
    (parts : frame.Parts (property (progress.frames.length + 1))) (expected : Expected) :
    (progress.enter frame expected).Ensures property :=
  ⟨⟨parts, ensures.frames⟩, ensures.result⟩

variable (ensured : Ensured property)

include ensured

/-- A closed container has the property if its parts do. -/
theorem closed_of_parts {frame : Frame} {enclosing : Nat}
    (parts : frame.Parts (property (enclosing + 1))) :
    property enclosing (closed enclosing frame) := by
  cases frame with
  | array items =>
    rw [closed]
    split
    · rename_i shallow
      exact ensured.array shallow fun item listed => parts item (List.mem_reverse.1 listed)
    · exact ensured.unreadable
  | object members isReadable key =>
    rw [closed]
    split
    · rename_i readable
      exact ensured.object (of_decide_eq_true (Bool.and_eq_true_iff.1 readable).2)
        fun member listed => parts member (List.mem_reverse.1 listed)
    · exact ensured.unreadable

/-- The innermost container may be closed. -/
theorem Ensures.leave (ensures : progress.Ensures property) {isArray : Bool}
    (left : progress.leave isArray = some next) : next.Ensures property := by
  rw [Progress.leave] at left
  split at left
  · contradiction
  · rename_i frame outer frames
    obtain ⟨parts, outerParts⟩ := frames ▸ ensures.frames
    have outerProgress : Progress.Ensures property { progress with frames := outer } :=
      ⟨outerParts, ensures.result⟩
    split at left
    · exact Option.some.inj left ▸ outerProgress.supply (closed_of_parts ensured parts)
    · exact Option.some.inj left ▸ outerProgress.supply (closed_of_parts ensured parts)
    · contradiction

omit ensured in
/-- A key may be read. -/
theorem Ensures.readKey (ensures : progress.Ensures property) {pieces : List Json.StringPiece}
    (read : progress.readKey pieces = some next) : next.Ensures property := by
  rw [Progress.readKey] at read
  split at read
  · rename_i members isReadable key outer frames
    obtain ⟨parts, outerParts⟩ := frames ▸ ensures.frames
    exact Option.some.inj read ▸ ⟨⟨parts, outerParts⟩, ensures.result⟩
  · contradiction

/-- A token may be read where a value is expected: numbers are where ranges are checked. -/
theorem Ensures.readValue (ensures : progress.Ensures property) {token : Token}
    (read : progress.readValue token = some next) : next.Ensures property := by
  cases token with
  | null => exact Option.some.inj read ▸ ensures.supply ensured.null
  | bool value => exact Option.some.inj read ▸ ensures.supply ensured.bool
  | number numeral =>
    obtain rfl := Option.some.inj read
    refine ensures.supply ?_
    cases denoted : numeral.value? with
    | none => exact ensured.unreadable
    | some number => exact ensured.number denoted
  | string pieces =>
    obtain rfl := Option.some.inj read
    refine ensures.supply ?_
    cases text? pieces with
    | none => exact ensured.unreadable
    | some text => exact ensured.string
  | openArray =>
    obtain rfl := Option.some.inj read
    exact ensures.enter Frame.parts_array_nil _
  | openObject =>
    obtain rfl := Option.some.inj read
    exact ensures.enter Frame.parts_object_nil _
  | closeArray | closeObject | colon | comma => contradiction

/-- Any token may be read. -/
theorem Ensures.read (ensures : progress.Ensures property) {token : Token}
    (read : progress.read token = some next) : next.Ensures property := by
  unfold Progress.read at read
  split at read
  · exact ensures.leave ensured read
  · exact ensures.readValue ensured read
  · exact ensures.readValue ensured read
  · exact ensures.leave ensured read
  · exact ensures.readKey read
  · exact ensures.readKey read
  · exact Option.some.inj read ▸ ⟨ensures.frames, ensures.result⟩
  · split at read
    · exact Option.some.inj read ▸ ⟨ensures.frames, ensures.result⟩
    · exact Option.some.inj read ▸ ⟨ensures.frames, ensures.result⟩
    · contradiction
  · exact ensures.leave ensured read
  · exact ensures.leave ensured read
  · contradiction

/-- All tokens of a text may be read one after the other. -/
theorem Ensures.run (ensures : progress.Ensures property) {tokens : List Token}
    (run : tokens.foldlM Progress.read progress = some next) : next.Ensures property := by
  induction tokens generalizing progress with
  | nil => exact Option.some.inj run ▸ ensures
  | cons token tokens inductionHypothesis =>
    rw [List.foldlM_cons] at run
    obtain ⟨middle, read, run⟩ := Option.bind_eq_some_iff.1 run
    exact inductionHypothesis (ensures.read ensured read) run

end Progress

/-- A parsed text has every property that reading ensures. -/
theorem Ensured.of_parse? (ensured : Ensured property) {text : String} {document : Document}
    (parsed : parse? text = some document) : property 0 document := by
  obtain ⟨tokens, -, parsed⟩ := Option.bind_eq_some_iff.1 parsed
  obtain ⟨progress, run, isResult⟩ := Option.bind_eq_some_iff.1 parsed
  exact (Progress.ensures_start.run ensured run).result document isResult

end Ensured

/-- Reading checks the range of every number. -/
theorem ensured_fits : Ensured fun _ document => document.Fits where
  null := nofun
  bool := nofun
  string := nofun
  unreadable := nofun
  number denoted := fits_number.2 (Json.Numeral.fits_of_value? denoted)
  array _ := fits_array.2
  object _ := fits_object.2

/-- All numbers of a parsed text fit. -/
theorem fits_of_parse? {text : String} {document : Document}
    (parsed : parse? text = some document) : document.Fits :=
  ensured_fits.of_parse? parsed

/-! ## Documents of values -/

mutual

/-- The document of a value denotes that value. -/
theorem json?_ofJson : (value : Json) → (ofJson value).json? = some value
  | .null => rfl
  | .bool _ => rfl
  | .number _ => rfl
  | .string _ => rfl
  | .array items => by
    rw [ofJson, json?, jsonItems?_ofJsonItems items]
    rfl
  | .object members => by
    rw [ofJson, json?, jsonMembers?_ofJsonMembers members]
    rfl

/-- The documents of items denote the items. -/
theorem jsonItems?_ofJsonItems :
    (items : List Json) → jsonItems? (ofJsonItems items) = some items
  | [] => rfl
  | item :: rest => by
    rw [ofJsonItems, jsonItems?, json?_ofJson item, jsonItems?_ofJsonItems rest]

/-- The documents of members denote the members. -/
theorem jsonMembers?_ofJsonMembers :
    (members : List (String × Json)) → jsonMembers? (ofJsonMembers members) = some members
  | [] => rfl
  | (key, value) :: rest => by
    rw [ofJsonMembers, jsonMembers?, json?_ofJson value, jsonMembers?_ofJsonMembers rest]

end

mutual

/-- A document that denotes a value is the document of that value. -/
theorem eq_ofJson_of_json? : (document : Document) → {value : Json} →
    document.json? = some value → document = ofJson value
  | .null, _, denoted | .bool _, _, denoted | .number _, _, denoted | .string _, _, denoted => by
    obtain rfl := Option.some.inj denoted
    rfl
  | .array items, _, denoted => by
    obtain ⟨values, itemsDenoted, rfl⟩ := Option.map_eq_some_iff.1 denoted
    rw [ofJson, ← eq_ofJsonItems_of_jsonItems? items itemsDenoted]
  | .object members, _, denoted => by
    obtain ⟨values, membersDenoted, rfl⟩ := Option.map_eq_some_iff.1 denoted
    rw [ofJson, ← eq_ofJsonMembers_of_jsonMembers? members membersDenoted]
  | .unreadable, _, denoted => nomatch denoted

/-- Items that denote values are the documents of the values. -/
theorem eq_ofJsonItems_of_jsonItems? : (items : List Document) → {values : List Json} →
    jsonItems? items = some values → items = ofJsonItems values
  | [], _, denoted => by
    obtain rfl := Option.some.inj denoted
    rfl
  | item :: rest, _, denoted => by
    rw [jsonItems?] at denoted
    split at denoted
    · rename_i value values itemDenoted restDenoted
      obtain rfl := Option.some.inj denoted
      rw [ofJsonItems, ← eq_ofJson_of_json? item itemDenoted,
        ← eq_ofJsonItems_of_jsonItems? rest restDenoted]
    · contradiction

/-- Members that denote values are the documents of the values. -/
theorem eq_ofJsonMembers_of_jsonMembers? : (members : List (String × Document)) →
    {values : List (String × Json)} → jsonMembers? members = some values →
    members = ofJsonMembers values
  | [], _, denoted => by
    obtain rfl := Option.some.inj denoted
    rfl
  | (key, value) :: rest, _, denoted => by
    rw [jsonMembers?] at denoted
    split at denoted
    · rename_i held values valueDenoted restDenoted
      obtain rfl := Option.some.inj denoted
      rw [ofJsonMembers, ← eq_ofJson_of_json? value valueDenoted,
        ← eq_ofJsonMembers_of_jsonMembers? rest restDenoted]
    · contradiction

end

/-- The items of an array as documents. -/
theorem ofJsonItems_eq_map (items : List Json) : ofJsonItems items = items.map ofJson := by
  induction items with
  | nil => rfl
  | cons item rest inductionHypothesis =>
    rw [ofJsonItems, inductionHypothesis, List.map_cons]

/-- The members of an object as documents. -/
theorem ofJsonMembers_eq_map (members : List (String × Json)) :
    ofJsonMembers members = members.map fun member => (member.1, ofJson member.2) := by
  induction members with
  | nil => rfl
  | cons member rest inductionHypothesis =>
    rw [ofJsonMembers, inductionHypothesis, List.map_cons]

/-! ## Comparing documents -/

mutual

/-- Two documents are the same. -/
def same : Document → Document → Bool
  | .null, .null => true
  | .bool first, .bool second => first = second
  | .number first, .number second => first = second
  | .string first, .string second => first = second
  | .array first, .array second => sameItems first second
  | .object first, .object second => sameMembers first second
  | .unreadable, .unreadable => true
  | _, _ => false

/-- Two lists of items are the same. -/
def sameItems : List Document → List Document → Bool
  | [], [] => true
  | first :: others, second :: rest => same first second && sameItems others rest
  | _, _ => false

/-- Two lists of members are the same. -/
def sameMembers : List (String × Document) → List (String × Document) → Bool
  | [], [] => true
  | (key, first) :: others, (other, second) :: rest =>
    key = other && same first second && sameMembers others rest
  | _, _ => false

end

mutual

/-- Documents that are compared as the same are equal. -/
theorem same_iff : (first second : Document) → (same first second = true ↔ first = second)
  | .null, second | .bool _, second | .number _, second | .string _, second
  | .unreadable, second => by cases second <;> simp [same]
  | .array items, second => by cases second <;> simp [same, sameItems_iff items]
  | .object members, second => by cases second <;> simp [same, sameMembers_iff members]

/-- Items that are compared as the same are equal. -/
theorem sameItems_iff : (first second : List Document) →
    (sameItems first second = true ↔ first = second)
  | [], second => by cases second <;> simp [sameItems]
  | item :: others, second => by
    cases second <;> simp [sameItems, same_iff item, sameItems_iff others]

/-- Members that are compared as the same are equal. -/
theorem sameMembers_iff : (first second : List (String × Document)) →
    (sameMembers first second = true ↔ first = second)
  | [], second => by cases second <;> simp [sameMembers]
  | (key, value) :: others, second => by
    cases second <;> simp [sameMembers, same_iff value, sameMembers_iff others, Prod.ext_iff]

end

instance : DecidableEq Document := fun first second =>
  decidable_of_iff _ (same_iff first second)

end NeutralSql.Document
