import NeutralSql.Json.Numeral

/-!
# Documents

A `Document` is a parsed text before anything is asked of it. Text that satisfies the
grammar may still denote no value: a number beyond all doubles, half of a surrogate
pair, or containers nested too deep. Such a part becomes `unreadable`, and only a
reader that visits it fails; members that a record does not know are never visited.
Members keep the order and the repetitions of the text.
-/

namespace NeutralSql

/-- A parsed text whose parts are yet to be interpreted. -/
inductive Document where
  | null
  | bool (value : Bool)
  | number (value : Json.Number)
  | string (value : String)
  | array (items : List Document)
  | object (members : List (String × Document))
  /-- A part that obeys the grammar and denotes no value. -/
  | unreadable

namespace Document

open Json (Token StringPiece)

/-- The characters that pieces denote: a high surrogate joins the low one behind it,
and no other surrogate may occur. -/
def joinPieces? : List StringPiece → Option (List Char)
  | [] => some []
  | .char c :: rest => (joinPieces? rest).map (c :: ·)
  | .unit high :: .unit low :: rest =>
    if 0xD800 ≤ high ∧ high < 0xDC00 then
      if 0xDC00 ≤ low ∧ low < 0xE000 then
        (joinPieces? rest).map
          (Char.ofNat (0x10000 + (high - 0xD800) * 0x400 + (low - 0xDC00)) :: ·)
      else none
    else if 0xDC00 ≤ high ∧ high < 0xE000 then none
    else (joinPieces? (.unit low :: rest)).map (Char.ofNat high :: ·)
  | .unit code :: rest =>
    if 0xD800 ≤ code ∧ code < 0xE000 then none
    else (joinPieces? rest).map (Char.ofNat code :: ·)

/-- The string that pieces denote. -/
def text? (pieces : List StringPiece) : Option String :=
  (joinPieces? pieces).map String.ofList

/-- How deep containers may be nested. -/
def depthLimit : Nat := 127

/-- An open container with its finished parts in reverse. A key that denotes no string
makes the whole object unreadable. -/
inductive Frame where
  | array (items : List Document)
  | object (members : List (String × Document)) (isReadable : Bool) (key : Option String)

/-- What may come next. -/
inductive Expected where
  /-- A value. -/
  | value
  /-- A value, or the end of the array just opened. -/
  | valueOrEnd
  /-- The key of a member. -/
  | key
  /-- The key of a member, or the end of the object just opened. -/
  | keyOrEnd
  /-- The colon behind a key. -/
  | colon
  /-- A comma or the end of the innermost container; at the outermost level, the end
  of the text. -/
  | separator
  deriving DecidableEq

/-- A text that has been read in part: the open containers, innermost first, the value
of the whole text once it is complete, and what may come next. -/
structure Progress where
  frames : List Frame
  result : Option Document
  expected : Expected

namespace Progress

/-- Nothing has been read. -/
def start : Progress :=
  ⟨[], none, .value⟩

/-- A finished value goes into the innermost open container. -/
def supply (progress : Progress) (value : Document) : Progress :=
  match progress.frames with
  | [] => ⟨[], some value, .separator⟩
  | .array items :: outer => ⟨.array (value :: items) :: outer, progress.result, .separator⟩
  | .object members isReadable key :: outer =>
    let frame :=
      match key with
      | some key => .object ((key, value) :: members) isReadable none
      | none => .object members false none
    ⟨frame :: outer, progress.result, .separator⟩

/-- Open a container. -/
def enter (progress : Progress) (frame : Frame) (expected : Expected) : Progress :=
  ⟨frame :: progress.frames, progress.result, expected⟩

/-- The document of a closed container, given how many containers enclose it. -/
def closed (enclosing : Nat) : Frame → Document
  | .array items => if enclosing < depthLimit then .array items.reverse else .unreadable
  | .object members isReadable _ =>
    if isReadable && enclosing < depthLimit then .object members.reverse else .unreadable

/-- Close the innermost container if it is of the kind that the token ends. -/
def leave (progress : Progress) (isArray : Bool) : Option Progress :=
  match progress.frames with
  | [] => none
  | frame :: outer =>
    match frame, isArray with
    | .array _, true | .object .., false =>
      some (supply { progress with frames := outer } (closed outer.length frame))
    | _, _ => none

/-- Read a key. -/
def readKey (progress : Progress) (pieces : List StringPiece) : Option Progress :=
  match progress.frames with
  | .object members isReadable _ :: outer =>
    some ⟨.object members isReadable (text? pieces) :: outer, progress.result, .colon⟩
  | _ => none

/-- Read a token where a value is expected. -/
def readValue (progress : Progress) : Token → Option Progress
  | .null => some (progress.supply .null)
  | .bool value => some (progress.supply (.bool value))
  | .number numeral =>
    some (progress.supply ((numeral.value?.map Document.number).getD .unreadable))
  | .string pieces =>
    some (progress.supply (((text? pieces).map Document.string).getD .unreadable))
  | .openArray => some (progress.enter (.array []) .valueOrEnd)
  | .openObject => some (progress.enter (.object [] true none) .keyOrEnd)
  | _ => none

/-- Read one token. -/
def read (progress : Progress) (token : Token) : Option Progress :=
  match progress.expected, token with
  | .valueOrEnd, .closeArray => progress.leave true
  | .value, token | .valueOrEnd, token => progress.readValue token
  | .keyOrEnd, .closeObject => progress.leave false
  | .key, .string pieces | .keyOrEnd, .string pieces => progress.readKey pieces
  | .colon, .colon => some { progress with expected := .value }
  | .separator, .comma =>
    match progress.frames with
    | .array _ :: _ => some { progress with expected := .value }
    | .object .. :: _ => some { progress with expected := .key }
    | [] => none
  | .separator, .closeArray => progress.leave true
  | .separator, .closeObject => progress.leave false
  | _, _ => none

end Progress

/-- The document that a text holds, or nothing where the text breaks the grammar. -/
def parse? (text : String) : Option Document := do
  let tokens ← Json.tokens? text
  let progress ← tokens.foldlM Progress.read Progress.start
  progress.result

mutual

/-- The value of a document all of whose parts denote one. -/
def json? : Document → Option Json
  | .null => some .null
  | .bool value => some (.bool value)
  | .number value => some (.number value)
  | .string value => some (.string value)
  | .array items => (jsonItems? items).map .array
  | .object members => (jsonMembers? members).map .object
  | .unreadable => none

/-- The value of each item. -/
def jsonItems? : List Document → Option (List Json)
  | [] => some []
  | item :: rest =>
    match json? item, jsonItems? rest with
    | some item, some rest => some (item :: rest)
    | _, _ => none

/-- The value of each member. -/
def jsonMembers? : List (String × Document) → Option (List (String × Json))
  | [] => some []
  | (key, value) :: rest =>
    match json? value, jsonMembers? rest with
    | some value, some rest => some ((key, value) :: rest)
    | _, _ => none

end

mutual

/-- A value as the document that holds it. -/
def ofJson : Json → Document
  | .null => .null
  | .bool value => .bool value
  | .number value => .number value
  | .string value => .string value
  | .array items => .array (ofJsonItems items)
  | .object members => .object (ofJsonMembers members)

/-- `ofJson` on each item. -/
def ofJsonItems : List Json → List Document
  | [] => []
  | item :: rest => ofJson item :: ofJsonItems rest

/-- `ofJson` on each member. -/
def ofJsonMembers : List (String × Json) → List (String × Document)
  | [] => []
  | (key, value) :: rest => (key, ofJson value) :: ofJsonMembers rest

end

/-- Every part of the document denotes a value. -/
def isReadable (document : Document) : Bool :=
  document.json?.isSome

end Document

end NeutralSql
