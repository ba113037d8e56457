import NeutralSql.Proofs.Json.Part

/-!
# How deep documents are nested

A parsed document is nested at most `Document.depthLimit` deep, so that every part of it leaves
room for one container around it. What is read as a value keeps to that, and to the ranges of
numbers, in canonical form as well: `Value.IsFrom.isPrintable`.
-/

namespace NeutralSql

namespace Document

/-- The document is an array or an object. -/
def isContainer : Document → Bool
  | .array _ | .object _ => true
  | _ => false

/-- At most so many containers of the document contain each other. -/
inductive Within : Nat → Document → Prop where
  | leaf {limit : Nat} {document : Document} (isLeaf : document.isContainer = false) :
      Within limit document
  | array {limit : Nat} {items : List Document} (parts : ∀ item ∈ items, Within limit item) :
      Within (limit + 1) (.array items)
  | object {limit : Nat} {members : List (String × Document)}
      (parts : ∀ member ∈ members, Within limit member.2) : Within (limit + 1) (.object members)

section Within

variable {limit : Nat} {items : List Document} {members : List (String × Document)}

theorem within_array :
    Within limit (.array items) ↔ 0 < limit ∧ ∀ item ∈ items, Within (limit - 1) item := by
  constructor
  · rintro (isLeaf | parts)
    · contradiction
    · exact ⟨Nat.succ_pos _, parts⟩
  · rintro ⟨positive, parts⟩
    obtain ⟨less, rfl⟩ := Nat.exists_eq_succ_of_ne_zero (Nat.ne_of_gt positive)
    exact .array parts

theorem within_object :
    Within limit (.object members) ↔
      0 < limit ∧ ∀ member ∈ members, Within (limit - 1) member.2 := by
  constructor
  · rintro (isLeaf | _ | parts)
    · contradiction
    · exact ⟨Nat.succ_pos _, parts⟩
  · rintro ⟨positive, parts⟩
    obtain ⟨less, rfl⟩ := Nat.exists_eq_succ_of_ne_zero (Nat.ne_of_gt positive)
    exact .object parts

/-- Room for more does no harm. -/
theorem Within.mono {document : Document} (within : Within limit document) {more : Nat}
    (enough : limit ≤ more) : Within more document := by
  induction within generalizing more with
  | leaf isLeaf => exact .leaf isLeaf
  | array parts inductionHypothesis =>
    exact within_array.2 ⟨by omega, fun item listed => inductionHypothesis item listed (by omega)⟩
  | object parts inductionHypothesis =>
    exact within_object.2
      ⟨by omega, fun member listed => inductionHypothesis member listed (by omega)⟩

/-- The parts of a document are nested less deep. -/
theorem IsPart.within {part whole : Document} (isPart : IsPart part whole)
    (within : Within limit whole) : Within (limit - 1) part := by
  have ofChild {child whole : Document} {limit : Nat} (isChild : IsChild child whole)
      (within : Within limit whole) : Within (limit - 1) child := by
    cases isChild with
    | item listed => exact (within_array.1 within).2 child listed
    | member listed => exact (within_object.1 within).2 _ listed
  induction isPart generalizing limit with
  | single isChild => exact ofChild isChild within
  | tail _ isChild inductionHypothesis =>
    exact (inductionHypothesis (ofChild isChild within)).mono (by omega)

/-- Reading gives up on containers that are nested too deep. -/
theorem ensured_within :
    Ensured fun enclosing document => document.Within (depthLimit - enclosing) where
  null := .leaf rfl
  bool := .leaf rfl
  string := .leaf rfl
  unreadable := .leaf rfl
  number _ := .leaf rfl
  array shallow parts := within_array.2 ⟨by omega, parts⟩
  object shallow parts := within_object.2 ⟨by omega, parts⟩

/-- A parsed document is not nested too deep. -/
theorem within_of_parse? {text : String} {document : Document}
    (parsed : parse? text = some document) : document.Within depthLimit :=
  ensured_within.of_parse? parsed

end Within

end Document

/-! ## Values that texts hold -/

namespace Json

/-- The numbers of the value are in range, and it is nested at most so deep. -/
structure IsPrintable (limit : Nat) (value : Json) : Prop where
  fits : (Document.ofJson value).Fits
  within : (Document.ofJson value).Within limit

section IsPrintable

variable {limit : Nat} {items : List Json} {members : List (String × Json)}

theorem isPrintable_array :
    (array items).IsPrintable limit ↔ 0 < limit ∧ ∀ item ∈ items, item.IsPrintable (limit - 1) := by
  constructor
  · rintro ⟨fits, within⟩
    rw [Document.ofJson, Document.ofJsonItems_eq_map] at fits within
    obtain ⟨positive, parts⟩ := Document.within_array.1 within
    refine ⟨positive, fun item listed => ⟨?_, parts _ (List.mem_map_of_mem listed)⟩⟩
    exact Document.fits_array.1 fits _ (List.mem_map_of_mem listed)
  · rintro ⟨positive, parts⟩
    constructor
    · rw [Document.ofJson, Document.ofJsonItems_eq_map]
      exact Document.fits_array.2 (List.forall_mem_map.2 fun item listed => (parts item listed).fits)
    · rw [Document.ofJson, Document.ofJsonItems_eq_map]
      exact Document.within_array.2
        ⟨positive, List.forall_mem_map.2 fun item listed => (parts item listed).within⟩

theorem isPrintable_object :
    (object members).IsPrintable limit ↔
      0 < limit ∧ ∀ member ∈ members, member.2.IsPrintable (limit - 1) := by
  constructor
  · rintro ⟨fits, within⟩
    rw [Document.ofJson, Document.ofJsonMembers_eq_map] at fits within
    obtain ⟨positive, parts⟩ := Document.within_object.1 within
    refine ⟨positive, fun member listed => ⟨?_, ?_⟩⟩
    · exact Document.fits_object.1 fits _ (List.mem_map_of_mem listed)
    · exact parts _ (List.mem_map_of_mem listed)
  · rintro ⟨positive, parts⟩
    constructor
    · rw [Document.ofJson, Document.ofJsonMembers_eq_map]
      exact Document.fits_object.2
        (List.forall_mem_map.2 fun member listed => (parts member listed).fits)
    · rw [Document.ofJson, Document.ofJsonMembers_eq_map]
      exact Document.within_object.2
        ⟨positive, List.forall_mem_map.2 fun member listed => (parts member listed).within⟩

theorem isPrintable_number {number : Number} (fits : number.Fits) :
    (Json.number number).IsPrintable limit :=
  ⟨Document.fits_number.2 fits, .leaf rfl⟩

mutual

/-- Putting a value into canonical form does not nest it deeper, and leaves the numbers in it. -/
theorem IsPrintable.canonical : {value : Json} → {limit : Nat} → value.IsPrintable limit →
    value.canonical.IsPrintable limit
  | .null, _, printable | .bool _, _, printable | .number _, _, printable
  | .string _, _, printable => printable
  | .array items, _, printable => by
    obtain ⟨positive, parts⟩ := isPrintable_array.1 printable
    rw [Json.canonical]
    exact isPrintable_array.2 ⟨positive, isPrintable_canonicalItems parts⟩
  | .object members, _, printable => by
    obtain ⟨positive, parts⟩ := isPrintable_object.1 printable
    rw [Json.canonical]
    exact isPrintable_object.2 ⟨positive, fun member listed =>
      isPrintable_canonicalMembers parts member (mem_of_mem_sortMembers listed)⟩

theorem isPrintable_canonicalItems : {items : List Json} → {limit : Nat} →
    (∀ item ∈ items, item.IsPrintable limit) →
    ∀ item ∈ canonicalItems items, item.IsPrintable limit
  | [], _, _ => List.forall_mem_nil _
  | item :: rest, _, parts => by
    obtain ⟨first, others⟩ := List.forall_mem_cons.1 parts
    rw [canonicalItems]
    exact List.forall_mem_cons.2 ⟨first.canonical, isPrintable_canonicalItems others⟩

theorem isPrintable_canonicalMembers : {members : List (String × Json)} → {limit : Nat} →
    (∀ member ∈ members, member.2.IsPrintable limit) →
    ∀ member ∈ canonicalMembers members, member.2.IsPrintable limit
  | [], _, _ => List.forall_mem_nil _
  | (_, value) :: rest, _, parts => by
    obtain ⟨first, others⟩ := List.forall_mem_cons.1 parts
    rw [canonicalMembers]
    exact List.forall_mem_cons.2 ⟨first.canonical, isPrintable_canonicalMembers others⟩

end

end IsPrintable

end Json

namespace Value

/-- An integer is in range. -/
theorem isPrintable_integer (value : Int64) {limit : Nat} :
    (integer value).toJson.IsPrintable limit := by
  have least := Int64.le_toInt value
  have largest := Int64.toInt_lt value
  have bottom : Int64.minValue.toInt = -2 ^ 63 := by decide
  have size : UInt64.size = 2 ^ 64 := by decide
  refine Json.isPrintable_number ⟨?_, ?_⟩
  · omega
  · omega

/-- A value that is read is nested no deeper than its document. -/
theorem isPrintable_of_ofDocument? {document : Document} {value : Value} {limit : Nat}
    (fits : document.Fits) (within : document.Within limit)
    (read : ofDocument? document = some value) : value.toJson.IsPrintable limit := by
  have ofContainer {json : Json} (denoted : document.json? = some json) :
      json.canonical.IsPrintable limit := by
    obtain rfl := Document.eq_ofJson_of_json? document denoted
    exact Json.IsPrintable.canonical ⟨fits, within⟩
  cases document with
  | null | bool | string =>
    obtain rfl := Option.some.inj read
    exact ⟨nofun, .leaf rfl⟩
  | number number =>
    have numberFits := Document.fits_number.1 fits
    cases number with
    | int whole =>
      rw [ofDocument?] at read
      split at read
      · obtain rfl := Option.some.inj read
        exact isPrintable_integer _
      · obtain rfl := Option.some.inj read
        exact Json.isPrintable_number (isFinite_ofInt numberFits)
    | float double =>
      obtain rfl := Option.some.inj read
      exact Json.isPrintable_number numberFits
  | array items =>
    obtain ⟨json, denoted, rfl⟩ := Option.map_eq_some_iff.1 read
    exact ofContainer denoted
  | object members =>
    obtain ⟨json, denoted, rfl⟩ := Option.map_eq_some_iff.1 read
    exact ofContainer denoted
  | unreadable => contradiction

/-- A value that was read from a part of a text can be written. -/
theorem IsFrom.isWritable {text : String} {document : Document} {value : Value}
    (parsed : Document.parse? text = some document) (isFrom : value.IsFrom document) :
    value.IsWritable := by
  obtain ⟨part, isPart, read⟩ := isFrom
  exact yields_ofDocument? (isPart.fits (Document.fits_of_parse? parsed)) read

/-- A value that was read from a part of a text leaves room for one container around it. -/
theorem IsFrom.isPrintable {text : String} {document : Document} {value : Value}
    (parsed : Document.parse? text = some document) (isFrom : value.IsFrom document) :
    value.toJson.IsPrintable (Document.depthLimit - 1) := by
  obtain ⟨part, isPart, read⟩ := isFrom
  exact isPrintable_of_ofDocument? (isPart.fits (Document.fits_of_parse? parsed))
    (isPart.within (Document.within_of_parse? parsed)) read

end Value

end NeutralSql
