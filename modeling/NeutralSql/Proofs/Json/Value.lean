import NeutralSql.Proofs.Json.Canonical
import NeutralSql.Proofs.Json.Record
import NeutralSql.Row

/-!
# Values and rows as JSON

Values carry no mark of their type in JSON, so that only some come back as they were:
`Value.IsWritable`. Every value that is read is one of these, and a row of them comes back
with its columns in order.
-/

namespace NeutralSql

open Document (Yields)

namespace Value

/-- A value comes back from its JSON: a finite double, a container whose objects have their
members in order, or a value that is neither of these nor bytes. -/
def IsWritable : Value → Prop
  | .null | .boolean _ | .integer _ | .string _ => True
  | .float value => value.isFinite = true
  | .json value => value.isContainer = true ∧ value.canonical = value
  | .bytes _ => False

variable {value : Value}

/-- An integer of 64 bits is within their range. -/
theorem int64?_toInt (value : Int64) : Document.int64? value.toInt = some value := by
  have least : Int64.minValue.toInt = -2 ^ 63 := by decide
  have largest : Int64.maxValue.toInt = 2 ^ 63 - 1 := by decide
  have lower := Int64.le_toInt value
  have upper := Int64.toInt_lt value
  rw [Document.int64?, if_pos (by omega), Int64.ofInt_toInt]

/-- A value that can be written is read again. -/
theorem ofDocument?_toJson (isWritable : value.IsWritable) :
    ofDocument? (.ofJson value.toJson) = some value := by
  cases value with
  | null | boolean | string | float => rfl
  | integer value =>
    rw [toJson, Json.int, Document.ofJson, ofDocument?, int64?_toInt]
  | json value =>
    obtain ⟨isContainer, isCanonical⟩ := isWritable
    have denoted := Document.json?_ofJson value
    cases value with
    | array items | object members =>
      rw [toJson]
      rw [Document.ofJson] at denoted ⊢
      rw [ofDocument?, denoted, Option.map_some, isCanonical]
    | null | bool | number | string => contradiction
  | bytes value => exact isWritable.elim

/-- Only null is written as null. -/
theorem toJson_ne_null (isWritable : value.IsWritable) (present : value.isNull = false) :
    value.toJson ≠ .null := by
  cases value with
  | null => contradiction
  | boolean | integer | float | string | bytes => exact nofun
  | json value =>
    rintro isNull
    rw [toJson] at isNull
    rw [IsWritable, isNull] at isWritable
    exact absurd isWritable.1 (by decide)

/-- An integer that fits is a finite double. -/
theorem isFinite_ofInt {value : Int} (fits : (Json.Number.int value).Fits) :
    (Binary64.ofInt value).isFinite = true := by
  have least : Int64.minValue.toInt = -9223372036854775808 := by decide
  have size : UInt64.size = 18446744073709551616 := by decide
  rw [Json.Number.Fits, least, size] at fits
  exact Binary64.isFinite_ofRatio_one _ (by omega)

/-- A container that was read is in canonical form. -/
theorem isWritable_json_canonical {value : Json} (isContainer : value.isContainer = true) :
    (json value.canonical).IsWritable :=
  ⟨(Json.isContainer_canonical value).trans isContainer, Json.canonical_canonical value⟩

/-- Every value that is read can be written. -/
theorem yields_ofDocument? : Yields ofDocument? IsWritable := by
  intro document value fits read
  cases document with
  | null | bool | string =>
    obtain rfl := Option.some.inj read
    trivial
  | number number =>
    have numberFits := Document.fits_number.1 fits
    cases number with
    | int whole =>
      rw [ofDocument?] at read
      split at read
      · obtain rfl := Option.some.inj read
        trivial
      · obtain rfl := Option.some.inj read
        exact isFinite_ofInt numberFits
    | float double =>
      obtain rfl := Option.some.inj read
      exact numberFits
  | array items =>
    rw [ofDocument?, Document.json?, Option.map_map, Option.map_eq_some_iff] at read
    obtain ⟨items, -, rfl⟩ := read
    exact isWritable_json_canonical rfl
  | object members =>
    rw [ofDocument?, Document.json?, Option.map_map, Option.map_eq_some_iff] at read
    obtain ⟨members, -, rfl⟩ := read
    exact isWritable_json_canonical rfl
  | unreadable => contradiction

/-- Only null is read as null. -/
theorem isNull_eq_false {document : Document} (notNull : document ≠ .null)
    (read : ofDocument? document = some value) : value.isNull = false := by
  cases document with
  | null => contradiction
  | bool | string =>
    obtain rfl := Option.some.inj read
    rfl
  | number number =>
    cases number with
    | int whole =>
      rw [ofDocument?] at read
      split at read <;> exact Option.some.inj read ▸ rfl
    | float double => exact Option.some.inj read ▸ rfl
  | array | object =>
    rw [ofDocument?, Option.map_eq_some_iff] at read
    obtain ⟨json, -, rfl⟩ := read
    rfl
  | unreadable => contradiction

/-- A value that may be absent is read again if it is not null. -/
theorem nullable?_ofJson {option : Option Value}
    (isWritable : ∀ value ∈ option, value.IsWritable ∧ value.isNull = false) :
    Document.nullable? ofDocument? (.ofJson (.nullable toJson option)) = some option :=
  Document.nullable?_ofJson (fun value present => ofDocument?_toJson (isWritable value present).1)
    fun value present => toJson_ne_null (isWritable value present).1 (isWritable value present).2

/-- A field that may be missing or null holds a value that can be written and is not null, or
none. -/
theorem isWritable_of_optional? {field : Document.Field} {option : Option Value}
    (fits : field.Fits) (read : field.optional? ofDocument? = some option) :
    ∀ value ∈ option, value.IsWritable ∧ value.isNull = false := by
  have nullable : Yields (Document.nullable? ofDocument?) fun option =>
      ∀ value ∈ option, value.IsWritable ∧ value.isNull = false := by
    intro document option fits read value present
    rw [Document.nullable?.eq_def] at read
    split at read
    · obtain rfl := Option.some.inj read
      contradiction
    · rename_i notNull
      obtain ⟨held, heldRead, rfl⟩ := Option.map_eq_some_iff.1 read
      obtain rfl := Option.some.inj present
      exact ⟨yields_ofDocument? fits heldRead, isNull_eq_false notNull heldRead⟩
  exact nullable.withDefault? (by simp) fits read

end Value

namespace Row

/-- All values of a row can be written. -/
def IsWritable (row : Row) : Prop :=
  ∀ entry ∈ row.entries, entry.2.IsWritable

/-- A column that is new is appended. -/
theorem setEntry_eq_append {column : String} {value : Value} {entries : List (String × Value)}
    (isNew : column ∉ entries.map Prod.fst) :
    setEntry column value entries = entries ++ [(column, value)] := by
  induction entries with
  | nil => rfl
  | cons first rest inductionHypothesis =>
    rw [List.map_cons, List.mem_cons, not_or] at isNew
    rw [setEntry, if_neg (Ne.symm isNew.1), inductionHypothesis isNew.2]
    rfl

/-- Setting an entry adds no other one. -/
theorem mem_of_mem_setEntry {column : String} {value : Value} {entries : List (String × Value)}
    {entry : String × Value} (listed : entry ∈ setEntry column value entries) :
    entry = (column, value) ∨ entry ∈ entries := by
  induction entries with
  | nil => exact .inl (List.mem_singleton.1 listed)
  | cons first rest inductionHypothesis =>
    rw [setEntry] at listed
    split at listed
    · exact (List.mem_cons.1 listed).imp_right (List.mem_cons_of_mem first)
    · rcases List.mem_cons.1 listed with rfl | isRest
      · exact .inr List.mem_cons_self
      · exact (inductionHypothesis isRest).imp_right (List.mem_cons_of_mem first)

/-- Assigning the entries of a row in order gives the row, its columns in the same order. -/
theorem ofList_entries (row : Row) : ofList row.entries = row := by
  have assigned : ∀ (pairs : List (String × Value)) (front : Row),
      ((front.entries ++ pairs).map Prod.fst).Nodup →
        (pairs.foldl (fun row pair => row.set pair.1 pair.2) front).entries =
          front.entries ++ pairs := by
    intro pairs
    induction pairs with
    | nil => exact fun front _ => (List.append_nil front.entries).symm
    | cons pair rest inductionHypothesis =>
      intro front distinct
      have isNew : pair.1 ∉ front.entries.map Prod.fst := by
        rw [List.map_append, List.nodup_append] at distinct
        exact fun listed => distinct.2.2 pair.1 listed pair.1 List.mem_cons_self rfl
      have appended : (front.set pair.1 pair.2).entries = front.entries ++ [pair] :=
        setEntry_eq_append isNew
      rw [List.append_cons, ← appended] at distinct ⊢
      exact inductionHypothesis _ distinct
  have entries := assigned row.entries empty row.distinct
  cases row
  exact Row.mk.injEq .. ▸ entries

/-- A row holds no pairs but those that are assigned. -/
theorem mem_of_mem_ofList {pairs : List (String × Value)} {entry : String × Value}
    (listed : entry ∈ (ofList pairs).entries) : entry ∈ pairs := by
  have assigned : ∀ front : Row,
      entry ∈ (pairs.foldl (fun row pair => row.set pair.1 pair.2) front).entries →
        entry ∈ front.entries ∨ entry ∈ pairs := by
    clear listed
    induction pairs with
    | nil => exact fun _ => .inl
    | cons pair rest inductionHypothesis =>
      intro front listed
      rcases inductionHypothesis _ listed with isFront | isRest
      · rcases mem_of_mem_setEntry isFront with rfl | isOld
        · exact .inr List.mem_cons_self
        · exact .inl isOld
      · exact .inr (List.mem_cons_of_mem pair isRest)
  exact (assigned empty listed).resolve_left List.not_mem_nil

/-- A row that can be written is read again. -/
theorem ofDocument?_toJson {row : Row} (isWritable : row.IsWritable) :
    ofDocument? (.ofJson row.toJson) = some row := by
  have read : ∀ entries : List (String × Value), (∀ entry ∈ entries, entry.2.IsWritable) →
      ((entries.map fun entry => (entry.1, Document.ofJson entry.2.toJson)).mapM
        fun (member : String × Document) =>
          (Value.ofDocument? member.2).map fun value => (member.1, value)) = some entries := by
    intro entries isWritable
    induction entries with
    | nil => rfl
    | cons entry rest inductionHypothesis =>
      obtain ⟨first, others⟩ := List.forall_mem_cons.1 isWritable
      rw [List.map_cons, List.mapM_cons, inductionHypothesis others,
        Value.ofDocument?_toJson first]
      rfl
  rw [toJson, Document.ofJson, Document.ofJsonMembers_eq_map, List.map_map, ofDocument?]
  exact (congrArg (Option.map ofList) (read row.entries isWritable)).trans
    (congrArg some row.ofList_entries)

/-- Every row that is read can be written. -/
theorem yields_ofDocument? : Yields ofDocument? IsWritable := by
  intro document row fits read
  cases document with
  | object members =>
    obtain ⟨pairs, pairsRead, rfl⟩ := Option.map_eq_some_iff.1 read
    have writable : ∀ pair ∈ pairs, pair.2.IsWritable := by
      have membersFit := Document.fits_object.1 fits
      clear fits read
      induction members generalizing pairs with
      | nil => exact Option.some.inj pairsRead ▸ List.forall_mem_nil _
      | cons member members inductionHypothesis =>
        obtain ⟨memberFits, membersFit⟩ := List.forall_mem_cons.1 membersFit
        rw [List.mapM_cons] at pairsRead
        obtain ⟨first, firstRead, pairsRead⟩ := Option.bind_eq_some_iff.1 pairsRead
        obtain ⟨value, valueRead, rfl⟩ := Option.map_eq_some_iff.1 firstRead
        obtain ⟨rest, restRead, pairsRead⟩ := Option.bind_eq_some_iff.1 pairsRead
        obtain rfl := Option.some.inj pairsRead
        exact List.forall_mem_cons.2
          ⟨Value.yields_ofDocument? memberFits valueRead,
            inductionHypothesis rest restRead membersFit⟩
    exact fun entry listed => writable entry (mem_of_mem_ofList listed)
  | null | bool | number | string | array | unreadable => contradiction

end Row

end NeutralSql
