import NeutralSql.Proofs.Association
import NeutralSql.Proofs.Json.Document
import NeutralSql.Statement.Json

/-!
# Records and their fields

A record that is written with all its members is read field by field, each from what was
written for it: `fields?_ofJson`. In the other direction, `Yields` says what is true of
everything that a reader accepts among numbers that fit; the fields of a record fit if the
record does, whether it was an object or an array.
-/

namespace NeutralSql.Document

variable {α : Type}

/-! ## Reading what was written -/

/-- A key that is listed once selects its member. -/
theorem memberField_of_mem {members : List (String × Document)}
    (distinct : (members.map Prod.fst).Nodup) {member : String × Document}
    (listed : member ∈ members) : memberField members member.1 = .given member.2 := by
  rw [memberField, (lookup_eq_some_iff_mem distinct).2 listed]

/-- Distinct keys occur at most once. -/
theorem occurrences_le_one {members : List (String × Document)}
    (distinct : (members.map Prod.fst).Nodup) (key : String) : occurrences key members ≤ 1 := by
  have once := List.nodup_iff_count_le_one.1 distinct key
  rw [List.count_eq_countP, List.countP_map] at once
  exact once

/-- An object whose members are the fields of a record gives each field its member. -/
theorem fields?_ofJson {names : List String} {members : List (String × Json)}
    (keys : members.map Prod.fst = names) (distinct : names.Nodup) :
    fields? names (ofJson (.object members)) =
      some (members.map fun member => .given (ofJson member.2)) := by
  subst keys
  have keys : ((ofJsonMembers members).map Prod.fst) = members.map Prod.fst := by
    rw [ofJsonMembers_eq_map, List.map_map]
    rfl
  rw [← keys] at distinct ⊢
  have once : ((ofJsonMembers members).map Prod.fst).all
      (fun name => occurrences name (ofJsonMembers members) ≤ 1) = true :=
    List.all_eq_true.2 fun name _ => decide_eq_true (occurrences_le_one distinct name)
  rw [ofJson, fields?, if_pos once, List.map_map]
  have fields := List.map_congr_left fun member listed => memberField_of_mem distinct listed
  rw [show (memberField (ofJsonMembers members) ∘ Prod.fst) =
    fun member => memberField (ofJsonMembers members) member.1 from rfl, fields,
    ofJsonMembers_eq_map, List.map_map]
  rfl

/-! The readers of a field that is given read what it holds. -/

@[simp] theorem Field.required?_given (read? : Document → Option α) (document : Document) :
    (Field.given document).required? read? = read? document :=
  rfl

@[simp] theorem Field.withDefault?_given (fallback : α) (read? : Document → Option α)
    (document : Document) : (Field.given document).withDefault? fallback read? = read? document :=
  rfl

@[simp] theorem Field.optional?_given (read? : Document → Option α) (document : Document) :
    (Field.given document).optional? read? = nullable? read? document :=
  rfl

/-- A string. -/
@[simp] theorem asString?_ofJson (text : String) : asString? (ofJson (.string text)) = some text :=
  rfl

/-- A truth value. -/
@[simp] theorem asBool?_ofJson (value : Bool) : asBool? (ofJson (.bool value)) = some value :=
  rfl

section Written

variable {read? : Document → Option α} {write : α → Json}

/-- A list is read item by item. -/
theorem listOf?_ofJson {values : List α}
    (restores : ∀ value ∈ values, read? (ofJson (write value)) = some value) :
    listOf? read? (ofJson (.array (values.map write))) = some values := by
  rw [ofJson, ofJsonItems_eq_map, listOf?, List.map_map]
  induction values with
  | nil => rfl
  | cons value rest inductionHypothesis =>
    obtain ⟨first, restores⟩ := List.forall_mem_cons.1 restores
    rw [List.map_cons, List.mapM_cons, inductionHypothesis restores, Function.comp_apply, first]
    rfl

/-- A value that may be absent is read unless it was written as null. -/
theorem nullable?_ofJson {option : Option α}
    (restores : ∀ value ∈ option, read? (ofJson (write value)) = some value)
    (present : ∀ value ∈ option, write value ≠ .null) :
    nullable? read? (ofJson (.nullable write option)) = some option := by
  cases option with
  | none => rfl
  | some value =>
    have notNull := present value rfl
    rw [Json.nullable]
    have read := restores value rfl
    generalize written : write value = json at notNull read
    cases json with
    | null => contradiction
    | bool | number | string | array | object => exact congrArg (Option.map some) read

/-- A list of strings. -/
@[simp] theorem asStrings?_ofJson (texts : List String) :
    asStrings? (ofJson (.strings texts)) = some texts :=
  listOf?_ofJson fun _ _ => rfl

/-- A natural number below the bound. -/
theorem asNat?_ofJson {bound n : Nat} (below : n < bound) :
    asNat? bound (ofJson (.int n)) = some n := by
  have inside : (0 : Int) ≤ n ∧ (n : Int) < bound := ⟨Int.natCast_nonneg n, by exact_mod_cast below⟩
  rw [Json.int, ofJson, asNat?, if_pos inside, Int.toNat_natCast]

/-- An unsigned integer of 32 bits. -/
theorem asUInt32?_ofJson (value : UInt32) : asUInt32? (ofJson (.ofUInt32 value)) = some value := by
  rw [Json.ofUInt32, asUInt32?, asNat?_ofJson value.toNat_lt, Option.map_some, UInt32.ofNat_toNat]

/-- An unsigned integer of 64 bits. -/
theorem asUInt64?_ofJson (value : UInt64) : asUInt64? (ofJson (.ofUInt64 value)) = some value := by
  rw [Json.ofUInt64, asUInt64?, asNat?_ofJson value.toNat_lt, Option.map_some, UInt64.ofNat_toNat]

/-- An unsigned integer of 32 bits that may be absent. -/
@[simp] theorem nullable?_asUInt32? (option : Option UInt32) :
    nullable? asUInt32? (ofJson (.nullable .ofUInt32 option)) = some option :=
  nullable?_ofJson (fun value _ => asUInt32?_ofJson value) fun _ _ => nofun

/-- An unsigned integer of 64 bits that may be absent. -/
@[simp] theorem nullable?_asUInt64? (option : Option UInt64) :
    nullable? asUInt64? (ofJson (.nullable .ofUInt64 option)) = some option :=
  nullable?_ofJson (fun value _ => asUInt64?_ofJson value) fun _ _ => nofun

/-- A string that may be absent. -/
@[simp] theorem nullable?_asString? (option : Option String) :
    nullable? asString? (ofJson (.nullable .string option)) = some option :=
  nullable?_ofJson (fun _ _ => rfl) fun _ _ => nofun

/-- A list of strings that may be absent. -/
@[simp] theorem nullable?_asStrings? (option : Option (List String)) :
    nullable? asStrings? (ofJson (.nullable .strings option)) = some option :=
  nullable?_ofJson (fun texts _ => asStrings?_ofJson texts) fun _ _ => nofun

end Written

/-! ## What readers yield -/

/-- Every value that a reader accepts from documents that fit has a property. -/
def Yields (read? : Document → Option α) (property : α → Prop) : Prop :=
  ∀ ⦃document : Document⦄ ⦃value : α⦄, document.Fits → read? document = some value → property value

/-- What a field holds fits. -/
def Field.Fits : Field → Prop
  | .given value => value.Fits
  | .omitted | .cutOff => True

/-- The items of an array fit as fields. -/
theorem fits_of_mem_itemFields {names : List String} {items : List Document}
    (fits : ∀ item ∈ items, item.Fits) : ∀ field ∈ itemFields names items, field.Fits := by
  induction names generalizing items with
  | nil => exact List.forall_mem_nil _
  | cons name names inductionHypothesis =>
    cases items with
    | nil => exact List.forall_mem_cons.2 ⟨trivial, inductionHypothesis (List.forall_mem_nil _)⟩
    | cons item items =>
      obtain ⟨itemFits, itemsFit⟩ := List.forall_mem_cons.1 fits
      exact List.forall_mem_cons.2 ⟨itemFits, inductionHypothesis itemsFit⟩

/-- The fields of a record fit. -/
theorem fits_of_fields? {names : List String} {document : Document} {fields : List Field}
    (fits : document.Fits) (read : fields? names document = some fields) :
    ∀ field ∈ fields, field.Fits := by
  cases document with
  | object members =>
    rw [fields?] at read
    split at read
    · obtain rfl := Option.some.inj read
      intro field listed
      obtain ⟨name, -, rfl⟩ := List.mem_map.1 listed
      rw [memberField]
      split
      · rename_i value found
        exact fits_object.1 fits (name, value) (mem_of_lookup_eq_some found)
      · trivial
    · contradiction
  | array items =>
    rw [fields?] at read
    split at read
    · exact Option.some.inj read ▸ fits_of_mem_itemFields (fits_array.1 fits)
    · contradiction
  | null | bool | number | string | unreadable => contradiction

namespace Yields

variable {read? : Document → Option α} {property : α → Prop} {field : Field} {value : α}

/-- Everything is true of what is read if it is true of everything. -/
theorem listOf? (yields : Yields read? property) :
    Yields (listOf? read?) fun values => ∀ value ∈ values, property value := by
  intro document values fits read
  cases document with
  | array items =>
    have itemsFit := fits_array.1 fits
    rw [Document.listOf?] at read
    clear fits
    induction items generalizing values with
    | nil => exact Option.some.inj read ▸ List.forall_mem_nil _
    | cons item items inductionHypothesis =>
      obtain ⟨itemFits, itemsFit⟩ := List.forall_mem_cons.1 itemsFit
      rw [List.mapM_cons] at read
      obtain ⟨first, firstRead, read⟩ := Option.bind_eq_some_iff.1 read
      obtain ⟨rest, restRead, read⟩ := Option.bind_eq_some_iff.1 read
      obtain rfl := Option.some.inj read
      exact List.forall_mem_cons.2
        ⟨yields itemFits firstRead, inductionHypothesis restRead itemsFit⟩
  | null | bool | number | string | object | unreadable => contradiction

/-- A field that has to be there. -/
theorem required? (yields : Yields read? property) (fits : field.Fits)
    (read : field.required? read? = some value) : property value := by
  cases field with
  | given document => exact yields fits read
  | omitted | cutOff => contradiction

/-- A field with a value of its own when it is missing. -/
theorem withDefault? (yields : Yields read? property) {fallback : α} (isMissing : property fallback)
    (fits : field.Fits) (read : field.withDefault? fallback read? = some value) :
    property value := by
  cases field with
  | given document => exact yields fits read
  | omitted | cutOff => exact Option.some.inj read ▸ isMissing

/-- A record is read from fields that fit. -/
theorem record {names : List String} {ofFields? : List Field → Option α}
    (yields : ∀ fields value, (∀ field ∈ fields, field.Fits) → ofFields? fields = some value →
      property value) :
    Yields (fun document => (fields? names document).bind ofFields?) property := by
  intro document value fits read
  obtain ⟨fields, fieldsRead, read⟩ := Option.bind_eq_some_iff.1 read
  exact yields fields value (fits_of_fields? fits fieldsRead) read

end Yields

end NeutralSql.Document
