import NeutralSql.CommandLine
import NeutralSql.Proofs.Compile.Alignment
import NeutralSql.Proofs.Compile.Sharing
import NeutralSql.Proofs.Executor.Agreement
import NeutralSql.Proofs.Json.Layout

/-!
# Keys on the command line

Two commands agree on the key of a statement: what `compile` prints for a statement, its SQL and
the array of its values, gives with `fingerprint` the key that the cache uses for it, and the word
for what the statement does: `CommandLine.fingerprintText_of_compileText`. The values travel
through two texts; each comes back as the value it was, since all that was read from one text can
be read again from another.
-/

namespace NeutralSql

/-- The values bound by what a statement compiles to are values that the statement carries, or
counts. -/
theorem Statement.mem_carried_of_compile {dialect : Dialect} {statement : Statement}
    {compiled : List Compiled} (accepted : compile dialect statement = .ok compiled)
    {part : Compiled} (isPart : part ∈ compiled) {value : Value} (bound : value ∈ part.params) :
    value ∈ statement.carried ∨ ∃ count, value = .integer count := by
  have clause (predicates : List Predicate) (listed : value ∈ Clause.bound predicates) :
      value ∈ predicates.filterMap Predicate.value := by
    obtain ⟨predicate, isPredicate, held⟩ := List.mem_filterMap.1 listed
    exact List.mem_filterMap.2 ⟨predicate, List.mem_of_mem_filter isPredicate, held⟩
  have onRows {values : List Value} (binds : statement.bound? dialect = some values) :
      value ∈ values := by
    obtain ⟨plan, planned⟩ := plan_of_compile accepted
    obtain ⟨notes, template, rfl, rfl, -⟩ := Statement.plan_of_bound binds planned
    rw [compile_of_single planned] at accepted
    obtain rfl := Except.ok.inj accepted
    obtain rfl := List.mem_singleton.1 isPart
    exact bound
  have onSchemas (definition : (Context.Call.compile statement).isDefinition = true) :
      value ∈ statement.carried := by
    obtain ⟨plan, planned⟩ := plan_of_compile accepted
    have bare : part.bare ∈ plan.templates.map (Template.written dialect) := by
      rw [← map_bare_of_compile planned accepted]
      exact List.mem_map_of_mem isPart
    obtain ⟨template, finished, same⟩ := List.mem_map.1 bare
    have none : part.params = [] := (congrArg Compiled.params same).symm.trans
      (Context.Call.values_of_isDefinition definition planned template finished)
    rw [none] at bound
    contradiction
  cases statement with
  | select query =>
    rcases List.mem_append.1 (onRows rfl) with isCondition | isCount
    · left
      rw [carried, List.filterMap_append]
      exact List.mem_append.2 ((List.mem_append.1 isCondition).imp (clause _) (clause _))
    · right
      obtain ⟨count, -, rfl⟩ := List.mem_map.1 isCount
      exact ⟨_, rfl⟩
  | insert insertion =>
    left
    obtain ⟨row, isRow, isValue⟩ := List.mem_flatMap.1 (onRows rfl)
    obtain ⟨column, -, held⟩ := List.mem_filterMap.1 isValue
    exact List.mem_flatMap.2 ⟨row, isRow, List.mem_map_of_mem (mem_of_lookup_eq_some held)⟩
  | update change =>
    left
    exact List.mem_append.2 ((List.mem_append.1 (onRows rfl)).imp_right (clause _))
  | delete deletion => exact .inl (clause _ (onRows rfl))
  | createTable table => exact .inl (onSchemas rfl)
  | alterTable alteration => exact .inl (onSchemas rfl)
  | dropTable removal => exact .inl (onSchemas rfl)

/-- The values bound by what a document compiles to were read from parts of it, or are counts. -/
theorem Statement.isFrom_of_compile {dialect : Dialect} {document : Document}
    {statement : Statement} (held : ofDocument? document = some statement)
    {compiled : List Compiled} (accepted : compile dialect statement = .ok compiled)
    {part : Compiled} (isPart : part ∈ compiled) {value : Value} (bound : value ∈ part.params) :
    value.IsFrom document ∨ ∃ count, value = .integer count :=
  (mem_carried_of_compile accepted isPart bound).imp_left (isFrom_of_mem_carried held)

/-- All values bound by what a text compiles to come back from their JSON. -/
theorem Statement.isWritable_of_compile {dialect : Dialect} {text : String}
    {statement : Statement} (read : ofText? text = some statement) {compiled : List Compiled}
    (accepted : compile dialect statement = .ok compiled) {part : Compiled}
    (isPart : part ∈ compiled) : ∀ value ∈ part.params, value.IsWritable := by
  intro value bound
  obtain ⟨document, parsed, held⟩ := Option.bind_eq_some_iff.1 read
  rcases isFrom_of_compile held accepted isPart bound with isFrom | ⟨count, rfl⟩
  · exact isFrom.isWritable parsed
  · trivial

/-- The array of these values is not nested too deep to be read: each of them stood inside some
container already. -/
theorem Statement.isPrintable_of_compile {dialect : Dialect} {text : String}
    {statement : Statement} (read : ofText? text = some statement) {compiled : List Compiled}
    (accepted : compile dialect statement = .ok compiled) {part : Compiled}
    (isPart : part ∈ compiled) :
    (Json.array (part.params.map Value.toJson)).IsPrintable Document.depthLimit := by
  obtain ⟨document, parsed, held⟩ := Option.bind_eq_some_iff.1 read
  refine Json.isPrintable_array.2 ⟨by decide, List.forall_mem_map.2 fun value bound => ?_⟩
  rcases isFrom_of_compile held accepted isPart bound with isFrom | ⟨count, rfl⟩
  · exact isFrom.isPrintable parsed
  · exact Value.isPrintable_integer count

namespace CommandLine

/-- A text that carries the values of a finished statement, given with its SQL, has the key of
that statement. -/
theorem fingerprintText_of_carries {dialect : Dialect} {statement : Statement}
    {compiled : List Compiled} (accepted : compile dialect statement = .ok compiled)
    {part : Compiled} (isPart : part ∈ compiled)
    (areWritable : ∀ value ∈ part.params, value.IsWritable) {params : String}
    (carries : Document.parse? params =
      some (.ofJson (.array (part.params.map Value.toJson)))) :
    fingerprintText dialect part.sql params =
      .ok ((Fingerprint.ofCompiled dialect part).hex ++
        if statement.isRead then " (read)" else " (write)") := by
  have values : Value.listOfText? params = some part.params := by
    rw [Value.listOfText?, carries]
    exact Document.listOf?_ofJson fun value bound =>
      Value.ofDocument?_toJson (areWritable value bound)
  have isRead := statement.kind_eq_read_iff
  rw [fingerprintText, values]
  simp only [statement.classify_of_compile accepted part isPart, Fingerprint.ofCompiled]
  cases kind : statement.kind with
  | read =>
    rw [if_pos (isRead.1 kind), String.append_assoc, String.append_assoc]
    rfl
  | write =>
    rw [if_neg fun reads => by simp [isRead.2 reads] at kind, String.append_assoc,
      String.append_assoc]
    rfl

/-- The text that `compile` prints for the values of a finished statement. -/
def paramsText (part : Compiled) : String :=
  Json.prettyAt 2 (.array (part.params.map Value.toJson))

/-- The lines that `compile` prints for the SQL of a finished statement and its values. -/
def partText (part : Compiled) : String :=
  Json.quote "sql" ++ ": " ++ Json.quote part.sql ++ ",\n    " ++
    (Json.quote "params" ++ ": " ++ paramsText part)

/-- The lines of a finished statement stand in what is printed for it. -/
theorem occurs_partText (part : Compiled) :
    Json.Occurs (partText part) (Json.prettyAt 1 part.toJson) := by
  obtain ⟨more, members⟩ : ∃ more, part.toJson = .object (("sql", .string part.sql) ::
      ("params", .array (part.params.map Value.toJson)) :: more) := ⟨_, rfl⟩
  have between : ",\n    " = "," ++ Document.newline 2 := rfl
  obtain ⟨behind, written⟩ := Json.exists_intercalate_cons ("," ++ Document.newline 2)
    (Json.quote "params" ++ ": " ++ paramsText part) (Json.prettyMembers 2 more)
  rw [paramsText] at written
  rw [members, Json.prettyAt, Json.prettyMembers, Json.prettyMembers, Document.block_cons,
    String.intercalate_cons_cons, written]
  refine ⟨"\x7b" ++ Document.newline 2, behind ++ (Document.newline 1 ++ "\x7d"), ?_⟩
  simp only [partText, paramsText, between, Json.prettyAt, String.append_assoc]

/-- The lines of every finished statement stand in what is printed for all of them. -/
theorem occurs_of_mem {compiled : List Compiled} {part : Compiled} (isPart : part ∈ compiled) :
    Json.Occurs (partText part) (Json.array (compiled.map Compiled.toJson)).pretty :=
  (occurs_partText part).trans (Json.occurs_item (List.mem_map_of_mem isPart) 0)

/-- The values of a finished statement are printed so that they are read again, apart from doubles
that are not. -/
theorem parse?_paramsText {dialect : Dialect} {text : String} {statement : Statement}
    (read : Statement.ofText? text = some statement) {compiled : List Compiled}
    (accepted : compile dialect statement = .ok compiled) {part : Compiled}
    (isPart : part ∈ compiled)
    (readBack : ∀ value, Document.Holds (.float value)
      (.ofJson (.array (part.params.map Value.toJson))) → (Json.Number.float value).ReadsBack) :
    Document.parse? (paramsText part) =
      some (.ofJson (.array (part.params.map Value.toJson))) := by
  have printable := Statement.isPrintable_of_compile read accepted isPart
  exact Document.parse?_prettyAt 2 (Document.numbersReadBack_of_float printable.fits readBack)
    printable.within

/-- The command line shows the key that the cache uses. A text that `compile` accepts is printed
as finished statements, each with its SQL and its values; and for each of them, `fingerprint`
prints the key of that statement and whether the statement reads or writes, when it is given these
two as they were printed. Numbers are read again with rounding, so that this takes for granted that
the doubles among the values are read as they were printed. -/
theorem fingerprintText_of_compileText {dialect : Dialect} {text output : String}
    (printed : compileText dialect text = .ok output) :
    ∃ statement compiled, Statement.ofText? text = some statement ∧
      compile dialect statement = .ok compiled ∧
      output = (Json.array (compiled.map Compiled.toJson)).pretty ∧
      ∀ part ∈ compiled, Json.Occurs (partText part) output ∧
        ((∀ value, Document.Holds (.float value)
            (.ofJson (.array (part.params.map Value.toJson))) →
              (Json.Number.float value).ReadsBack) →
          fingerprintText dialect part.sql (paramsText part) =
            .ok ((Fingerprint.ofCompiled dialect part).hex ++
              if statement.isRead then " (read)" else " (write)")) := by
  rw [compileText] at printed
  split at printed
  · contradiction
  · rename_i statement read
    split at printed
    · contradiction
    · rename_i compiled accepted
      obtain rfl := Except.ok.inj printed
      refine ⟨statement, compiled, read, accepted, rfl, fun part isPart => ?_⟩
      refine ⟨occurs_of_mem isPart, fun readBack => ?_⟩
      exact fingerprintText_of_carries accepted isPart
        (Statement.isWritable_of_compile read accepted isPart)
        (parse?_paramsText read accepted isPart readBack)

/-- A row with a null, an integer beyond 64 signed bits, and an object with a negative zero. -/
def readingText : String :=
  "\x7b\"kind\": \"insert\", \"table\": \"readings\", \"rows\": [\x7b\"at\": null, " ++
    "\"count\": 18446744073709551615, \"data\": \x7b\"b\": [-7], \"a\": -0.0\x7d\x7d]\x7d"

/-- What the row compiles to: the large integer is a double, and the object is sorted. -/
def readingPart : Compiled :=
  .ofParts "INSERT INTO readings (at, count, data) VALUES (?, ?, ?)"
    [.null, .float (.ofInt 18446744073709551615),
      .json (.object [("a", .float (.ofMagnitude true 0)), ("b", .array [.int (-7)])])]

/-- The statement of the row. -/
def reading : Statement :=
  .insert ⟨"readings", [.ofList (["at", "count", "data"].zip readingPart.params)]⟩

theorem ofText?_readingText : Statement.ofText? readingText = some reading := by
  have parsed : Document.parse? readingText = some (.object
      [("kind", .string "insert"), ("table", .string "readings"),
        ("rows", .array [.object [("at", .null), ("count", .number (.int 18446744073709551615)),
          ("data", .object [("b", .array [.number (.int (-7))]),
            ("a", .number (.float (.ofMagnitude true 0)))])]])]) := by
    decide +kernel
  rw [Statement.ofText?, parsed]
  rfl

/-- The doubles of the row are read as they are printed. -/
theorem readsBack_reading (value : Binary64)
    (holds : Document.Holds (.float value)
      (.ofJson (.array (readingPart.params.map Value.toJson)))) :
    (Json.Number.float value).ReadsBack := by
  have large : (Json.Number.float (.ofInt 18446744073709551615)).ReadsBack := by
    rw [Json.Number.ReadsBack]
    decide +kernel
  have zero : (Json.Number.float (.ofMagnitude true 0)).ReadsBack := by
    rw [Json.Number.ReadsBack]
    decide +kernel
  have holds : Document.Holds (.float value) (.array [.null,
      .number (.float (.ofInt 18446744073709551615)),
      .object [("a", .number (.float (.ofMagnitude true 0))),
        ("b", .array [.number (.int (-7))])]]) := holds
  cases holds with
  | item listed holds =>
    simp only [List.mem_cons, List.not_mem_nil, or_false] at listed
    rcases listed with rfl | rfl | rfl
    · contradiction
    · cases holds
      exact large
    · cases holds with
      | member listed holds =>
        simp only [List.mem_cons, List.not_mem_nil, or_false, Prod.mk.injEq] at listed
        rcases listed with ⟨-, rfl⟩ | ⟨-, rfl⟩
        · cases holds
          exact zero
        · cases holds with
          | item listed holds =>
            rw [List.mem_singleton.1 listed] at holds
            contradiction

/-- The row is printed with its values as they were read, and they have its key. -/
theorem fingerprintText_of_compileText_reading :
    compileText .mysql readingText = .ok (Json.array [readingPart.toJson]).pretty ∧
      Json.Occurs (partText readingPart) (Json.array [readingPart.toJson]).pretty ∧
      fingerprintText .mysql readingPart.sql (paramsText readingPart) =
        .ok ((Fingerprint.ofCompiled .mysql readingPart).hex ++ " (write)") := by
  have accepted : compile .mysql reading = .ok [readingPart] := rfl
  have printed : compileText .mysql readingText = .ok (Json.array [readingPart.toJson]).pretty := by
    rw [compileText, ofText?_readingText]
    rfl
  obtain ⟨statement, compiled, read, compiles, -, shown⟩ := fingerprintText_of_compileText printed
  obtain rfl := Option.some.inj (ofText?_readingText.symm.trans read)
  obtain rfl := Except.ok.inj (accepted.symm.trans compiles)
  obtain ⟨occurs, key⟩ := shown readingPart List.mem_cons_self
  exact ⟨printed, occurs, key readsBack_reading⟩

end CommandLine

end NeutralSql
