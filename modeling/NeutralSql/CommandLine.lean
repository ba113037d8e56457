import NeutralSql.CommandLine.Arguments
import NeutralSql.Fingerprint
import NeutralSql.SqlText.Kind
import NeutralSql.SqlText.Tables

/-!
# The command line

Three commands: compile a statement that is given as JSON, show the cache key of a text
with its parameters, and list the tables that a text refers to. Everything but the
reading of files and of the standard input is decided here.
-/

namespace NeutralSql.CommandLine

/-- A command with its options. -/
inductive Command where
  | compile (dialect : Dialect) (file : Option String)
  | fingerprint (dialect : Dialect) (sql params : String)
  | tables (sql : String)

/-- What a user asks for. -/
structure Invocation where
  verbose : Bool
  command : Command

/-- Why a command gives no answer. -/
inductive Failure where
  | rejected (error : CompileError)
  | invalidStatement
  | invalidParams
  | unreadable (path : String)

/-- The wording of a failure. -/
def Failure.message : Failure → String
  | .rejected error => error.message
  | .invalidStatement => "input is not a valid statement"
  | .invalidParams => "--params must be a JSON array"
  | .unreadable path => "failed to read " ++ path

/-- The option that asks for help. -/
def helpRule : OptionRule :=
  ⟨"help", 'h', .stop .displayHelp, false⟩

/-- The option for more output, which every command knows. -/
def verboseRule : OptionRule :=
  ⟨"verbose", 'v', .flag, false⟩

/-- A dialect has to have a name that is known. -/
def dialectRule : OptionRule :=
  ⟨"dialect", 'd', .value fun name =>
    if (Dialect.ofName? name).isSome then none else some .valueValidation, true⟩

/-- A path must not be empty. -/
def fileRule : OptionRule :=
  ⟨"file", 'f', .value fun path => if path.isEmpty then some .invalidValue else none, false⟩

/-- The text of a statement. -/
def sqlRule : OptionRule :=
  ⟨"sql", 's', .value fun _ => none, true⟩

/-- The parameters of a statement. -/
def paramsRule : OptionRule :=
  ⟨"params", 'p', .value fun _ => none, false⟩

/-- The options in front of a command. -/
def commonRules : List OptionRule :=
  [verboseRule, helpRule, ⟨"version", 'V', .stop .displayVersion, false⟩]

/-- The commands that take options. -/
def commandNames : List String :=
  ["compile", "fingerprint", "tables"]

/-- The options of a command. -/
def rulesOf : String → List OptionRule
  | "compile" => [dialectRule, fileRule, verboseRule, helpRule]
  | "fingerprint" => [dialectRule, sqlRule, paramsRule, verboseRule, helpRule]
  | _ => [sqlRule, verboseRule, helpRule]

/-- The command that options make. -/
def commandOf? (name : String) (reading : Reading) : Option Command :=
  let dialect? := (reading.value? "dialect").bind Dialect.ofName?
  match name with
  | "compile" => dialect?.map fun dialect => .compile dialect (reading.value? "file")
  | "fingerprint" => do
    return .fingerprint (← dialect?) (← reading.value? "sql")
      ((reading.value? "params").getD "[]")
  | _ => (reading.value? "sql").map .tables

/-- Help on a command: at most one name may follow, that of a command or of help itself. -/
def helpOn : List String → UsageError
  | [] => .displayHelp
  | [name] => if ("help" :: commandNames).contains name then .displayHelp else .invalidSubcommand
  | _ => .invalidSubcommand

/-- Read the arguments of an invocation. -/
def parse (arguments : List String) : Except UsageError Invocation :=
  match readLevel commonRules ("help" :: commandNames) .empty arguments with
  | .error reason => .error reason
  | .ok ⟨common, none⟩ =>
    .error (if common.values.isEmpty then .displayHelpOnMissingArgumentOrSubcommand
      else .missingSubcommand)
  | .ok ⟨_, some ("help", rest)⟩ => .error (helpOn rest)
  | .ok ⟨common, some (name, rest)⟩ =>
    match readLevel (rulesOf name) [] .empty rest with
    | .error reason => .error reason
    | .ok own =>
      match commandOf? name own.reading with
      | some command => .ok ⟨common.has "verbose" || own.reading.has "verbose", command⟩
      | none => .error .missingRequiredArgument

/-- Where a command takes its input from. -/
inductive Source where
  | nowhere
  | standardInput
  | file (path : String)

/-- The source of a command's input. -/
def Command.source : Command → Source
  | .compile _ (some path) => .file path
  | .compile _ none => .standardInput
  | _ => .nowhere

/-- What `compile` prints for the text of a statement. -/
def compileText (dialect : Dialect) (text : String) : Except Failure String :=
  match Statement.ofText? text with
  | none => .error .invalidStatement
  | some statement =>
    match compile dialect statement with
    | .error error => .error (.rejected error)
    | .ok compiled => .ok (Json.array (compiled.map Compiled.toJson)).pretty

/-- What `fingerprint` prints for a text and the JSON array of its parameters. -/
def fingerprintText (dialect : Dialect) (sql params : String) : Except Failure String :=
  match Value.listOfText? params with
  | none => .error .invalidParams
  | some values =>
    let kind :=
      match SqlText.classify sql with
      | .read => "read"
      | .write => "write"
    .ok ((Fingerprint.of dialect sql values).hex ++ " (" ++ kind ++ ")")

/-- What `tables` prints for a text. -/
def tablesText (sql : String) : String :=
  String.intercalate "\n" (SqlText.tables sql)

/-- The answer of a command to its input; no input means that the file could not be read. -/
def Command.answer (command : Command) (input : Option String) : Except Failure String :=
  match command, input with
  | .compile dialect _, some text => compileText dialect text
  | .compile _ file, none => .error (.unreadable (file.getD ""))
  | .fingerprint dialect sql params, _ => fingerprintText dialect sql params
  | .tables sql, _ => .ok (tablesText sql)

end NeutralSql.CommandLine
