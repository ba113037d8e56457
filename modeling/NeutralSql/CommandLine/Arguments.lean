/-!
# Command-line arguments

Options have a long name and a letter. A value follows its option as the next argument,
behind an equals sign, or directly behind the letter; letters of options without values
may share one argument. What looks like an option is never taken for a value. An option
is only settled when the next one begins or the arguments end, which decides which of
two errors is reported.
-/

namespace NeutralSql.CommandLine

/-- Why the arguments start no command; asking for help or for the version is among the
reasons. -/
inductive UsageError where
  | displayHelp
  | displayHelpOnMissingArgumentOrSubcommand
  | displayVersion
  | invalidSubcommand
  | missingSubcommand
  | missingRequiredArgument
  | invalidValue
  | valueValidation
  | tooManyValues
  | unknownArgument
  | argumentConflict
  deriving DecidableEq

/-- The name of a reason. -/
def UsageError.name : UsageError → String
  | .displayHelp => "DisplayHelp"
  | .displayHelpOnMissingArgumentOrSubcommand => "DisplayHelpOnMissingArgumentOrSubcommand"
  | .displayVersion => "DisplayVersion"
  | .invalidSubcommand => "InvalidSubcommand"
  | .missingSubcommand => "MissingSubcommand"
  | .missingRequiredArgument => "MissingRequiredArgument"
  | .invalidValue => "InvalidValue"
  | .valueValidation => "ValueValidation"
  | .tooManyValues => "TooManyValues"
  | .unknownArgument => "UnknownArgument"
  | .argumentConflict => "ArgumentConflict"

/-- What an option does. -/
inductive OptionEffect where
  /-- It is on. -/
  | flag
  /-- It takes a value, which a check may refuse. -/
  | value (refuse? : String → Option UsageError)
  /-- It ends the reading for a reason. -/
  | stop (reason : UsageError)

/-- An option of a command. -/
structure OptionRule where
  name : String
  letter : Char
  effect : OptionEffect
  isRequired : Bool

/-- The options read so far. -/
structure Reading where
  /-- The settled options with their values. -/
  values : List (String × String)
  /-- The option that is not settled yet, with its value once it is there. -/
  pending : Option (OptionRule × Option String)

namespace Reading

/-- No options. -/
def empty : Reading :=
  ⟨[], none⟩

/-- The value of an option. -/
def value? (reading : Reading) (name : String) : Option String :=
  reading.values.lookup name

/-- The option was given. -/
def has (reading : Reading) (name : String) : Bool :=
  (reading.value? name).isSome

/-- Settle an option. No option is given twice, and its value is checked. -/
def store (reading : Reading) (rule : OptionRule) (value : String) : Except UsageError Reading :=
  if reading.has rule.name then .error .argumentConflict
  else
    let refusal :=
      match rule.effect with
      | .value refuse? => refuse? value
      | _ => none
    match refusal with
    | some reason => .error reason
    | none => .ok ⟨(rule.name, value) :: reading.values, none⟩

/-- Settle the option that is pending, if there is one. -/
def settle (reading : Reading) : Except UsageError Reading :=
  match reading.pending with
  | none => .ok reading
  | some (_, none) => .error .invalidValue
  | some (rule, some value) => store { reading with pending := none } rule value

/-- An option without a value. -/
def switchOn (reading : Reading) (rule : OptionRule) : Except UsageError Reading :=
  reading.settle.bind fun settled =>
    match rule.effect with
    | .stop reason => .error reason
    | _ => settled.store rule "true"

/-- An option whose value stands in the same argument. -/
def attach (reading : Reading) (rule : OptionRule) (value : String) : Except UsageError Reading :=
  reading.settle.bind fun settled => settled.store rule value

/-- An option whose value is the next argument. -/
def await (reading : Reading) (rule : OptionRule) : Except UsageError Reading :=
  reading.settle.map fun settled => { settled with pending := some (rule, none) }

/-- The pending option that has no value yet. -/
def awaiting? (reading : Reading) : Option OptionRule :=
  match reading.pending with
  | some (rule, none) => some rule
  | _ => none

/-- Read an argument of letters. -/
def readLetters (rules : List OptionRule) (reading : Reading) :
    List Char → Except UsageError Reading
  | [] => .ok reading
  | letter :: rest =>
    match rules.find? fun rule => rule.letter = letter with
    | none => .error .unknownArgument
    | some rule =>
      match rule.effect, rest with
      | .value _, [] => reading.await rule
      | .value _, '=' :: value => reading.attach rule (String.ofList value)
      | .value _, value => reading.attach rule (String.ofList value)
      | _, rest =>
        match reading.switchOn rule with
        | .ok next => readLetters rules next rest
        | .error reason => .error reason

/-- Read an argument that gives an option by its long name. -/
def readLong (rules : List OptionRule) (reading : Reading) (text : List Char) :
    Except UsageError Reading :=
  let name := String.ofList (text.takeWhile (· != '='))
  let attached := text.dropWhile (· != '=')
  match rules.find? fun rule => rule.name = name with
  | none => .error .unknownArgument
  | some rule =>
    match rule.effect, attached with
    | .value _, [] => reading.await rule
    | .value _, _ :: value => reading.attach rule (String.ofList value)
    | _, [] => reading.switchOn rule
    | _, _ => .error .tooManyValues

/-- Settle what is pending and check that no required option is missing. -/
def finish (rules : List OptionRule) (reading : Reading) : Except UsageError Reading :=
  reading.settle.bind fun settled =>
    if rules.all fun rule => !rule.isRequired || settled.has rule.name then .ok settled
    else .error .missingRequiredArgument

end Reading

/-- The options in front of a command, and the command with the arguments behind it. -/
structure Level where
  reading : Reading
  command : Option (String × List String)

/-- An argument that is neither an option nor a value. -/
def strayArgument (commands : List String) : UsageError :=
  if commands.isEmpty then .unknownArgument else .invalidSubcommand

/-- An argument behind the two dashes that end the options. -/
def trailingArgument (commands : List String) (argument : String) : UsageError :=
  if commands.contains argument then .unknownArgument else strayArgument commands

/-- Read arguments up to the name of a command or to their end. -/
def readLevel (rules : List OptionRule) (commands : List String) (reading : Reading) :
    List String → Except UsageError Level
  | [] => (reading.finish rules).map fun final => ⟨final, none⟩
  | argument :: rest =>
    if reading.awaiting?.isNone && commands.contains argument then
      .ok ⟨reading, some (argument, rest)⟩
    else
      match argument.toList with
      | ['-', '-'] =>
        match rest with
        | [] => (reading.finish rules).map fun final => ⟨final, none⟩
        | next :: _ => .error (trailingArgument commands next)
      | '-' :: '-' :: text =>
        match reading.readLong rules text with
        | .ok next => readLevel rules commands next rest
        | .error reason => .error reason
      | '-' :: letter :: letters =>
        match reading.readLetters rules (letter :: letters) with
        | .ok next => readLevel rules commands next rest
        | .error reason => .error reason
      | _ =>
        match reading.awaiting? with
        | some rule =>
          readLevel rules commands { reading with pending := some (rule, some argument) } rest
        | none => .error (strayArgument commands)

end NeutralSql.CommandLine
