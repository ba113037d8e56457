import NeutralSql.CommandLine

/-!
# The program

Reads files and the standard input, prints answers and failures.
-/

namespace NeutralSql

open CommandLine

/-- The text that help shows. -/
def usage : String :=
  "Usage: usq [-v] compile -d <dialect> [-f <file>]\n" ++
  "       usq [-v] fingerprint -d <dialect> -s <sql> [-p <params>]\n" ++
  "       usq [-v] tables -s <sql>"

/-- The input of a command, or nothing where its file cannot be read. -/
def readInput : Source → IO (Option String)
  | .nowhere => return some ""
  | .standardInput => return some (← (← IO.getStdin).readToEnd)
  | .file path => do
    try return some (← IO.FS.readFile path)
    catch _ => return none

/-- Print why the arguments start no command. -/
def reportUsage (reason : UsageError) : IO UInt32 := do
  match reason with
  | .displayHelp => IO.println usage; return 0
  | .displayVersion => IO.println "usq 0.1.0"; return 0
  | reason => IO.eprintln ("error: " ++ reason.name ++ "\n" ++ usage); return 2

/-- Answer the arguments of an invocation. -/
def program (arguments : List String) : IO UInt32 := do
  match parse arguments with
  | .error reason => reportUsage reason
  | .ok invocation =>
    let input ← readInput invocation.command.source
    match invocation.command.answer input with
    | .ok text => IO.println text; return 0
    | .error failure => IO.eprintln ("Error: " ++ failure.message); return 1

end NeutralSql

/-- The entry point of the program. -/
def main (arguments : List String) : IO UInt32 :=
  NeutralSql.program arguments
