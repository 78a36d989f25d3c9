import ContextQuery.Command.Run

/-!
# The command line

Reads what the command depends on, performs it, and prints what it comes to: the result on standard
output, all else on standard error.
-/

namespace ContextQuery.Command

/-- The number of an error is `n`, which some functions give with a minus. -/
def isErrorNumber (code : UInt32) (n : UInt32) : Bool :=
  code == n || code == 0 - n

/-- The fault behind an error of the file system. Errors of one class are told apart by number. -/
def FileFault.ofError : IO.Error → FileFault
  | .noFileOrDirectory .. => .missing
  | .inappropriateType _ code details =>
    if isErrorNumber code 21 then .isDirectory
    else if isErrorNumber code 20 then .notADirectory
    else .other details
  | .invalidArgument _ code details =>
    if isErrorNumber code 36 then .nameTooLong else .other details
  | e => .other (toString e)

/-- The text of a file. -/
def readText (path : String) : IO (Except FileFault String) := do
  if path.toList.contains '\x00' then return .error .nulInPath
  try
    match String.fromUTF8? (← IO.FS.readBinFile path) with
    | some text => return .ok text
    | none => return .error .notText
  catch e => return .error (.ofError e)

/-- The variables that may stand for options, as far as they are set. -/
def readEnvironment : IO (List (String × String)) := do
  let names : List Name := [.fields, .tenant, .moduleName, .logLevel]
  names.filterMapM fun name =>
    match name.variable? with
    | none => pure none
    | some key => do return (← IO.getEnv key).map (key, ·)

/-- How the command is called. -/
def usageLine : String :=
  "usage: --fields FILE [--query CQL] [--query2 CQL] [--table NAME [--tenant NAME --module NAME]] " ++
    "[--ast] [--log-level LEVEL]"

/-- What is wrong with the arguments, in a few words. -/
def Usage.describe : Usage → String
  | .missingRequired => "a required option is missing"
  | .unknownArgument => "unknown argument"
  | .repeated => "an option is given twice"
  | .invalidValue => "an option has no value"
  | .unwantedValue => "an option takes no value"
  | .help => usageLine

/-- Prints how the command ended. -/
def Outcome.print : Outcome → IO Unit
  | .usage .help => IO.println usageLine
  | .usage u => do
    IO.eprintln ("error: " ++ u.describe)
    IO.eprintln usageLine
  | .invalid problems => for p in problems do IO.eprintln ("Configuration error: " ++ p.message)
  | .failed e =>
    match e.chain with
    | [] => pure ()
    | text :: causes => do
      IO.eprintln ("Error: " ++ text)
      for cause in causes do IO.eprintln ("Caused by: " ++ cause)
  | .printed text _ => IO.println text

end ContextQuery.Command

/-- The command. -/
def main (args : List String) : IO UInt32 := do
  let given ← ContextQuery.Command.readEnvironment
  let environment (name : String) : Option String := given.lookup name
  let text ←
    match ContextQuery.Command.Settings.ofArguments args environment with
    | .ok asked => ContextQuery.Command.readText asked.fields
    | .error _ => pure (.error .missing)
  let outcome := ContextQuery.Command.perform args environment fun _ => text
  outcome.print
  return outcome.code.toUInt32
