import ContextQuery.Command.Files
import ContextQuery.Command.Options
import ContextQuery.Config.Reader
import ContextQuery.Query.Combine
import ContextQuery.Query.Json
import ContextQuery.Select

/-!
# Running the command

The command reads a configuration and up to two queries and prints what they come to: the tree of the
query, a statement over a table, or the parts of one as JSON. `perform` says all of it as a function
of the arguments, the environment and the files.
-/

namespace ContextQuery.Command

/-- Why a run fails. Faults of the configuration name its path. -/
inductive RunError where
  | unreadable (path : String) (fault : FileFault)
  | notAConfig (path : String) (fault : Json.Fault)
  | notARegistry (path : String) (error : BuildError)
  | notAQuery (error : ParseError)
  | select (error : SelectError)
  | name (fault : NameFault)
  deriving DecidableEq, Repr

/-- The wording of an unreadable file. -/
def unreadableMessage (fault : FileFault) : String :=
  "cannot read field configuration: " ++ fault.message

/-- What was being done to the configuration. -/
def loading (path : String) : String :=
  "loading " ++ path

/-- The wordings of an error from the outside in: what was being done, what went wrong, and the cause
behind it. Of malformed JSON there is no more to say than where it was met. -/
def RunError.chain : RunError → List String
  | .unreadable path fault => [loading path, unreadableMessage fault, fault.message]
  | .notAConfig path fault =>
    [loading path] ++ (Config.faultMessage? fault).toList ++ fault.message?.toList
  | .notARegistry path error => [loading path, error.message]
  | .notAQuery error => [error.message]
  | .select (.clause (.notATimestamp value fault)) =>
    [(ClauseError.notATimestamp value fault).message] ++ fault.cause?.toList
  | .select error => [error.message]
  | .name fault => [fault.message]

/-- The registry that a file describes. -/
def loadRegistry (path : String) (file : Except FileFault String) : Except RunError Registry := do
  let text ← file.mapError (.unreadable path)
  let config ← (Config.ofJson text).mapError (.notAConfig path)
  config.build.mapError (.notARegistry path)

/-- The table to select from, in the schema of its owner if there is one. -/
def Settings.tableName (s : Settings) : Except RunError (Option String) :=
  match s.table, s.owner with
  | none, _ => .ok none
  | some table, none => .ok (some table)
  | some table, some owner => do
    let tenant ← (Tenant.parse owner.tenant).mapError .name
    let moduleName ← (ModuleName.parse owner.moduleName).mapError .name
    return some ((Schema.mk tenant moduleName).table table)

/-- A text or nothing as JSON. -/
def textOrNull : Option String → Json
  | some s => .str s
  | none => .null

/-- The parts of a statement as JSON. -/
def parts (r : Registry) (q : Option Query) : Except SelectError Json := do
  let condition ← r.whereText q
  let order ← r.orderText q
  let columns ← r.orderColumns q
  return .obj [("order_by", textOrNull order), ("order_by_fields", textOrNull columns),
    ("where", textOrNull condition)]

/-- The tree of a query as JSON. -/
def treeOrNull : Option Query → Json
  | some q => q.toJson
  | none => .null

/-- What the settings come to, given the file that they name. -/
def Settings.run (s : Settings) (file : Except FileFault String) : Except RunError String := do
  let registry ← loadRegistry s.fields file
  let query ← (Query.combine s.query s.query2).mapError .notAQuery
  if s.ast then return (treeOrNull query).pretty
  match ← s.tableName with
  | some table => (registry.select table query).mapError .select
  | none => return (← (parts registry query).mapError .select).pretty

/-- How the command ends. -/
inductive Outcome where
  | usage (usage : Usage)
  | invalid (problems : List Problem)
  | failed (error : RunError)
  | printed (text : String) (logLevel : String)
  deriving DecidableEq, Repr

/-- The number that the command ends with. -/
def Outcome.code : Outcome → Nat
  | .usage .help => 0
  | .usage _ => 2
  | .invalid _ => 2
  | .failed _ => 1
  | .printed _ _ => 0

/-- The command. -/
def perform (args : List String) (environment : String → Option String)
    (read : String → Except FileFault String) : Outcome :=
  match Settings.ofArguments args environment with
  | .error usage => .usage usage
  | .ok settings =>
    if !settings.problems.isEmpty then .invalid settings.problems
    else
      match settings.run (read settings.fields) with
      | .error error => .failed error
      | .ok text => .printed text settings.logLevel

end ContextQuery.Command
