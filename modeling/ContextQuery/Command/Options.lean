/-!
# Options

The options of the command and how they are read. An option takes its value from the same argument
(`--query=v`, `-qv`, `-q=v`) or from the next one, which then must not look like an option; a hyphen
alone does not. What the arguments leave open the environment may say. A value that comes in an
argument of its own is looked at only when the next option is met or the arguments end, so an unknown
option behind it is reported first.
-/

namespace ContextQuery.Command

/-- Why the arguments are refused, or answered otherwise than by running. -/
inductive Usage where
  | missingRequired
  | unknownArgument
  | repeated
  | invalidValue
  | unwantedValue
  | help
  deriving DecidableEq, Repr

/-- The options that take a value. -/
inductive Name where
  | fields
  | query
  | query2
  | table
  | tenant
  | moduleName
  | logLevel
  deriving DecidableEq, Repr

/-- The options without a value. -/
inductive Flag where
  | ast
  | help
  deriving DecidableEq, Repr

/-- An option. -/
inductive Opt where
  | valued (name : Name)
  | flag (flag : Flag)
  deriving DecidableEq, Repr

/-- The option of a long name. -/
def Opt.ofLong? (name : List Char) : Option Opt :=
  match String.ofList name with
  | "fields" => some (.valued .fields)
  | "query" => some (.valued .query)
  | "query2" => some (.valued .query2)
  | "table" => some (.valued .table)
  | "tenant" => some (.valued .tenant)
  | "module" => some (.valued .moduleName)
  | "log-level" => some (.valued .logLevel)
  | "ast" => some (.flag .ast)
  | "help" => some (.flag .help)
  | _ => none

/-- The option of a letter. -/
def Opt.ofShort? (letter : Char) : Option Opt :=
  match letter with
  | 'f' => some (.valued .fields)
  | 'q' => some (.valued .query)
  | 'h' => some (.flag .help)
  | _ => none

/-- The variable of the environment that may stand for an option. -/
def Name.variable? : Name → Option String
  | .fields => some "CQL2PG_FIELDS"
  | .tenant => some "CQL2PG_TENANT"
  | .moduleName => some "CQL2PG_MODULE"
  | .logLevel => some "CQL2PG_LOG_LEVEL"
  | _ => none

/-! ## Arguments -/

/-- The values given so far, and whether the tree is asked for. -/
structure Given where
  values : List (Name × String) := []
  ast : Bool := false
  deriving DecidableEq, Repr

/-- The value given for an option. -/
def Given.value? (g : Given) (name : Name) : Option String :=
  g.values.lookup name

/-- The values with one more. An option is given once, and the path of a file is not empty. -/
def Given.set (g : Given) (name : Name) (value : String) : Except Usage Given :=
  if (g.value? name).isSome then .error .repeated
  else if name = .fields ∧ value.isEmpty then .error .invalidValue
  else .ok { g with values := (name, value) :: g.values }

/-- What has been read: the values, and the option whose value was to come in an argument of its
own, with that value once it has come. -/
structure Reading where
  given : Given := {}
  pending : Option (Name × Option String) := none
  deriving DecidableEq, Repr

/-- The values with the pending one among them. -/
def Reading.settle (r : Reading) : Except Usage Given :=
  match r.pending with
  | none => .ok r.given
  | some (_, none) => .error .invalidValue
  | some (name, some value) => r.given.set name value

/-- Takes an option without a value in its argument. -/
def Reading.option (r : Reading) : Opt → Except Usage Reading
  | .valued name => do return ⟨← r.settle, some (name, none)⟩
  | .flag .help => do
    let _ ← r.settle
    throw .help
  | .flag .ast => do
    let g ← r.settle
    if g.ast then throw .repeated else return ⟨{ g with ast := true }, none⟩

/-- Takes an option with a value in its argument. -/
def Reading.assignment (r : Reading) (opt : Opt) (value : List Char) : Except Usage Reading :=
  match opt with
  | .valued name => do return ⟨← (← r.settle).set name (String.ofList value), none⟩
  | .flag _ => .error .unwantedValue

/-- Takes an argument that begins with two hyphens; they are left off here. -/
def Reading.long (r : Reading) (arg : List Char) : Except Usage Reading :=
  match Opt.ofLong? (arg.takeWhile (· != '=')) with
  | none => .error .unknownArgument
  | some opt =>
    match arg.dropWhile (· != '=') with
    | [] => r.option opt
    | _ :: value => r.assignment opt value

/-- Takes an argument that begins with one hyphen, which is left off here. No letter is left to read
behind an option: one with a value takes the rest, and the other one ends the reading. -/
def Reading.short (r : Reading) (arg : List Char) : Except Usage Reading :=
  match arg with
  | [] => .error .unknownArgument
  | letter :: rest =>
    match Opt.ofShort? letter, rest with
    | none, _ => .error .unknownArgument
    | some (.flag flag), _ => r.option (.flag flag)
    | some opt, [] => r.option opt
    | some opt, '=' :: value => r.assignment opt value
    | some opt, value => r.assignment opt value

/-- Takes an argument that is no option: the value that is waited for, or nothing that is known. -/
def Reading.plain (r : Reading) (arg : String) : Except Usage Reading :=
  match r.pending with
  | some (name, none) => .ok { r with pending := some (name, some arg) }
  | _ => .error .unknownArgument

/-- Takes all arguments. Nothing may follow two hyphens alone. -/
def Reading.all (r : Reading) : List String → Except Usage Reading
  | [] => .ok r
  | arg :: args =>
    match arg.toList with
    | ['-', '-'] => if args.isEmpty then .ok r else .error .unknownArgument
    | '-' :: '-' :: name => do (← r.long name).all args
    | '-' :: c :: cs => do (← r.short (c :: cs)).all args
    | _ => do (← r.plain arg).all args

/-! ## Settings -/

/-- The tenant and the module whose schema holds the table, as they are given. -/
structure Owner where
  tenant : String
  moduleName : String
  deriving DecidableEq, Repr

/-- What the command is asked to do. -/
structure Settings where
  fields : String
  query : Option String
  query2 : Option String
  table : Option String
  owner : Option Owner
  ast : Bool
  logLevel : String
  deriving DecidableEq, Repr

/-- The values with those that only the environment gives. -/
def Given.withEnvironment (g : Given) (environment : String → Option String) :
    List Name → Except Usage Given
  | [] => .ok g
  | name :: names =>
    match g.value? name, name.variable?.bind environment with
    | none, some value => do (← g.set name value).withEnvironment environment names
    | _, _ => g.withEnvironment environment names

/-- The log level where none is given. -/
def defaultLogLevel : String :=
  "warn"

/-- The settings that the values make. The path must be given, and tenant and module together. -/
def Given.settings (g : Given) : Except Usage Settings := do
  let some fields := g.value? .fields | throw .missingRequired
  let owner ←
    match g.value? .tenant, g.value? .moduleName with
    | some tenant, some moduleName => pure (some ⟨tenant, moduleName⟩)
    | none, none => pure none
    | _, _ => throw .missingRequired
  return {
    fields, owner
    query := g.value? .query
    query2 := g.value? .query2
    table := g.value? .table
    ast := g.ast
    logLevel := (g.value? .logLevel).getD defaultLogLevel }

/-- The settings that arguments and environment make. -/
def Settings.ofArguments (args : List String) (environment : String → Option String) :
    Except Usage Settings := do
  let given ← (← Reading.all {} args).settle
  (← given.withEnvironment environment [.fields, .tenant, .moduleName, .logLevel]).settings

/-- The log levels. -/
def logLevels : List String :=
  ["error", "warn", "info", "debug", "trace"]

/-- What is wrong with settings that can be read. -/
inductive Problem where
  | ownerWithoutTable
  | astWithoutQuery
  | logLevel (given : String)
  deriving DecidableEq, Repr

/-- The wording of a problem. -/
def Problem.message : Problem → String
  | .ownerWithoutTable => "--tenant and --module require --table"
  | .astWithoutQuery => "--ast requires --query or --query2"
  | .logLevel given => "invalid log level: " ++ given

/-- Everything that is wrong with the settings. -/
def Settings.problems (s : Settings) : List Problem :=
  (if s.owner.isSome && s.table.isNone then [.ownerWithoutTable] else []) ++
    (if s.ast && s.query.isNone && s.query2.isNone then [.astWithoutQuery] else []) ++
    (if logLevels.contains s.logLevel then [] else [.logLevel s.logLevel])

end ContextQuery.Command
