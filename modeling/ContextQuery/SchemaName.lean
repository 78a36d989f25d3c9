/-!
# Names of schemas and tables

Each tenant keeps the tables of a module in a schema of its own, named after both. A tenant name is a
small identifier; a module name is taken over with its hyphens and points made underscores. The names
of tables are checked where they go into a statement.
-/

namespace ContextQuery

/-- Why a name is refused. -/
inductive NameFault where
  | tenant
  | quotedModule (name : String)
  | table (name : String)
  deriving DecidableEq, Repr

/-- The form of tenant names, as a message shows it. -/
def tenantPattern : String :=
  "^[a-z][a-z0-9_]\x7b0,30\x7d$"

/-- The wording of a fault. -/
def NameFault.message : NameFault → String
  | .tenant => "tenant must match " ++ tenantPattern
  | .quotedModule name => "module name must not contain quotes: " ++ name
  | .table name => "invalid table name: " ++ name

/-! ## Tables -/

/-- An ASCII letter or an underscore. -/
def isIdentifierStart (c : Char) : Bool :=
  c.isAlpha || c == '_'

/-- An ASCII letter, a digit or an underscore. -/
def isIdentifierPart (c : Char) : Bool :=
  c.isAlphanum || c == '_'

/-- An identifier that needs no quotes, of at most 63 characters. -/
def isIdentifier : List Char → Bool
  | [] => false
  | c :: cs => isIdentifierStart c && cs.all isIdentifierPart && cs.length ≤ 62

/-- A table name: an identifier, or two with a point between them. -/
def isTableName (name : String) : Bool :=
  let first := name.toList.takeWhile (· != '.')
  match name.toList.dropWhile (· != '.') with
  | [] => isIdentifier first
  | _ :: second => isIdentifier first && isIdentifier second

/-- The name, if it is a table name. -/
def checkTableName (name : String) : Except NameFault String :=
  if isTableName name then .ok name else .error (.table name)

/-! ## Tenants and modules -/

/-- A small letter, a digit or an underscore. -/
def isTenantPart (c : Char) : Bool :=
  c.isLower || c.isDigit || c == '_'

/-- A small letter and at most thirty small letters, digits and underscores. -/
def isTenantName : List Char → Bool
  | [] => false
  | c :: cs => c.isLower && cs.all isTenantPart && cs.length ≤ 30

/-- A tenant, by its name. -/
structure Tenant where
  name : String
  valid : isTenantName name.toList = true
  deriving DecidableEq

/-- The tenant of a name. -/
def Tenant.parse (name : String) : Except NameFault Tenant :=
  if h : isTenantName name.toList = true then .ok ⟨name, h⟩ else .error .tenant

/-- A character of a module name as a schema name takes it. -/
def moduleChar (c : Char) : Char :=
  if c = '-' ∨ c = '.' then '_' else c

/-- A module, by its name as schema names take it. -/
structure ModuleName where
  name : String
  deriving DecidableEq, Repr

/-- The module of a name, which must not hold quotes. -/
def ModuleName.parse (name : String) : Except NameFault ModuleName :=
  if name.toList.any (fun c => c == '\'' || c == '"') then .error (.quotedModule name)
  else .ok ⟨name.map moduleChar⟩

/-! ## Schemas -/

/-- The schema that holds the tables of a module for a tenant. -/
structure Schema where
  tenant : Tenant
  moduleName : ModuleName
  deriving DecidableEq

namespace Schema

/-- The name of the schema. -/
def name (s : Schema) : String :=
  s.tenant.name ++ "_" ++ s.moduleName.name

/-- The name of a table in the schema. -/
def table (s : Schema) (table : String) : String :=
  s.name ++ "." ++ table

/-- The place in a setting where the name of the tenant goes. -/
def placeholder : List Char :=
  ['\x7b', 't', 'e', 'n', 'a', 'n', 't', '\x7d']

/-- The characters with every placeholder replaced, from the left. -/
def substituteIn (value : List Char) : List Char → List Char
  | [] => []
  | c :: cs =>
    if placeholder.isPrefixOf (c :: cs) then value ++ substituteIn value (cs.drop 7)
    else c :: substituteIn value cs
termination_by cs => cs.length

/-- The setting with the name of the tenant in every place for it. -/
def substitute (s : Schema) (setting : String) : String :=
  String.ofList (substituteIn s.tenant.name.toList setting.toList)

end Schema

end ContextQuery
