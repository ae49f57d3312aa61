import Tabular.Binding
import Tabular.Pipeline
import Tabular.Sql.Command
import Tabular.Storage.Discovery

/-!
# Engines

Answers SQL texts: a catalog, a store and settings. A text is read, bound, planned and run, and the
first of these that fails gives the error.
-/

namespace Tabular

/-- What can go wrong with a SQL text. -/
inductive QueryError where
  | parse (e : ParseError)
  | bind (e : BindError)
  | plan (e : PlanError)
  | exec (e : ExecError)
  | opening (e : OpenError)
  deriving DecidableEq

/-- The wording of a query error. -/
def QueryError.message : QueryError → String
  | parse e => "parse error: " ++ e.message
  | bind e => "bind error: " ++ e.message
  | plan e => "plan error: " ++ e.message
  | exec e => "execution error: " ++ e.message
  | opening e => e.message

/-! ## Causes -/

/-- What the system said before a storage error. -/
def StorageError.causes : StorageError → List String
  | io _ fault => [fault.text]
  | _ => []

/-- The causes of an error of a running query, the nearest first. -/
def ExecError.causes : ExecError → List String
  | storage e => e.causes
  | _ => []

/-- The causes of an error in opening tables, the nearest first. -/
def OpenError.causes : OpenError → List String
  | directory fault => [fault.text]
  | storage e => e.causes
  | _ => []

/-- The causes of a query error, the nearest first. -/
def QueryError.causes : QueryError → List String
  | parse e => [e.message]
  | bind e => [e.message]
  | plan e => [e.message]
  | exec e => e.message :: e.causes
  | opening e => e.causes

/-! ## Engines -/

/-- The statement of a command. -/
def Command.statement : Command → Select
  | select s => s
  | explain s => s

/-- What a query needs: the tables that are known, the store that holds them, and settings. -/
structure Engine (S : Type) where
  catalog : Catalog
  store : S
  config : Config

/-- A line without the carriage return at its end. -/
def withoutReturn (line : List Char) : List Char :=
  if line.getLast? = some '\r' then line.dropLast else line

/-- The lines of a text. A line feed ends a line, together with a carriage return before it; after
the last one there may be another line. -/
def textLines (text : String) : List String :=
  let parts := text.toList.splitOn '\n'
  let last := parts.getLast?.filter fun line => !line.isEmpty
  (parts.dropLast.map withoutReturn ++ last.toList).map String.ofList

/-- The batch that gives an explanation, one line to a row. -/
def explanationBatch (text : String) : Batch where
  columns := [⟨"plan", ⟨.sql .string, (textLines text).map some⟩⟩]
  rowCount := (textLines text).length
  aligned := by simp [Column.length]

namespace Engine

variable {S κ : Type}

/-- An engine over tables, whose settings must be valid. -/
def create (catalog : Catalog) (store : S) (config : Config) : Except OpenError (Engine S) :=
  match config.validate with
  | .error fault => .error (.config fault)
  | .ok () => .ok ⟨catalog, store, config⟩

/-- An engine over the files of a directory. -/
def openDirectory (config : Config) (directory : Except DirectoryFault Directory) :
    Except OpenError (Engine FileStore) := do
  let (catalog, store) ← FileStore.discover config directory
  create catalog store config

/-- Binds a statement. -/
def bind (e : Engine S) (s : Select) : Except BindError BoundSelect :=
  Binding.bindSelect e.catalog s

/-- Plans a bound statement. -/
def compile (s : BoundSelect) : Except PlanError PhysicalPlan := do
  let plan ← s.plan
  plan.toPhysical

/-- The plan of a statement that is to be run. -/
def planSelect (e : Engine S) (s : Select) : Except QueryError PhysicalPlan := do
  let bound ← (e.bind s).mapError .bind
  (compile bound).mapError .plan

/-- The plan of a SQL text that is to be run. -/
def prepare (e : Engine S) (sql : String) : Except QueryError PhysicalPlan := do
  let s ← (Select.ofSql sql).mapError .parse
  e.planSelect s

/-- The text of the logical and the physical plan of a statement. -/
def explainSelect (e : Engine S) (s : Select) : Except QueryError String := do
  let bound ← (e.bind s).mapError .bind
  let logical ← bound.plan.mapError .plan
  let physical ← logical.toPhysical.mapError .plan
  return "Logical plan:\n" ++ logical.text ++ "Physical plan:\n" ++ physical.text

/-- The text of the plans of a SQL text, whether it asks for them or not. -/
def explain (e : Engine S) (sql : String) : Except QueryError String := do
  let command ← (Command.ofSql sql).mapError .parse
  e.explainSelect command.statement

/-- Begins to run a plan. -/
def execute [Storage S κ] (e : Engine S) (p : PhysicalPlan) : BatchStream κ := p.start e.store

/-- All batches that a plan gives. -/
def runPlan [Storage S κ] (e : Engine S) (p : PhysicalPlan) : Except ExecError (List Batch) :=
  (e.execute p).collect (execFeed e.store)

/-- Answers a SQL text. An explanation is a batch of its lines. -/
def run [Storage S κ] (e : Engine S) (sql : String) : Except QueryError (List Batch) := do
  match ← (Command.ofSql sql).mapError .parse with
  | .select s =>
    let plan ← e.planSelect s
    (e.runPlan plan).mapError .exec
  | .explain s =>
    let text ← e.explainSelect s
    return [explanationBatch text]

end Engine

end Tabular
