import Tabular.Engine
import Tabular.Report
import Tabular.Text.Cluster
import Tabular.Text.Quoted

/-!
# The command line

What is asked for on the command line, and what is answered: texts for standard output and standard
error, and an exit code.
-/

namespace Tabular.CommandLine

/-! ## Arguments -/

/-- What is asked for. -/
inductive Invocation where
  | query (dataDir : String) (batchSize : Nat) (sql : String)
  | explain (dataDir sql : String)
  | tables (dataDir : String)
  | repl (dataDir : String)
  deriving DecidableEq

/-- The options of the command line. -/
inductive OptionName where
  | dataDir
  | batchSize
  deriving DecidableEq

def OptionName.short : OptionName → String
  | dataDir => "-d"
  | batchSize => "-b"

def OptionName.long : OptionName → String
  | dataDir => "--data-dir"
  | batchSize => "--batch-size"

/-- What follows a text at the start of another. -/
def after? (start text : String) : Option String :=
  if start.toList.isPrefixOf text.toList then
    some (String.ofList (text.toList.drop start.length))
  else none

/-- An option within an argument: its name, and its value if that is there too. -/
def readOption (names : List OptionName) (argument : String) :
    Option (OptionName × Option String) :=
  names.findSome? fun name =>
    if argument = name.short ∨ argument = name.long then some (name, none)
    else match after? (name.long ++ "=") argument with
      | some value => some (name, some value)
      | none => (after? name.short argument).map fun value =>
          (name, some ((after? "=" value).getD value))

/-- Whether an argument stands for itself, and is no option. -/
def isPlain (argument : String) : Bool := !argument.startsWith "-" || argument = "-"

/-- Arguments that were told apart. -/
structure Arguments where
  options : List (OptionName × String) := []
  plain : List String := []

/-- Adds an option, which may stand only once. -/
def Arguments.addOption (a : Arguments) (name : OptionName) (value : String) : Option Arguments :=
  if (a.options.lookup name).isSome then none
  else some { a with options := (name, value) :: a.options }

/-- Tells arguments apart. After two dashes all of them are plain. -/
def readArguments (names : List OptionName) (a : Arguments) : List String → Option Arguments
  | [] => some a
  | "--" :: rest => some { a with plain := a.plain ++ rest }
  | argument :: rest =>
    if isPlain argument then
      readArguments names { a with plain := a.plain ++ [argument] } rest
    else match readOption names argument, rest with
      | none, _ => none
      | some (name, some value), rest => do readArguments names (← a.addOption name value) rest
      | some (_, none), [] => none
      | some (name, none), value :: rest =>
        if isPlain value then do readArguments names (← a.addOption name value) rest
        else none

/-- The greatest number of rows of a batch, as it is written. -/
def readBatchSize (text : String) : Option Nat :=
  let digits := (after? "+" text).getD text
  match digits.toNat? with
  | some n => if digits.all Char.isDigit && n < UInt64.size then some n else none
  | none => none

/-- The directory with the tables. -/
def Arguments.dataDir (a : Arguments) : String :=
  (a.options.lookup .dataDir).getD ({} : Config).dataDir

/-- The greatest number of rows of a batch. -/
def Arguments.batchSize (a : Arguments) : Option Nat :=
  match a.options.lookup .batchSize with
  | some text => readBatchSize text
  | none => some ({} : Config).batchSize

/-- What arguments ask for. -/
def readInvocation : List String → Option Invocation
  | "query" :: rest => do
    let a ← readArguments [.dataDir, .batchSize] {} rest
    match a.plain with
    | [sql] => return .query a.dataDir (← a.batchSize) sql
    | _ => none
  | "explain" :: rest => do
    let a ← readArguments [.dataDir] {} rest
    match a.plain with
    | [sql] => return .explain a.dataDir sql
    | _ => none
  | "tables" :: rest => do
    let a ← readArguments [.dataDir] {} rest
    if a.plain.isEmpty then return .tables a.dataDir else none
  | "repl" :: rest => do
    let a ← readArguments [.dataDir] {} rest
    if a.plain.isEmpty then return .repl a.dataDir else none
  | _ => none

namespace Invocation

/-- The settings of an invocation. -/
def config : Invocation → Config
  | query dataDir batchSize _ => { dataDir, batchSize }
  | explain dataDir _ => { dataDir }
  | tables dataDir => { dataDir }
  | repl dataDir => { dataDir }

end Invocation

/-! ## Failures -/

/-- Why an invocation failed: an error and its causes, the nearest first. -/
structure Failure where
  message : String
  causes : List String := []
  /-- Whether the program was stopped by a sum that overflows. -/
  stopped : Bool := false

/-- A text whose lines after the first begin with blanks. -/
def indented (blanks : Nat) (text : String) : String :=
  String.ofList (text.toList.flatMap fun c =>
    if c = '\n' then c :: List.replicate blanks ' ' else [c])

/-- The causes below an error. Several are numbered. -/
def causesText : List String → String
  | [] => ""
  | [cause] => "\n\nCaused by:\n    " ++ indented 4 cause
  | causes =>
    "\n\nCaused by:" ++ String.join (causes.zipIdx.map fun c =>
      let number := toString c.2
      "\n" ++ String.ofList (List.replicate (5 - number.length) ' ') ++ number ++ ": " ++
        indented 7 c.1)

/-- What is said of a failure. -/
def Failure.text (f : Failure) : String :=
  if f.stopped then f.message ++ "\n" else "Error: " ++ f.message ++ causesText f.causes ++ "\n"

/-- The exit code of a failure. -/
def Failure.code (f : Failure) : UInt32 := if f.stopped then 101 else 1

/-- What becomes of an error in opening the tables of an invocation. -/
def Failure.ofOpening (config : Config) : OpenError → Failure
  | .overflow => { message := OpenError.overflow.message, stopped := true }
  | e =>
    { message := "Failed to open data directory " ++ Text.quoted config.dataDir
      causes := e.message :: e.causes }

/-- Opens the tables of an invocation. -/
def openTables (config : Config) (directory : Except DirectoryFault Directory) :
    Except Failure (Engine FileStore) :=
  (Engine.openDirectory config directory).mapError (.ofOpening config)

/-! ## Answers -/

/-- The explanation of a SQL text. -/
def explanation (e : Engine FileStore) (sql : String) : Except Failure String :=
  (e.explain sql).mapError fun fault => { message := fault.message, causes := fault.causes }

/-- The answer to a SQL text: a report of its rows, or the explanation it asks for. -/
def statement (e : Engine FileStore) (sql : String) : Except Failure String := do
  match ← (Command.ofSql sql).mapError fun fault => { message := fault.message } with
  | .explain _ => explanation e sql
  | .select s =>
    let bound ← (e.bind s).mapError fun fault => { message := fault.message }
    let plan ← (Engine.compile bound).mapError fun fault => { message := fault.message }
    let batches ← (e.runPlan plan).mapError fun fault =>
      { message := fault.message, causes := fault.causes }
    return Batch.report plan.schema batches

/-- A table and its columns. -/
def tableLine (t : TableDescriptor) : String :=
  let columns := t.columns.map fun c => c.2.name ++ " " ++ c.2.type.text
  t.name ++ " (" ++ ", ".intercalate columns ++ ")\n"

/-- The tables, sorted by their names. -/
def tableList (e : Engine FileStore) : String :=
  String.join (e.catalog.sortedDescriptors.map tableLine)

/-! ## Conversations -/

/-- The answer to one line, and whether it ends the conversation. -/
structure Reply where
  out : String := ""
  err : String := ""
  ended : Bool := false

/-- What is said before the first line. -/
def greeting (e : Engine FileStore) : String :=
  s!"{e.catalog.tableCount} table(s) loaded\n" ++ "TinyQL REPL\n" ++
    "Enter a SELECT or EXPLAIN statement. \\d lists tables, \\q quits.\n\n"

/-- What is said at the end. -/
def farewell : String := "Goodbye\n"

/-- The lines that end a conversation. -/
def closings : List String := ["\\q", "quit", "exit"]

/-- A text without semicolons at its end. -/
def withoutSemicolons (text : String) : String :=
  String.ofList (Text.dropEndWhile (· == ';') text.toList)

/-- Answers a line. Its errors are said, and end nothing. -/
def respond (e : Engine FileStore) (line : String) : Reply :=
  let line := Text.trim (Text.typed line)
  if line = "" then {}
  else if closings.contains line then { ended := true }
  else if line = "\\d" then { out := tableList e }
  else match statement e (withoutSemicolons line) with
    | .ok out => { out }
    | .error f => { err := "Error: " ++ f.message ++ "\n" }

/-- Answers lines up to the one that ends the conversation. -/
def respondAll (e : Engine FileStore) : List String → Reply
  | [] => {}
  | line :: lines =>
    let first := respond e line
    if first.ended then first
    else
      let more := respondAll e lines
      { out := first.out ++ more.out, err := first.err ++ more.err }

/-! ## Whole runs -/

/-- What a run of the program leaves. -/
structure Outcome where
  code : UInt32
  out : String
  err : String

/-- What an invocation gives, from the directory it names and the lines of the input. -/
def Invocation.output (i : Invocation) (directory : Except DirectoryFault Directory)
    (input : List String) : Except Failure Reply := do
  let e ← openTables i.config directory
  match i with
  | query _ _ sql => return { out := ← statement e sql }
  | explain _ sql => return { out := ← explanation e sql }
  | tables _ => return { out := tableList e }
  | repl _ =>
    let reply := respondAll e input
    return { out := greeting e ++ reply.out ++ farewell, err := reply.err }

/-- Runs an invocation. -/
def Invocation.run (i : Invocation) (directory : Except DirectoryFault Directory)
    (input : List String) : Outcome :=
  match i.output directory input with
  | .ok reply => ⟨0, reply.out, reply.err⟩
  | .error f => ⟨f.code, "", f.text⟩

end Tabular.CommandLine
