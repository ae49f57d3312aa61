import Tabular.CommandLine

/-!
# The program

Reads the arguments, the files and the lines that are typed in, and prints the answers.
-/

open Tabular Tabular.CommandLine

namespace Tabular.Program

/-- What is said when the arguments are not understood. -/
def usage : String :=
  "usage: query [-d DIR] [-b ROWS] SQL | explain [-d DIR] SQL | tables [-d DIR] | repl [-d DIR]"

/-- What the system reports of an error. -/
def systemFault : IO.Error → SystemFault
  | .alreadyExists _ code text | .invalidArgument _ code text | .permissionDenied _ code text
  | .resourceExhausted _ code text | .inappropriateType _ code text | .noSuchThing _ code text
  | .interrupted _ code text | .noFileOrDirectory _ code text | .otherError code text
  | .resourceBusy code text | .resourceVanished code text | .unsupportedOperation code text
  | .hardwareFault code text | .unsatisfiedConstraints code text | .illegalOperation code text
  | .protocolError code text | .timeExpired code text => ⟨s!"{text} (os error {code})"⟩
  | e => ⟨toString e⟩

/-- Reads a file on, up to its end or to the fault that ends the reading. -/
partial def readOn (file : IO.FS.Handle) (before : ByteArray) : IO Entry := do
  let more ← try Except.ok <$> file.read 65536 catch e => pure (.error (systemFault e))
  match more with
  | .error fault => return .opened before.toList (some fault)
  | .ok bytes =>
    if bytes.isEmpty then return .file before.toList else readOn file (before ++ bytes)

/-- Reads what stands under a name of a directory. -/
def readEntry (entry : IO.FS.DirEntry) : IO Entry := do
  try readOn (← IO.FS.Handle.mk entry.path .read) .empty
  catch e => return .refused (systemFault e)

/-- Reads the tables of a directory. Other files are not looked at. -/
def loadDirectory (path : String) : IO (Except DirectoryFault Directory) := do
  try
    let place ← IO.FS.realPath path
    if !(← place.pathExists) then return .error .missing
    if !(← place.isDir) then return .error .notDirectory
    let mut found : Directory := {}
    for entry in ← place.readDir do
      if (FileStore.tableName? entry.fileName).isSome then
        found := found.put entry.fileName (← readEntry entry)
    return .ok found
  catch e => return .error (.reported (systemFault e))

/-- Prints a reply. -/
def say (reply : Reply) : IO Unit := do
  IO.print reply.out
  IO.eprint reply.err

/-- Answers the lines of an input until one ends the conversation. -/
partial def converse (e : Engine FileStore) (input : IO.FS.Stream) : IO Unit := do
  let line ← input.getLine
  if line.isEmpty then return
  let reply := respond e line
  say reply
  if !reply.ended then converse e input

/-- Runs an invocation. A conversation is answered line by line. -/
def run (i : Invocation) : IO UInt32 := do
  let directory ← loadDirectory i.config.dataDir
  match i, openTables i.config directory with
  | .repl _, .ok e =>
    IO.print (greeting e)
    converse e (← IO.getStdin)
    IO.print farewell
    return 0
  | i, _ =>
    let outcome := i.run directory []
    say { out := outcome.out, err := outcome.err }
    return outcome.code

end Tabular.Program

def main (arguments : List String) : IO UInt32 := do
  match readInvocation arguments with
  | some i => Tabular.Program.run i
  | none =>
    IO.eprintln Tabular.Program.usage
    return 2
