import Tabular.Config
import Tabular.Delimited.Rows

/-!
# Tables in files

Tables that are delimited files of a directory. A read holds its file from when it begins, so that
removing the name does not end it; the bytes are fetched in blocks as they are needed. What stands
under a name may be something that cannot be opened, or not be read to its end.
-/

namespace Tabular

/-! ## Directories -/

/-- What stands under a name of a directory. -/
inductive Entry where
  /-- It is opened: its bytes, and the fault that comes after them when they are read, if one does. -/
  | opened (bytes : List UInt8) (fault : Option SystemFault)
  /-- It cannot be opened. -/
  | refused (fault : SystemFault)
  deriving DecidableEq

namespace Entry

/-- A file that can be read to its end. -/
def file (bytes : List UInt8) : Entry := .opened bytes none

def bytes : Entry → List UInt8
  | .opened bytes _ => bytes
  | .refused _ => []

/-- The fault that comes after the bytes. -/
def fault? : Entry → Option SystemFault
  | .opened _ fault => fault
  | .refused _ => none

/-- Opens what stands under a name, to be read from its start. -/
def reader : Entry → Except SystemFault Delimited.Reader
  | .opened bytes fault => .ok { bytes, fault }
  | .refused fault => .error fault

end Entry

/-- A directory: names of entries, and every entry that ever had a name. -/
structure Directory where
  names : List (String × Nat) := []
  entries : List Entry := []

namespace Directory

def file? (d : Directory) (name : String) : Option Nat := d.names.lookup name

def entry (d : Directory) (file : Nat) : Entry := (d.entries[file]?).getD (.refused .missing)

def bytes (d : Directory) (file : Nat) : List UInt8 := (d.entry file).bytes

/-- What is met when the file of a name is opened. -/
def contents (d : Directory) (name : String) : Entry :=
  ((d.file? name).map d.entry).getD (.refused .missing)

/-- Puts an entry under a name. A name that is taken keeps its place, where the entry is replaced. -/
def put (d : Directory) (name : String) (entry : Entry) : Directory :=
  match d.file? name with
  | some file => { d with entries := d.entries.set file entry }
  | none => ⟨(name, d.entries.length) :: d.names, d.entries ++ [entry]⟩

/-- Writes a file. -/
def write (d : Directory) (name : String) (bytes : List UInt8) : Directory := d.put name (.file bytes)

/-- Removes a name. -/
def remove (d : Directory) (name : String) : Directory :=
  { d with names := d.names.filter (·.1 != name) }

end Directory

/-- The path of a file in a directory. -/
def joinPath (directory name : String) : String :=
  if directory = "" ∨ directory.endsWith "/" then directory ++ name
  else directory ++ "/" ++ name

/-- What stands before and after the last point of a file name, if neither the point begins the
name nor it has none. -/
def splitExtension (name : String) : Option (String × String) :=
  let reversed := name.toList.reverse
  match reversed.dropWhile (· != '.') with
  | [] => none
  | _ :: before =>
    if before.isEmpty then none
    else some
      (String.ofList before.reverse, String.ofList (reversed.takeWhile (· != '.')).reverse)

/-! ## Reads -/

/-- A table in a file. -/
structure FileTable where
  id : TableId
  /-- The path in messages. -/
  path : String
  /-- The name in the directory. -/
  name : String
  columns : List ColumnDef

/-- A read of a file: the bytes fetched and not read yet are those of the reader, and `fetched` is
the number of bytes fetched. -/
structure FileCursor where
  columns : List ColumnDef
  file : Nat
  fetched : Nat := 0
  reader : Delimited.Reader := { bytes := [] }
  ended : Bool := false

/-- Tables in the files of a directory, the latest first. -/
structure FileStore where
  config : Config
  directory : Option Directory
  tables : List FileTable := []

namespace FileStore

/-- The number of bytes fetched from a file at once. -/
def blockSize : Nat := 8192

def format (s : FileStore) : Delimited.Format := ⟨s.config.delimiter, s.config.hasHeader⟩

/-- The bytes of a file that a read holds. -/
def fileBytes (s : FileStore) (file : Nat) : List UInt8 :=
  (s.directory.map (·.bytes file)).getD []

/-- The fault after the bytes of a file that a read holds. -/
def fileFault? (s : FileStore) (file : Nat) : Option SystemFault :=
  s.directory.bind fun d => (d.entry file).fault?

/-- Puts a table under its number. -/
def register (s : FileStore) (t : FileTable) : FileStore := { s with tables := t :: s.tables }

/-- Opens the file of a name, to be held by a read. -/
def openFile (s : FileStore) (name : String) : Except SystemFault Nat :=
  match s.directory with
  | none => .error .missing
  | some d =>
    match d.file? name with
    | none => .error .missing
    | some file => (d.entry file).reader.map fun _ => file

def read (s : FileStore) (id : TableId) : Except StorageError FileCursor :=
  match s.tables.find? (·.id == id) with
  | none => .error (.tableNotFound id)
  | some t =>
    match s.openFile t.name with
    | .error fault => .error (.io t.path fault)
    | .ok file => .ok { columns := t.columns, file }

/-- The reader of a read that has all bytes before it that it has not read. -/
def ahead (s : FileStore) (c : FileCursor) : Delimited.Reader :=
  { c.reader with
    bytes := c.reader.bytes ++ (s.fileBytes c.file).drop c.fetched
    fault := s.fileFault? c.file }

/-- The number of bytes fetched by the time `needed` more of `left` have been, in whole blocks. -/
def fetchCount (left needed : Nat) : Nat :=
  min left ((needed + blockSize - 1) / blockSize * blockSize)

/-- The read after a stretch over all bytes to come, of which `left` were not fetched before. Blocks
that the stretch did not need stay in the file. -/
def settle (c : FileCursor) (left : Nat) (s : Delimited.Stretch) : FileCursor :=
  let held := c.reader.bytes.length
  let used := held + left - s.reader.bytes.length
  let more := fetchCount left (used - held)
  { c with
    fetched := c.fetched + more
    reader := { s.reader with bytes := s.reader.bytes.take (held + more - used) }
    ended := s.ended }

/-- Answers with the next rows, as many as a batch may have. The columns of the batch are built with
room for so many rows from the start, and finding that room is taken never to fail. -/
def poll (s : FileStore) (c : FileCursor) : Except StorageError (Option Batch) × FileCursor :=
  if c.ended then (.ok none, c)
  else
    let unread := (s.fileBytes c.file).length - c.fetched
    let stretch := Delimited.takeRows s.format c.columns s.config.batchSize (s.ahead c)
    (stretch.answer c.columns, settle c unread stretch)

/-- The bytes a read still has before it. -/
def remaining (s : FileStore) (c : FileCursor) : Nat :=
  if c.ended then 0 else c.reader.bytes.length + ((s.fileBytes c.file).length - c.fetched)

theorem remaining_settle_le (s : FileStore) (c : FileCursor) (stretch : Delimited.Stretch)
    (h : stretch.reader.bytes.length ≤
      c.reader.bytes.length + ((s.fileBytes c.file).length - c.fetched)) :
    s.remaining (settle c ((s.fileBytes c.file).length - c.fetched) stretch) ≤
      stretch.reader.bytes.length := by
  unfold remaining
  split
  · exact Nat.zero_le _
  · simp only [settle, fetchCount, blockSize, List.length_take]
    omega

theorem remaining_poll_lt {s : FileStore} {c next : FileCursor} {b : Batch}
    (h : s.poll c = (.ok (some b), next)) : s.remaining next < s.remaining c := by
  unfold poll at h
  split at h
  · simp at h
  · rename_i hc
    simp only [Prod.mk.injEq] at h
    obtain ⟨hanswer, rfl⟩ := h
    have hlen : (s.ahead c).bytes.length =
        c.reader.bytes.length + ((s.fileBytes c.file).length - c.fetched) := by
      simp [ahead]
    generalize hs : Delimited.takeRows s.format c.columns s.config.batchSize (s.ahead c) = stretch
      at hanswer ⊢
    have hrows : stretch.records ≠ [] := by
      intro hempty
      unfold Delimited.Stretch.answer at hanswer
      split at hanswer <;> simp [hempty] at hanswer
    have hlt : stretch.reader.bytes.length < (s.ahead c).bytes.length := by
      rw [← hs] at hrows ⊢
      exact Delimited.length_takeRows_lt hrows
    have hle := remaining_settle_le s c stretch (by omega)
    have hc' : s.remaining c = (s.ahead c).bytes.length := by
      simp [remaining, hc, hlen]
    omega

end FileStore

instance : Storage FileStore FileCursor where
  openRead := FileStore.read
  feed s := ⟨s.poll, s.remaining, FileStore.remaining_poll_lt⟩

end Tabular
