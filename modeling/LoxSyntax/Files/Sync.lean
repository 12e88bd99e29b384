import LoxSyntax.Files.Store

/-! # Keeping a generated file in sync

The writer is written once against the two file operations it calls (`FileOps`):
creating or truncating a file with bytes, and reading a file as text. The program runs
it on the system's files; the theory runs it on a store (`Store.ops`), whose state the
operations thread through.

Writing a generated source replaces the file's bytes with the source's UTF-8 bytes. A
file is up to date when it reads as exactly the source; a missing file is out of date,
and any other failure to read it is an error naming the path. Syncing writes the
source, or in check mode only compares; a failed check is the only outcome that is not
a success.
-/

namespace LoxSyntax.Files

open LoxSyntax.NodeModel

/-- What a sync found or did. -/
inductive SyncOutcome where
  | written
  | upToDate
  | outOfDate
deriving DecidableEq, Repr

/-- The name of an outcome. -/
def SyncOutcome.name : SyncOutcome → String
  | .written => "Written"
  | .upToDate => "UpToDate"
  | .outOfDate => "OutOfDate"

/-- Every outcome but a failed check is a success. -/
def SyncOutcome.isSuccess (o : SyncOutcome) : Bool := o != .outOfDate

/-- The file operations the writer calls, in the monad `m`. -/
structure FileOps (m : Type → Type) where
  /-- Creates or truncates the file at a path and writes the bytes to it. -/
  create : String → ByteArray → m (Except IoFailure Unit)
  /-- Reads the file at a path as UTF-8 text. -/
  readToString : String → m (Except IoFailure String)

section Writer

variable {m : Type → Type} [Monad m] (ops : FileOps m)

/-- Writes `source` to the file at `path`. -/
def writeGenerated (path source : String) : m (Except GenerateError Unit) := do
  let created ← ops.create path source.toUTF8
  pure (created.mapError (.io path))

/-- What reading the file at `path` says of whether it holds `source`: a missing file
does not, and any other failure is an error naming the path. -/
def upToDateOfRead (path source : String) : Except IoFailure String → Except GenerateError Bool
  | .ok text => .ok (text == source)
  | .error .notFound => .ok false
  | .error failure => .error (.io path failure)

/-- Whether the file at `path` holds exactly `source`. -/
def isUpToDate (path source : String) : m (Except GenerateError Bool) := do
  let read ← ops.readToString path
  pure (upToDateOfRead path source read)

/-- Writes `source` to `path`, or with `check` only compares them. -/
def syncGenerated (path source : String) (check : Bool) : m (Except GenerateError SyncOutcome) :=
  if check then do
    let same ← isUpToDate ops path source
    pure (same.map fun same => if same then .upToDate else .outOfDate)
  else do
    let written ← writeGenerated ops path source
    pure (written.map fun () => .written)

end Writer

/-- A call of the writer. -/
inductive Call where
  | write (path source : String)
  | isUpToDate (path source : String)
  | sync (path source : String) (check : Bool)

/-- What a call answers when it succeeds. -/
inductive Reply where
  | written
  | upToDate (same : Bool)
  | synced (outcome : SyncOutcome)

/-- Makes a call with the operations `ops`. -/
def Call.run {m : Type → Type} [Monad m] (ops : FileOps m) : Call → m (Except GenerateError Reply)
  | .write path source => do
    let written ← writeGenerated ops path source
    pure (written.map fun () => .written)
  | .isUpToDate path source => do
    let same ← Files.isUpToDate ops path source
    pure (same.map .upToDate)
  | .sync path source check => do
    let outcome ← syncGenerated ops path source check
    pure (outcome.map .synced)

namespace Store

/-- The operations on a store: a write that fails leaves the store as it was, and a read
leaves it alone. -/
def ops : FileOps (StateM Store) where
  create path bytes := modifyGet fun s =>
    match s.write path bytes with
    | .ok s' => (.ok (), s')
    | .error failure => (.error failure, s)
  readToString path := do
    let s ← get
    pure (s.readToString path)

/-- Makes calls in order: the store after them, and the answer of each. -/
def session (s : Store) : List Call → Store × List (Except GenerateError Reply)
  | [] => (s, [])
  | c :: rest =>
    let (reply, s') := (c.run Store.ops).run s
    let later := s'.session rest
    (later.1, reply :: later.2)

end Store

end LoxSyntax.Files
