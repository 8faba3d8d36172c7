import Lombok.Library.Run
import Mathlib

/-!
Contract: running the migrations of an app.

Owns `runAppMigrations` and `executeAppMigration`: the set of executed files is
read once, and each other file is run in a transaction of its own, with its row
of `__migrations__`. Calls overlap, statement by statement; a statement can
fail, and the answer to one can be lost with its connection.

The database is that of PostgreSQL at read committed. A transaction keeps its
changes to itself until it commits. The statements of one query text that are
outside a transaction block make a transaction of their own. An insert waits for
a transaction that has written the same key, and fails where the key is there.

Does not own: how the content of a file is rewritten and read; the statements
that it comes to are a parameter.
-/

namespace Lombok.Orm

open Lombok.Library

/-! ### Files and records -/

structure MigrationFile where
  filename : String
  content : String
deriving DecidableEq, Inhabited

/-- A row of `__migrations__`, by the columns that an insert sets. -/
structure MigrationRecord where
  filename : String
  version : String
  checksum : String
deriving DecidableEq, Inhabited

def codeUnits (character : Char) : List Nat :=
  let code := character.toNat
  if code < 0x10000 then [code]
  else [0xD800 + (code - 0x10000) / 0x400, 0xDC00 + (code - 0x10000) % 0x400]

/-- `ToInt32`. -/
def toInt32 (value : Int) : Int := value.bmod (2 ^ 32)

def calculateChecksum (content : String) : String :=
  let hash := (content.toList.flatMap codeUnits).foldl
    (fun hash code => toInt32 (toInt32 (hash * 32) - hash + code)) 0
  String.ofList (Nat.toDigits 16 hash.natAbs)

/-- The row of a file that has been run. -/
def MigrationFile.record (file : MigrationFile) : MigrationRecord where
  filename := file.filename
  version := String.ofList (file.filename.toList.takeWhile (· ≠ '_'))
  checksum := calculateChecksum file.content

/-! ### Transactions -/

/-- A statement of a migration: a change to the app's own data, control of the transaction, or a
change to `__migrations__`. -/
inductive Statement (ε : Type) where
  | change (effect : ε)
  | beginTransaction
  | commit
  | rollback
  | insertRecord (row : MigrationRecord)
  | deleteRecord (filename : String)
deriving DecidableEq

/-- A change that waits for its transaction to commit. -/
inductive Change (ε : Type) where
  | effect (effect : ε)
  | record (row : MigrationRecord)
  | unrecord (filename : String)
deriving DecidableEq

/-- What is committed in the schema of an app. -/
structure AppSchema (ε : Type) where
  effects : List ε := []
  records : List MigrationRecord := []
deriving DecidableEq

variable {ε : Type}

def AppSchema.apply (schema : AppSchema ε) : Change ε → AppSchema ε
  | .effect effect => { schema with effects := schema.effects ++ [effect] }
  | .record row => { schema with records := schema.records ++ [row] }
  | .unrecord filename =>
      { schema with records := schema.records.filter fun row => row.filename ≠ filename }

def AppSchema.applyAll (schema : AppSchema ε) (changes : List (Change ε)) : AppSchema ε :=
  changes.foldl AppSchema.apply schema

/-- The change writes the key of the file. -/
def Change.touches (filename : String) : Change ε → Bool
  | .effect _ => false
  | .record row => row.filename == filename
  | .unrecord removed => removed == filename

/-! ### Calls -/

/-- The statement a call is at, with the files that are left. -/
inductive MigrationStage (ε : Type) where
  | creating (files : List MigrationFile)
  | reading (files : List MigrationFile)
  | next (files : List MigrationFile)
  | running (file : MigrationFile) (statements : List (Statement ε)) (rest : List MigrationFile)
  | recording (file : MigrationFile) (rest : List MigrationFile)
  | committing (file : MigrationFile) (rest : List MigrationFile)
  | returned
  | threw
deriving DecidableEq

/-- A call of `runAppMigrations`: the files it read as executed, where it is, the changes of its
open transaction, and whether that is a transaction block. -/
structure MigrationCall (ε : Type) where
  stage : MigrationStage ε
  executedFilenames : List String := []
  pending : List (Change ε) := []
  inBlock : Bool := false
deriving DecidableEq

namespace MigrationCall

variable (call : MigrationCall ε)

/-- A call with a list of files; without files it is over. -/
def start (files : List MigrationFile) : MigrationCall ε :=
  { stage := if files.isEmpty then .returned else .creating files }

def isOver : Bool :=
  match call.stage with
  | .returned | .threw => true
  | _ => false

/-- The transaction is rolled back and the call throws. -/
def thrown : MigrationCall ε :=
  if call.isOver then call else { call with stage := .threw, pending := [], inBlock := false }

/-- The open transaction has written the key of the file. -/
def holds (filename : String) : Bool := call.pending.any (Change.touches filename)

def commitPending (schema : AppSchema ε) (stage : MigrationStage ε) :
    AppSchema ε × MigrationCall ε :=
  (schema.applyAll call.pending, { call with stage := stage, pending := [], inBlock := false })

/-- Insert a row of `__migrations__`, or wait, or throw. -/
def insertRow (schema : AppSchema ε) (held : String → Bool) (row : MigrationRecord)
    (stage : MigrationStage ε) : MigrationCall ε :=
  if held row.filename then call
  else if (schema.applyAll call.pending).records.any fun other =>
      other.filename == row.filename then call.thrown
  else { call with stage := stage, pending := call.pending ++ [.record row] }

def execute (schema : AppSchema ε) (held : String → Bool) (statement : Statement ε)
    (stage : MigrationStage ε) : AppSchema ε × MigrationCall ε :=
  match statement with
  | .change effect =>
      (schema, { call with stage := stage, pending := call.pending ++ [.effect effect] })
  | .beginTransaction => (schema, { call with stage := stage, inBlock := true })
  | .commit => call.commitPending schema stage
  | .rollback => (schema, { call with stage := stage, pending := [], inBlock := false })
  | .insertRecord row => (schema, call.insertRow schema held row stage)
  | .deleteRecord filename =>
      (schema, { call with stage := stage, pending := call.pending ++ [.unrecord filename] })

/-- The next statement of the call, where it does not fail. -/
def advance (read : String → List (Statement ε)) (schema : AppSchema ε) (held : String → Bool) :
    AppSchema ε × MigrationCall ε :=
  match call.stage with
  | .creating files => (schema, { call with stage := .reading files })
  | .reading files =>
      (schema,
        { call with
          stage := .next files
          executedFilenames := schema.records.map MigrationRecord.filename })
  | .next [] => (schema, { call with stage := .returned })
  | .next (file :: rest) =>
      if call.executedFilenames.contains file.filename then
        (schema, { call with stage := .next rest })
      else
        (schema,
          { call with
            stage := .running file (read file.content) rest
            pending := []
            inBlock := true })
  | .running file (statement :: statements) rest =>
      call.execute schema held statement (.running file statements rest)
  | .running file [] rest =>
      if call.inBlock then (schema, { call with stage := .recording file rest })
      else call.commitPending schema (.recording file rest)
  | .recording file rest =>
      let inserted := call.insertRow schema held file.record (.committing file rest)
      if call.inBlock then (schema, inserted)
      else inserted.commitPending schema inserted.stage
  | .committing _ rest => call.commitPending schema (.next rest)
  | .returned | .threw => (schema, call)

end MigrationCall

/-! ### Runs -/

structure MigrationState (ε : Type) where
  schema : AppSchema ε := {}
  calls : List (MigrationCall ε) := []
deriving DecidableEq

/-- How a statement goes: it is done, it fails, or it is done and the connection is lost. -/
inductive StatementOutcome where
  | done
  | fails
  | answerLost
deriving DecidableEq

inductive MigrationInput where
  | call (files : List MigrationFile)
  | step (index : Nat) (outcome : StatementOutcome)
deriving DecidableEq

/-- Another call than the one at the index has written the key of the file. -/
def MigrationState.heldElsewhere (state : MigrationState ε) (index : Nat) (filename : String) :
    Bool :=
  (state.calls.eraseIdx index).any (MigrationCall.holds · filename)

def migrationStep (read : String → List (Statement ε)) (state : MigrationState ε) :
    MigrationInput → MigrationState ε
  | .call files => { state with calls := state.calls ++ [.start files] }
  | .step index outcome =>
      match state.calls[index]? with
      | none => state
      | some call =>
          let advanced := call.advance read state.schema (state.heldElsewhere index)
          match outcome with
          | .done => { schema := advanced.1, calls := state.calls.set index advanced.2 }
          | .fails => { state with calls := state.calls.set index call.thrown }
          | .answerLost =>
              { schema := advanced.1, calls := state.calls.set index advanced.2.thrown }

end Lombok.Orm
