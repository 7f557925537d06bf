import SqliteAccess.ResultCode
import SqliteAccess.Value.Basic

/-
  The calls that this library makes on the database engine,
  and what the engine answers to each.

  The library numbers the handles: a call that may create a
  handle names the handle it would create, so no two handles
  of a session are equal.

  Key definitions include:
    * `DatabaseHandle`
    * `StatementHandle`
    * `BackupHandle`
    * `Binding`
    * `Call`
    * `Call.isEffect`
    * `NextStatement`
    * `Call.Answer`
    * `Event`
-/

namespace SqliteAccess

------------------------------------------------------------
-- Handles
------------------------------------------------------------

/- An open database inside the engine. -/
structure DatabaseHandle where
  number : Nat
  deriving DecidableEq

/- A compiled statement and the database it belongs to. -/
structure StatementHandle where
  number : Nat
  database : DatabaseHandle
  deriving DecidableEq

/- A running backup inside the engine. -/
structure BackupHandle where
  number : Nat
  deriving DecidableEq

------------------------------------------------------------
-- Calls
------------------------------------------------------------

/-
  What is bound to a parameter.  A text and a blob are given
  by their data, which is missing behind a null pointer, and
  a blob of zeros is given by its length.
-/
inductive Binding where
  | null
  | integer (n : Int64)
  | real (x : Double)
  | text (data : Option Bytes)
  | blob (data : Option Bytes)
  | zeroBlob (length : Nat)
  deriving DecidableEq

/-
  A call on the engine.  The calls of the first group change
  something: they start and stop the engine, and work on
  databases, on statements and on backups.  Those of the
  second group ask about databases, about statements, about
  the columns of the current row and about backups.  The
  question for the next statement of a database goes with
  those that are left on it.
-/
inductive Call where
  | startup
  | shutdown
  | openDatabase
      (path : Bytes)
      (flags : Int32)
      (db : DatabaseHandle)
  | close (db : DatabaseHandle)
  | closeLater (db : DatabaseHandle)
  | extendedCodes (db : DatabaseHandle) (on : Bool)
  | busyTimeout (db : DatabaseHandle) (milliseconds : Int)
  | configure
      (db : DatabaseHandle)
      (option : Int)
      (value : Int)
  | interrupt (db : DatabaseHandle)
  | prepare (sql : Bytes) (st : StatementHandle)
  | bind
      (st : StatementHandle)
      (index : Int)
      (payload : Binding)
  | clearBindings (st : StatementHandle)
  | step (st : StatementHandle)
  | reset (st : StatementHandle)
  | finalize (st : StatementHandle)
  | startBackup
      (destination : DatabaseHandle)
      (destinationSchema : Bytes)
      (source : DatabaseHandle)
      (sourceSchema : Bytes)
      (bk : BackupHandle)
  | stepBackup (bk : BackupHandle) (pages : Int)
  | finishBackup (bk : BackupHandle)
  | version
  | errorCode (db : DatabaseHandle)
  | extendedErrorCode (db : DatabaseHandle)
  | errorMessage (db : DatabaseHandle)
  | errorOffset (db : DatabaseHandle)
  | autocommit (db : DatabaseHandle)
  | transactionState
      (db : DatabaseHandle)
      (schema : Option Bytes)
  | readOnlySchema (db : DatabaseHandle) (schema : Bytes)
  | lastRowId (db : DatabaseHandle)
  | changes (db : DatabaseHandle)
  | totalChanges (db : DatabaseHandle)
  | nextStatement
      (db : DatabaseHandle)
      (left : List StatementHandle)
  | statementText (st : StatementHandle)
  | expandedText (st : StatementHandle)
  | readOnlyStatement (st : StatementHandle)
  | parameterCount (st : StatementHandle)
  | parameterIndex (st : StatementHandle) (name : Bytes)
  | parameterName (st : StatementHandle) (index : Int)
  | columnCount (st : StatementHandle)
  | columnName (st : StatementHandle) (index : Nat)
  | columnDeclaration (st : StatementHandle) (index : Nat)
  | columnType (st : StatementHandle) (index : Int)
  | columnInteger (st : StatementHandle) (index : Int)
  | columnReal (st : StatementHandle) (index : Int)
  | columnText (st : StatementHandle) (index : Int)
  | columnBlob (st : StatementHandle) (index : Int)
  | remainingPages (bk : BackupHandle)
  | pageCount (bk : BackupHandle)
  deriving DecidableEq

/- Whether a call is of the group that changes something. -/
def Call.isEffect : Call → Bool
  | startup => true
  | shutdown => true
  | openDatabase .. => true
  | close _ => true
  | closeLater _ => true
  | extendedCodes .. => true
  | busyTimeout .. => true
  | configure .. => true
  | interrupt _ => true
  | prepare .. => true
  | bind .. => true
  | clearBindings _ => true
  | step _ => true
  | reset _ => true
  | finalize _ => true
  | startBackup .. => true
  | stepBackup .. => true
  | finishBackup _ => true
  | _ => false

------------------------------------------------------------
-- Answers
------------------------------------------------------------

/-
  How opening a database ends: a code, and whether there is a
  handle.  A failed opening may leave one.
-/
structure OpenAnswer where
  code : ResultCode
  created : Bool
  deriving DecidableEq

/-
  How compiling a statement ends: a code, whether there is a
  statement, and where the text that follows it starts.
-/
structure PrepareAnswer where
  code : ResultCode
  created : Bool
  tail : Option Nat
  deriving DecidableEq

/-
  How setting an option ends: a code and the value that the
  option now has.
-/
structure ConfigureAnswer where
  code : ResultCode
  value : Bool
  deriving DecidableEq

/-
  The next statement of a database: any of those that are
  left, and none if and only if nothing is left.
-/
def NextStatement (left : List StatementHandle) : Type :=
  { next : Option StatementHandle //
    match next with
    | none => left = []
    | some st => st ∈ left }

instance (left : List StatementHandle) :
    DecidableEq (NextStatement left) :=
  inferInstanceAs (DecidableEq (Subtype _))

/-
  What the engine answers to a call.  Texts and blobs that
  may be missing are optional.
-/
@[reducible]
def Call.Answer : Call → Type
  | startup => ResultCode
  | shutdown => ResultCode
  | openDatabase .. => OpenAnswer
  | close _ => ResultCode
  | closeLater _ => Unit
  | extendedCodes .. => ResultCode
  | busyTimeout .. => ResultCode
  | configure .. => ConfigureAnswer
  | interrupt _ => Unit
  | prepare .. => PrepareAnswer
  | bind .. => ResultCode
  | clearBindings _ => ResultCode
  | step _ => ResultCode
  | reset _ => ResultCode
  | finalize _ => ResultCode
  | startBackup .. => Bool
  | stepBackup .. => ResultCode
  | finishBackup _ => ResultCode
  | version => Bytes
  | errorCode _ => ResultCode
  | extendedErrorCode _ => ResultCode
  | errorMessage _ => Bytes
  | errorOffset _ => Int
  | autocommit _ => Bool
  | transactionState .. => Int
  | readOnlySchema .. => Int
  | lastRowId _ => Int64
  | changes _ => Int
  | totalChanges _ => Int
  | nextStatement _ left => NextStatement left
  | statementText _ => Option Bytes
  | expandedText _ => Option Bytes
  | readOnlyStatement _ => Bool
  | parameterCount _ => Nat
  | parameterIndex .. => Nat
  | parameterName .. => Option Bytes
  | columnCount _ => Nat
  | columnName .. => Option Bytes
  | columnDeclaration .. => Option Bytes
  | columnType .. => Int
  | columnInteger .. => Int64
  | columnReal .. => Double
  | columnText .. => Option Bytes
  | columnBlob .. => Option Bytes
  | remainingPages _ => Int
  | pageCount _ => Int

------------------------------------------------------------
-- Events
------------------------------------------------------------

instance (c : Call) : DecidableEq c.Answer := by
  cases c <;> infer_instance

/- A call that was made, with its answer. -/
structure Event where
  call : Call
  answer : call.Answer
  deriving DecidableEq

end SqliteAccess
