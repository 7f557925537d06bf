import SqliteAccess.Backup.Copying
import SqliteAccess.Connection.Opening
import SqliteAccess.Statement.Row
import SqliteAccess.Transaction.Nested

/-
  The operations of a session.

  A caller holds connections, statements, rows, guards and
  backups in numbered slots.  A request asks something of one
  object; an operation names the objects by their slots.

  Key definitions include:
    * `Reply`
    * `LibraryRequest`
    * `LogRequest`
    * `ConnectionRequest`
    * `StatementRequest`
    * `RowRequest`
    * `TransactionRequest`
    * `SavepointRequest`
    * `BackupRequest`
    * `SerializedRequest`
    * `Operation`
-/

namespace SqliteAccess

------------------------------------------------------------
-- Replies
------------------------------------------------------------

/- What an operation returns. -/
inductive Reply where
  | nothing
  | flag (b : Bool)
  | optionalFlag (b : Option Bool)
  | number (n : Int)
  | optionalNumber (n : Option Int)
  | wide (n : Int)
  | text (t : Bytes)
  | storageClass (c : StorageClass)
  | stepped (r : StepResult)
  | value (v : Value)
  | values (l : List Value)
  | typed (t : HostType) (x : t.Carrier)
  | level (l : LogLevel)
  | library (started : Bool) (holders : Nat)
  | connection
      (isOpen : Bool)
      (path : Bytes)
      (statements backups : Nat)
  | options (o : ConnectionOptions)
  | owner (slot : Option Nat)
  | statement
      (sql : Bytes)
      (tailOffset : Nat)
      (hasTail finalized : Bool)
  | transaction (active : Bool) (type : TransactionType)
  | savepoint (active : Bool) (name : Bytes)
  | backup (finished complete : Bool)
  deriving DecidableEq

------------------------------------------------------------
-- Requests
------------------------------------------------------------

/- What can be asked of the library. -/
inductive LibraryRequest where
  | start
  | stop
  | state
  | version

/- What can be asked of the log. -/
inductive LogRequest where
  | write
      (level : LogLevel)
      (message : Bytes)
      (fields : List LogField)
  | setLevel (level : LogLevel)
  | level
  | select (logger : Option Logger)

/- A thing to do inside a transaction. -/
inductive TransactionItem where
  | execute (sql : Bytes)
  | raise (message : Bytes)
  | commit
  | rollback

/- What can be asked of a connection. -/
inductive ConnectionRequest where
  | close
  | execute (sql : Bytes)
  | executeBatch (sql : Bytes)
  | withTransaction
      (body : List TransactionItem)
      (returns : Bool)
  | isAutocommit
  | transactionState (schema : Bytes)
  | pragma (name : Bytes)
  | setPragma (name : Bytes) (v : Value)
  | setConfig (flag : ConfigFlag) (on : Bool)
  | getConfig (flag : ConfigFlag)
  | setBusyTimeout (milliseconds : Int)
  | interrupt
  | lastRowId
  | changes
  | totalChanges
  | tableExists (name : Bytes)
  | isReadOnly (schema : Bytes)
  | info
  | options
  | compileByHost (sql : Bytes)

/- What can be asked of a statement. -/
inductive StatementRequest where
  | bind (index : Int) (argument : Argument)
  | bindNamed (name : Bytes) (argument : Argument)
  | clearBindings
  | step
  | next
  | execute
  | reset
  | finalize
  | columnValue (index : Int)
  | columnAs (t : HostType) (index : Int)
  | columnType (index : Int)
  | columnIsNull (index : Int)
  | columnCount
  | columnName (index : Int)
  | columnDeclaration (index : Int)
  | countParameters
  | parameterIndex (name : Bytes)
  | parameterName (index : Int)
  | info
  | isReadOnly
  | expandedSql
  | owner

/- What can be asked of a row. -/
inductive RowRequest where
  | size
  | value (index : Int)
  | isNull (index : Int)
  | columnName (index : Int)
  | isCurrent
  | getAs (t : HostType) (index : Int)
  | values

/- What can be asked of a transaction guard. -/
inductive TransactionRequest where
  | commit
  | rollback
  | info

/- What can be asked of a savepoint guard. -/
inductive SavepointRequest where
  | release
  | rollback
  | info

/- What can be asked of a backup. -/
inductive BackupRequest where
  | step (pages : Int)
  | remaining
  | pageCount
  | finish
  | info

/- What can be asked of a serialized connection. -/
inductive SerializedRequest where
  | execute (sql : Bytes)
  | isOpen
  | interrupt
  | close

------------------------------------------------------------
-- Operations
------------------------------------------------------------

/-
  An operation of a session.  It creates an object in a slot,
  moves, destroys or overwrites one, or asks something of
  one.
-/
inductive Operation where
  | library (r : LibraryRequest)
  | log (r : LogRequest)
  | openConnection
      (c : Nat)
      (path : Bytes)
      (options : ConnectionOptions)
  | dropConnection (c : Nat)
  | connection (c : Nat) (r : ConnectionRequest)
  | copyAll (source destination : Nat)
  | prepare (c s : Nat) (sql : Bytes)
  | assignPrepared (c s : Nat) (sql : Bytes)
  | moveStatement (source target : Nat)
  | assignStatement (source target : Nat)
  | dropStatement (s : Nat)
  | fetch (s r : Nat)
  | statement (s : Nat) (r : StatementRequest)
  | row (r : Nat) (q : RowRequest)
  | begin (c t : Nat) (type : TransactionType)
  | moveTransaction (source target : Nat)
  | assignTransaction (source target : Nat)
  | dropTransaction (t : Nat)
  | transaction (t : Nat) (r : TransactionRequest)
  | savepoint (t p : Nat) (name : Bytes)
  | savepointOn (c p : Nat) (name : Bytes)
  | moveSavepoint (source target : Nat)
  | assignSavepoint (source target : Nat)
  | dropSavepoint (p : Nat)
  | askSavepoint (p : Nat) (r : SavepointRequest)
  | startBackup
      (b source destination : Nat)
      (sourceSchema destinationSchema : Bytes)
  | dropBackup (b : Nat)
  | backup (b : Nat) (r : BackupRequest)
  | serialize (z : Nat) (c : Option Nat)
  | prepareSerialized (z s : Nat) (sql : Bytes)
  | dropSerialized (z : Nat)
  | serialized (z : Nat) (r : SerializedRequest)

end SqliteAccess
