import SqliteAccess.Operation.Basic

/-
  How requests to single objects are carried out.

  Key definitions include:
    * `LibraryRequest.perform`
    * `LogRequest.perform`
    * `ConnectionRequest.perform`
    * `StatementRequest.perform`
    * `RowRequest.perform`
    * `TransactionRequest.perform`
    * `SavepointRequest.perform`
    * `BackupRequest.perform`
    * `SerializedRequest.perform`
-/

namespace SqliteAccess

variable {E : Engine} {α : Type}

open Quiet Attempt

------------------------------------------------------------
-- Replies
------------------------------------------------------------

/- Do something that returns nothing. -/
def Reply.after (x : Attempt E Unit) : Attempt E Reply := do
  x
  return .nothing

/- Turn what an attempt returns into a reply. -/
def Reply.of
    (make : α → Reply)
    (x : Attempt E α) : Attempt E Reply := do
  return make (← x)

------------------------------------------------------------
-- Library and Log
------------------------------------------------------------

/- Carry out a request to the library. -/
def LibraryRequest.perform :
    LibraryRequest → Attempt E Reply
  | start => Reply.after Library.start
  | stop => Reply.of .flag (lift Library.stop)
  | state => do
      let library ← lift (read (·.library))
      return .library library.started library.holders
  | version => Reply.of .text (lift (invoke .version))

/- Carry out a request to the log. -/
def LogRequest.perform : LogRequest → Attempt E Reply
  | write l message fields =>
      Reply.after <| lift <| relog fun log =>
        log.write l message fields
  | setLevel l =>
      Reply.after <| lift <| relog (·.withLevel l)
  | level => do
      lift (relog (·.ready))
      return .level (← lift fun s => (s.log.level, s))
  | select logger =>
      Reply.after <| lift <| relog (·.withLogger logger)

------------------------------------------------------------
-- Connections
------------------------------------------------------------

/-
  Do the things of a transaction body one after the other.
  The result is that of the last statement, starting from a
  given one.
-/
def TransactionItem.performAll
    (c : ConnectionId)
    (guard : Place) :
    List TransactionItem → Int → Attempt E Int
  | [], last => return last
  | execute sql :: r, _ => do
      performAll c guard r (← Connection.execute c sql)
  | raise message :: _, _ => throw (.foreign message)
  | commit :: r, last => do
      Transaction.commit guard
      performAll c guard r last
  | rollback :: r, last => do
      Transaction.rollback guard
      performAll c guard r last

/-
  Compile a text behind the back of a connection.  The result
  is the code of the engine, if the connection is open.
-/
def Connection.compileByHost
    (c : ConnectionId)
    (sql : Bytes) : Quiet E (Option Int) := do
  match (← Connection.lookup c).handle with
  | none => return none
  | some db =>
      let (_, answer) ← Statement.compile db sql
      return some answer.code

/- Carry out a request to a connection. -/
def ConnectionRequest.perform
    (c : ConnectionId) :
    ConnectionRequest → Attempt E Reply
  | close => Reply.after (Connection.close c)
  | execute sql => Reply.of .number (Connection.execute c sql)
  | executeBatch sql =>
      Reply.after (Connection.executeBatch c sql)
  | withTransaction body returns => do
      let last ← Transaction.within c fun guard =>
        TransactionItem.performAll c guard body 0
      return if returns then .number last else .nothing
  | isAutocommit => Reply.of .flag (Connection.isAutocommit c)
  | transactionState schema =>
      Reply.of .optionalNumber
        (Connection.transactionState c schema)
  | pragma name => Reply.of .value (Connection.pragma c name)
  | setPragma name v =>
      Reply.after (Connection.setPragma c name v)
  | setConfig flag on =>
      Reply.after (Connection.setConfig c flag on)
  | getConfig flag => Reply.of .flag (Connection.getConfig c flag)
  | setBusyTimeout milliseconds =>
      Reply.after (Connection.setBusyTimeout c milliseconds)
  | interrupt => Reply.after (lift (Connection.interrupt c))
  | lastRowId =>
      Reply.of (fun n => .wide n.toInt) (Connection.lastRowId c)
  | changes => Reply.of .number (Connection.changes c)
  | totalChanges => Reply.of .wide (Connection.totalChanges c)
  | tableExists name =>
      Reply.of .flag (Connection.tableExists c name)
  | isReadOnly schema =>
      Reply.of .optionalFlag (Connection.isReadOnly c schema)
  | info => do
      let conn ← lift (Connection.lookup c)
      return .connection conn.isOpen conn.path
        conn.statements.length conn.backups.length
  | options =>
      Reply.of (fun conn => .options conn.options)
        (lift (Connection.lookup c))
  | compileByHost sql =>
      Reply.of .optionalNumber
        (lift (Connection.compileByHost c sql))

------------------------------------------------------------
-- Statements and Rows
------------------------------------------------------------

/- The slot of the connection that owns a statement. -/
def Statement.ownerSlot
    (p : Place) : Attempt E (Option Nat) := do
  match ← Statement.owner p with
  | none => return none
  | some c =>
      lift (read (·.plain.findKey? (· = c)))

/- Carry out a request to a statement. -/
def StatementRequest.perform
    (p : Place) : StatementRequest → Attempt E Reply
  | bind index argument =>
      Reply.after (Statement.bindArgument p index argument)
  | bindNamed name argument =>
      Reply.after (Statement.bindNamed p name argument)
  | clearBindings => Reply.after (Statement.clearBindings p)
  | step => Reply.of .stepped (Statement.step p)
  | next => Reply.of .flag (Statement.next p)
  | execute => Reply.of .number (Statement.execute p)
  | reset => Reply.after (Statement.reset p)
  | finalize => Reply.after (lift (Statement.finalize p))
  | columnValue index =>
      Reply.of .value (Statement.columnValue p index)
  | columnAs t index =>
      Reply.of (.typed t) (Statement.columnAs p t index)
  | columnType index =>
      Reply.of .storageClass (Statement.columnType p index)
  | columnIsNull index =>
      Reply.of .flag (Statement.columnIsNull p index)
  | columnCount =>
      Reply.of (fun n => .number n) (Statement.columnCount p)
  | columnName index =>
      Reply.of .text (Statement.columnName p index)
  | columnDeclaration index =>
      Reply.of .text (Statement.columnDeclaration p index)
  | countParameters =>
      Reply.of (fun n => .number n) (Statement.countParameters p)
  | parameterIndex name =>
      Reply.of (fun n => .number n)
        (Statement.parameterIndex p name)
  | parameterName index =>
      Reply.of .text (Statement.parameterName p index)
  | info => do
      let s ← lift (Statement.lookup p)
      return .statement s.sql s.tailOffset s.hasTail
        (s.state = .finalized)
  | isReadOnly => Reply.of .flag (Statement.isReadOnly p)
  | expandedSql => Reply.of .text (Statement.expandedSql p)
  | owner => Reply.of .owner (Statement.ownerSlot p)

/- Carry out a request to a row. -/
def RowRequest.perform
    (r : Row) : RowRequest → Attempt E Reply
  | size => Reply.of (fun n => .number n) r.size
  | value index => Reply.of .value (r.value index)
  | isNull index => Reply.of .flag (r.isNull index)
  | columnName index => Reply.of .text (r.columnName index)
  | isCurrent => Reply.of .flag (lift r.isCurrent)
  | getAs t index => Reply.of (.typed t) (r.getAs t index)
  | values => Reply.of .values r.values

------------------------------------------------------------
-- Guards, Backups and Serialized Connections
------------------------------------------------------------

/- Carry out a request to a transaction guard. -/
def TransactionRequest.perform
    (p : Place) : TransactionRequest → Attempt E Reply
  | commit => Reply.after (Transaction.commit p)
  | rollback => Reply.after (Transaction.rollback p)
  | info =>
      Reply.of (fun t => .transaction t.active t.type)
        (lift (Transaction.lookup p))

/- Carry out a request to a savepoint guard. -/
def SavepointRequest.perform
    (p : Place) : SavepointRequest → Attempt E Reply
  | release => Reply.after (Savepoint.release p)
  | rollback => Reply.after (Savepoint.rollback p)
  | info =>
      Reply.of (fun s => .savepoint s.active s.name)
        (lift (Savepoint.lookup p))

/- Carry out a request to a backup. -/
def BackupRequest.perform
    (p : Place) : BackupRequest → Attempt E Reply
  | step pages => Reply.of .flag (Backup.step p pages)
  | remaining => Reply.of .number (Backup.remaining p)
  | pageCount => Reply.of .number (Backup.pageCount p)
  | finish => Reply.after (lift (Backup.finish p))
  | info =>
      Reply.of (fun b => .backup b.handle.isNone b.complete)
        (lift (Backup.lookup p))

/- Carry out a request to a serialized connection. -/
def SerializedRequest.perform
    (c : ConnectionId) :
    SerializedRequest → Attempt E Reply
  | execute sql => Reply.of .number (Connection.execute c sql)
  | isOpen =>
      Reply.of (fun conn => .flag conn.isOpen)
        (lift (Connection.lookup c))
  | interrupt => Reply.after (lift (Connection.interrupt c))
  | close => Reply.after (Connection.close c)

end SqliteAccess
