import SqliteAccess.Operation.Requests

/-
  How operations are carried out.

  The objects that an operation needs are looked for first.
  An object that is created in an occupied slot takes the
  place of the old one, which is destroyed before the new one
  is made; if that fails, the slot stays empty.

  Key definitions include:
    * `Operation.perform`
-/

namespace SqliteAccess

variable {E : Engine} {α : Type}

open Quiet Attempt

------------------------------------------------------------
-- Finding Objects
------------------------------------------------------------

namespace Operation

/- What an operation needs, or a failure for want of it. -/
def needed (x : Quiet E (Option α)) : Attempt E α := do
  match ← lift x with
  | some a => return a
  | none => throw .noObject

/- The connection in a slot. -/
def connectionIn (c : Nat) : Attempt E ConnectionId :=
  needed (read (·.plain.get? c))

/- The serialized connection in a slot. -/
def serializedIn (z : Nat) : Attempt E ConnectionId :=
  needed (read (·.serialized.get? z))

/- The row in a slot. -/
def rowIn (r : Nat) : Attempt E Row :=
  needed (read (·.rows.get? r))

/- A slot with a value in a table. -/
def occupied
    (table : World E → Table Place α)
    (n : Nat) : Attempt E Place := do
  let _ ← needed (read fun w => (table w).get? (.slot n))
  return .slot n

/- A slot with a statement. -/
def statementIn (s : Nat) : Attempt E Place :=
  occupied (·.statements) s

/- A slot with a transaction guard. -/
def transactionIn (t : Nat) : Attempt E Place :=
  occupied (·.transactions) t

/- A slot with a savepoint guard. -/
def savepointIn (p : Nat) : Attempt E Place :=
  occupied (·.savepoints) p

/- A slot with a backup. -/
def backupIn (b : Nat) : Attempt E Place :=
  occupied (·.backups) b

------------------------------------------------------------
-- Emptying Slots
------------------------------------------------------------

/- Destroy the connection in a slot, if there is one. -/
def vacateConnection (c : Nat) : Quiet E Unit := do
  match ← read (·.plain.get? c) with
  | none => pure ()
  | some id =>
      update fun w => { w with plain := w.plain.erase c }
      Connection.destroy id

/- Destroy the serialized connection in a slot. -/
def vacateSerialized (z : Nat) : Quiet E Unit := do
  match ← read (·.serialized.get? z) with
  | none => pure ()
  | some id =>
      update fun w =>
        { w with serialized := w.serialized.erase z }
      Connection.destroy id

------------------------------------------------------------
-- Moving Objects
------------------------------------------------------------

/-
  Move an object to another slot, whose old object is
  destroyed.  Moving it to its own slot changes nothing.
-/
def relocate
    (find : Nat → Attempt E Place)
    (destroy : Place → Quiet E Unit)
    (move : Place → Place → Quiet E Unit)
    (source target : Nat) : Attempt E Reply := do
  let old ← find source
  if source ≠ target then
    lift (destroy (.slot target))
    lift (move old (.slot target))
  return .nothing

/- Move an object over another one. -/
def overwrite
    (find : Nat → Attempt E Place)
    (assign : Place → Place → Quiet E Unit)
    (source target : Nat) : Attempt E Reply := do
  let old ← find target
  let new ← find source
  lift (assign new old)
  return .nothing

/- Destroy the object in a slot. -/
def discard
    (find : Nat → Attempt E Place)
    (destroy : Place → Quiet E Unit)
    (n : Nat) : Attempt E Reply := do
  let p ← find n
  lift (destroy p)
  return .nothing

------------------------------------------------------------
-- Creating Objects
------------------------------------------------------------

/- Open a connection in a slot. -/
def openIn
    (c : Nat)
    (path : Bytes)
    (options : ConnectionOptions) : Attempt E Unit := do
  lift (vacateConnection c)
  let id ← Connection.openAt path options
  lift <| update fun w =>
    { w with plain := w.plain.put c id }

/- Prepare a statement in a slot. -/
def prepareIn
    (c : ConnectionId)
    (s : Nat)
    (sql : Bytes) : Attempt E Unit := do
  lift (Statement.destroy (.slot s))
  Statement.prepare c (.slot s) sql

/-
  Prepare a statement and move it over that in a slot, which
  is looked for only then.
-/
def assignPreparedIn
    (c s : Nat)
    (sql : Bytes) : Attempt E Unit := do
  let id ← connectionIn c
  Statement.within id sql fun p => do
    let target ← statementIn s
    lift (Statement.assign p target)

/- Step a statement and keep its row in a slot. -/
def fetchIn (s r : Nat) : Attempt E Bool := do
  let p ← statementIn s
  match ← Statement.fetch p with
  | some found =>
      lift <| update fun w =>
        { w with rows := w.rows.put r found }
      return true
  | none =>
      lift <| update fun w =>
        { w with rows := w.rows.erase r }
      return false

/- Begin a transaction with its guard in a slot. -/
def beginIn
    (c t : Nat)
    (type : TransactionType) : Attempt E Unit := do
  let id ← connectionIn c
  lift (Transaction.destroy (.slot t))
  Transaction.start id (.slot t) type

/- Make a savepoint inside a transaction. -/
def savepointInside
    (t p : Nat)
    (name : Bytes) : Attempt E Unit := do
  let guard ← transactionIn t
  lift (Savepoint.destroy (.slot p))
  Transaction.savepoint guard (.slot p) name

/- Make a savepoint on a connection. -/
def savepointDirect
    (c p : Nat)
    (name : Bytes) : Attempt E Unit := do
  let id ← connectionIn c
  lift (Savepoint.destroy (.slot p))
  Savepoint.start id (.slot p) name

/- Start a backup in a slot. -/
def backupBetween
    (b source destination : Nat)
    (sourceSchema destinationSchema : Bytes) :
    Attempt E Unit := do
  let source ← connectionIn source
  let destination ← connectionIn destination
  lift (Backup.destroy (.slot b))
  Backup.start (.slot b) source destination
    sourceSchema destinationSchema

/-
  Take a connection out of its slot and serialize it.  There
  must be one to serialize.
-/
def serializeIn
    (z : Nat)
    (c : Option Nat) : Attempt E Unit := do
  match c with
  | none =>
      lift (vacateSerialized z)
      refuse .missingConnection
  | some c =>
      let id ← connectionIn c
      lift (vacateSerialized z)
      lift <| update fun w =>
        { w with
          plain := w.plain.erase c
          serialized := w.serialized.put z id }

------------------------------------------------------------
-- All Operations
------------------------------------------------------------

/- Carry out an operation. -/
def perform : Operation → Attempt E Reply
  | library r => r.perform
  | log r => r.perform
  | openConnection c path options =>
      Reply.after (openIn c path options)
  | dropConnection c => do
      let _ ← connectionIn c (E := E)
      lift (vacateConnection c)
      return .nothing
  | connection c r => do
      r.perform (← connectionIn c)
  | copyAll source destination => do
      let source ← connectionIn source
      let destination ← connectionIn destination
      Reply.after (Backup.copyAll source destination)
  | prepare c s sql => do
      let id ← connectionIn c
      Reply.after (prepareIn id s sql)
  | assignPrepared c s sql =>
      Reply.after (assignPreparedIn c s sql)
  | moveStatement source target =>
      relocate statementIn Statement.destroy Statement.move
        source target
  | assignStatement source target =>
      overwrite statementIn Statement.assign source target
  | dropStatement s =>
      discard statementIn Statement.destroy s
  | fetch s r => Reply.of .flag (fetchIn s r)
  | statement s r => do
      r.perform (← statementIn s)
  | row r q => do
      q.perform (← rowIn r)
  | begin c t type => Reply.after (beginIn c t type)
  | moveTransaction source target =>
      relocate transactionIn Transaction.destroy
        Transaction.move source target
  | assignTransaction source target =>
      overwrite transactionIn Transaction.assign source target
  | dropTransaction t =>
      discard transactionIn Transaction.destroy t
  | transaction t r => do
      r.perform (← transactionIn t)
  | savepoint t p name => Reply.after (savepointInside t p name)
  | savepointOn c p name => Reply.after (savepointDirect c p name)
  | moveSavepoint source target =>
      relocate savepointIn Savepoint.destroy Savepoint.move
        source target
  | assignSavepoint source target =>
      overwrite savepointIn Savepoint.assign source target
  | dropSavepoint p =>
      discard savepointIn Savepoint.destroy p
  | askSavepoint p r => do
      r.perform (← savepointIn p)
  | startBackup b source destination first second =>
      Reply.after
        (backupBetween b source destination first second)
  | dropBackup b => discard backupIn Backup.destroy b
  | backup b r => do
      r.perform (← backupIn b)
  | serialize z c => Reply.after (serializeIn z c)
  | prepareSerialized z s sql => do
      let id ← serializedIn z
      Reply.after (prepareIn id s sql)
  | dropSerialized z => do
      let _ ← serializedIn z (E := E)
      lift (vacateSerialized z)
      return .nothing
  | serialized z r => do
      r.perform (← serializedIn z)

end Operation

end SqliteAccess
