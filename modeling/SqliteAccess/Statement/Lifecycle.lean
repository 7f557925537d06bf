import SqliteAccess.Connection.Registry
import SqliteAccess.Text.Blank

/-
  The life of a statement: compiling, moving, finalizing.

  A live statement is entered at its connection.  A moved
  statement takes its rows and its entry along; what it
  leaves behind is finalized.

  Key definitions include:
    * `Statement.lookup`
    * `Statement.requireHandle`
    * `Statement.requireText`
    * `Statement.prepare`
    * `Statement.finalize`
    * `Statement.move`
    * `Statement.assign`
    * `Statement.destroy`
    * `Statement.within`
-/

namespace SqliteAccess

namespace Statement

variable {E : Engine} {α : Type}

open Quiet Attempt

------------------------------------------------------------
-- Looking Up
------------------------------------------------------------

/- The statement at a place. -/
def lookup (p : Place) : Quiet E Statement :=
  read (·.statement p)

/-
  The handle of a statement that is not finalized, for an
  operation that cannot do without.
-/
def requireHandle
    (p : Place)
    (operation : String) : Attempt E StatementHandle := do
  let s ← lift (lookup p)
  match s.handle with
  | some st => return st
  | none => refuse (.statementFinalized operation s.sql)

------------------------------------------------------------
-- Finalizing
------------------------------------------------------------

/-
  Finalize a statement: strike it out at its connection and
  give its handle back.  A failure is worth a warning unless
  the last step has reported it.
-/
def finalize (p : Place) : Quiet E Unit := do
  let s ← lookup p
  match s.handle with
  | none =>
      update <| World.modifyStatement p fun s =>
        { s with state := .finalized }
  | some st =>
      update <| World.modifyLinked s.connection
        (·.removeStatement p)
      update <| World.modifyStatement p ended
      let code : ResultCode ← invoke (.finalize st)
      if code ≠ ResultCode.ok ∧ ! s.stepFailed then
        note .warning "sqlite3_finalize reported an error"
          [.ofText "code" (ResultCode.name code),
            .ofText "sql" s.sql]

/- Finalize a statement whose connection goes away. -/
def detach (p : Place) : Quiet E Unit := do
  update <| World.modifyStatement p fun s =>
    { s with connection := none }
  finalize p

/- Destroy a statement; its rows expire. -/
def destroy (p : Place) : Quiet E Unit := do
  finalize p
  update fun w =>
    let w := w.dropAnchor (w.statement p).anchor
    { w with statements := w.statements.erase p }

------------------------------------------------------------
-- Compiling
------------------------------------------------------------

/-
  Compile a text on a database.  If there is a statement, it
  has the returned handle.
-/
def compile
    (db : DatabaseHandle)
    (sql : Bytes) :
    Quiet E (StatementHandle × PrepareAnswer) := do
  let number := (← read (·.issued.statements)) + 1
  let st : StatementHandle := { number, database := db }
  let answer : PrepareAnswer ← invoke (.prepare sql st)
  if answer.created then
    update fun w =>
      { w with issued.statements := number }
  return (st, answer)

/- The names and the declared types of the next columns. -/
def describeColumns
    (st : StatementHandle)
    (first : Nat) :
    Nat → Quiet E (List Bytes × List Bytes)
  | 0 => return ([], [])
  | n + 1 => do
      let name : Option Bytes ←
        invoke (.columnName st first)
      let type : Option Bytes ←
        invoke (.columnDeclaration st first)
      let (names, types) ← describeColumns st (first + 1) n
      return (name.getD [] :: names, type.getD [] :: types)

/-
  A statement that has just been compiled, as it describes
  itself.
-/
def describe
    (c : ConnectionId)
    (anchor : Anchor)
    (sql : Bytes)
    (st : StatementHandle)
    (tail : Option Nat) : Quiet E Statement := do
  let offset := tail.getD sql.length
  let text : Option Bytes ← invoke (.statementText st)
  let parameters : Nat ← invoke (.parameterCount st)
  let columns : Nat ← invoke (.columnCount st)
  let (names, types) ← describeColumns st 0 columns
  return {
    anchor := some anchor
    handle := some st
    connection := some c
    sql := text.getD []
    tailOffset := offset
    hasTail := ! Blank.isBlank (sql.drop offset)
    state := .ready
    stepFailed := false
    generation := 0
    parameterCount := parameters
    columnNames := names
    columnTypes := types }

/- Put a new statement at a place and enter it. -/
def register
    (c : ConnectionId)
    (p : Place)
    (s : Statement)
    (w : World E) : World E :=
  World.modifyConnection c (·.addStatement p)
    { w with
      issued.anchors := w.issued.anchors + 1
      anchors :=
        match s.anchor with
        | none => w.anchors
        | some a => w.anchors.put a p
      statements := w.statements.put p s }

/- How many bytes a text of SQL may have. -/
def longestText : Nat :=
  2147483647

/- Check that a text can be handed over to be compiled. -/
def requireText (sql : Bytes) : Except Refusal Unit :=
  if Blank.isBlank sql then
    .error (.noStatement sql)
  else if longestText < sql.length then
    .error .longText
  else
    .ok ()

/-
  Compile the first statement of a text and keep it at a
  place, where no other statement is.
-/
def prepare
    (c : ConnectionId)
    (p : Place)
    (sql : Bytes) : Attempt E Unit := do
  let db ← Connection.requireOpen c "prepare"
  accept (requireText sql)
  let (st, answer) ← lift (compile db sql)
  if answer.code ≠ ResultCode.ok then
    let e ← lift (handleError db answer.code .preparing sql)
    if answer.created then
      let _ ← lift (invoke (.finalize st))
    fail e
  require answer.created (.noStatement sql)
  let number := (← lift (read (·.issued.anchors))) + 1
  let s ← lift (describe c { number } sql st answer.tail)
  lift (update (register c p s))

------------------------------------------------------------
-- Moving
------------------------------------------------------------

/-
  Take a statement from one place to another.  What was at
  the other place loses its rows.
-/
def transfer
    (source target : Place)
    (w : World E) : World E :=
  let s := w.statement source
  let w := w.dropAnchor (w.statement target).anchor
  let w := w.setAnchor s.anchor target
  let w := w.modifyLinked s.connection
    (·.replaceStatement source target)
  { w with
    statements :=
      (w.statements.put target s).put source s.emptied }

/- Move a statement to a place that is free. -/
def move (source target : Place) : Quiet E Unit :=
  update (transfer source target)

/-
  Move a statement over another one, which is finalized.
  Moving it over itself changes nothing.
-/
def assign (source target : Place) : Quiet E Unit :=
  if source = target then
    pure ()
  else do
    finalize target
    update (transfer source target)

------------------------------------------------------------
-- Temporary Statements
------------------------------------------------------------

/- Work with a statement that lasts as long as the work. -/
def within
    (c : ConnectionId)
    (sql : Bytes)
    (work : Place → Attempt E α) : Attempt E α := do
  prepare c .scratch sql
  ensuring (work .scratch) (destroy .scratch)

end Statement

end SqliteAccess
