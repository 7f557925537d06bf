import SqliteAccess.Engine.Basic
import SqliteAccess.Engine.Script
import SqliteAccess.Error.Classification
import SqliteAccess.Table

/-
  The engine that follows a script.

  Key definitions include:
    * `Scripted.DatabaseState`
    * `Scripted.Cursor`
    * `Scripted.CopyState`
    * `Scripted.State`
    * `Scripted.answer`
    * `Scripted.describe`
    * `Engine.scripted`
-/

namespace SqliteAccess

namespace Scripted

------------------------------------------------------------
-- Descriptions
------------------------------------------------------------

/- What a primary code says in English. -/
def primaryDescription : Int → String
  | 0 => "not an error"
  | 1 => "SQL logic error"
  | 3 => "access permission denied"
  | 4 => "query aborted"
  | 5 => "database is locked"
  | 6 => "database table is locked"
  | 7 => "out of memory"
  | 8 => "attempt to write a readonly database"
  | 9 => "interrupted"
  | 10 => "disk I/O error"
  | 11 => "database disk image is malformed"
  | 12 => "unknown operation"
  | 13 => "database or disk is full"
  | 14 => "unable to open database file"
  | 15 => "locking protocol"
  | 17 => "database schema has changed"
  | 18 => "string or blob too big"
  | 19 => "constraint failed"
  | 20 => "datatype mismatch"
  | 21 => "bad parameter or other API misuse"
  | 23 => "authorization denied"
  | 25 => "column index out of range"
  | 26 => "file is not a database"
  | 27 => "notification message"
  | 28 => "warning message"
  | _ => "unknown error"

/- What a code says in English. -/
def describe (code : ResultCode) : Bytes :=
  Bytes.ascii <|
    if code = 516 then "abort due to ROLLBACK"
    else if code = ResultCode.row then "another row available"
    else if code = ResultCode.done then "no more rows available"
    else primaryDescription (ResultCode.primary code)

------------------------------------------------------------
-- States
------------------------------------------------------------

/- The error that a fault leaves on a handle. -/
def errorOf (fault : Fault) : HandleError :=
  { code := fault.handleCode.getD fault.code
    message :=
      match fault.message with
      | some message => Bytes.untilNul message
      | none => describe fault.code
    offset := fault.offset.getD (-1) }

/- The switches that are on in a new database. -/
def initialSwitches : List Int :=
  [1003, 1013, 1014, 1015, 1017]

/- A database. -/
structure DatabaseState where
  error : HandleError :=
    { code := ResultCode.ok
      message := describe ResultCode.ok
      offset := -1 }
  extendedCodes : Bool := false
  autocommit : Bool := true
  rowId : Int64 := 0
  changes : Int := 0
  totalChanges : Int := 0
  switches : List Int := initialSwitches

/-
  A statement: what its program says, the run it is in with
  the steps that are left, the row it stands on, what is
  bound, whether it was stepped in this run, whether that run
  is over, the failure of its last step, and what its
  completion does to the open transaction.
-/
structure Cursor where
  program : Program
  text : Bytes
  outcomes : List Outcome
  row : List Cell := []
  bindings : Table Int Binding := {}
  stepped : Bool := false
  finished : Bool := false
  failure : Option Fault := none
  completion : Option Bool := none

/- A backup: its plan, what is left, and whether it moved. -/
structure CopyState where
  plan : BackupPlan
  left : Int
  moved : Bool := false

/- The state of the engine. -/
structure State where
  script : Script
  databases : Table DatabaseHandle DatabaseState := {}
  cursors : Table StatementHandle Cursor := {}
  copies : Table BackupHandle CopyState := {}

------------------------------------------------------------
-- Databases
------------------------------------------------------------

/- The database of a handle. -/
def State.database
    (s : State)
    (db : DatabaseHandle) : DatabaseState :=
  (s.databases.get? db).getD {}

/- Change the database of a handle. -/
def State.modifyDatabase
    (s : State)
    (db : DatabaseHandle)
    (f : DatabaseState → DatabaseState) : State :=
  { s with databases := s.databases.put db (f (s.database db)) }

/- A code as a database returns it. -/
def DatabaseState.returned
    (d : DatabaseState)
    (code : ResultCode) : ResultCode :=
  if d.extendedCodes then code else ResultCode.primary code

/- Report a fault on a database. -/
def State.failOn
    (s : State)
    (db : DatabaseHandle)
    (fault : Fault) : ResultCode × State :=
  ((s.database db).returned fault.code,
    s.modifyDatabase db fun d =>
      { d with error := errorOf fault })

/- Report a fault if there is one, and otherwise go on. -/
def State.orFail
    (s : State)
    (db : DatabaseHandle)
    (fault : Option Fault)
    (next : State) : ResultCode × State :=
  match fault with
  | some fault => s.failOn db fault
  | none => (ResultCode.ok, next)

/- The next item of a queue; an exhausted one says nothing. -/
def pop
    {α : Type}
    (queue : List (Option α)) :
    Option α × List (Option α) :=
  (queue.head?.join, queue.tail)

/- Change the script. -/
def State.withScript
    (s : State)
    (f : Script → Script) : State :=
  { s with script := f s.script }

/- Open a database. -/
def State.openDatabase
    (s : State)
    (db : DatabaseHandle) : OpenAnswer × State :=
  let (fault, rest) := pop s.script.openings
  let s := s.withScript ({ · with openings := rest })
  let opened := { s with databases := s.databases.put db {} }
  match fault with
  | none =>
      ({ code := ResultCode.ok, created := true }, opened)
  | some { fault, withoutHandle := true } =>
      ({ code := ResultCode.primary fault.code
         created := false }, s)
  | some { fault, withoutHandle := false } =>
      let (code, s) := opened.failOn db fault
      ({ code, created := true }, s)

/- The error of a database whose statements are alive. -/
def unfinalizedError : HandleError :=
  { code := ResultCode.busy
    message :=
      Bytes.ascii "unable to close due to unfinalized " ++
        Bytes.ascii "statements or unfinished backups"
    offset := -1 }

/- Close a database, unless statements are alive. -/
def State.close
    (s : State)
    (db : DatabaseHandle) : ResultCode × State :=
  let (fault, rest) := pop s.script.closings
  let s := s.withScript ({ · with closings := rest })
  match fault with
  | some fault => s.failOn db fault
  | none =>
      if s.cursors.keys.any (·.database = db) then
        (ResultCode.busy,
          s.modifyDatabase db fun d =>
            { d with error := unfinalizedError })
      else
        (ResultCode.ok,
          { s with databases := s.databases.erase db })

/- Ask for a switch, or set it with a value from zero on. -/
def State.configure
    (s : State)
    (db : DatabaseHandle)
    (option value : Int) : ConfigureAnswer × State :=
  let (fault, rest) := pop s.script.configurations
  let s := s.withScript ({ · with configurations := rest })
  match fault with
  | some fault =>
      let (code, s) := s.failOn db fault
      ({ code, value := false }, s)
  | none =>
      let old := (s.database db).switches
      let new :=
        if value < 0 then old
        else if value = 0 then old.filter (· ≠ option)
        else option :: old
      ({ code := ResultCode.ok
         value := decide (option ∈ new) },
        s.modifyDatabase db fun d =>
          { d with switches := new })

------------------------------------------------------------
-- Compiling
------------------------------------------------------------

/- The first statement of a text, with its semicolon. -/
def firstStatement (sql : Bytes) : Bytes :=
  let isEnd := fun b : UInt8 => b == Bytes.byte ';'
  sql.takeWhile (! isEnd ·) ++
    (sql.dropWhile (! isEnd ·)).take 1

/-
  What a statement without a program does to the open
  transaction when it completes.
-/
def completionOf (text : Bytes) : Option Bool :=
  if (Bytes.ascii "BEGIN").isPrefixOf text then
    some false
  else if text = Bytes.ascii "COMMIT" then
    some true
  else if text = Bytes.ascii "ROLLBACK" then
    some true
  else
    none

/- The steps of the first run in a list. -/
def firstOutcomes (runs : List Run) : List Outcome :=
  match runs with
  | [] => []
  | run :: _ => run.outcomes

/- Compile a text. -/
def State.prepare
    (s : State)
    (sql : Bytes)
    (st : StatementHandle) : PrepareAnswer × State :=
  match Program.take sql s.script.programs with
  | (none, _) =>
      let text := firstStatement sql
      ({ code := ResultCode.ok
         created := true
         tail := some text.length },
        { s with
          cursors := s.cursors.put st
            { program := { sql := text }
              text
              outcomes := []
              completion := completionOf text } })
  | (some p, programs) =>
      let s := s.withScript ({ · with programs })
      match p.fault with
      | some fault =>
          let (code, s) := s.failOn st.database fault
          ({ code, created := false, tail := none }, s)
      | none =>
          let tail :=
            if p.tailMissing then none
            else some (p.tail.getD p.sql.length)
          let answer : PrepareAnswer :=
            { code := ResultCode.ok
              created := ! p.empty
              tail }
          if p.empty then
            (answer, s)
          else
            (answer,
              { s with
                cursors := s.cursors.put st
                  { program := p
                    text := p.sql
                    outcomes := firstOutcomes p.runs } })

------------------------------------------------------------
-- Running
------------------------------------------------------------

/- Change a statement. -/
def State.putCursor
    (s : State)
    (st : StatementHandle)
    (c : Cursor) : State :=
  { s with cursors := s.cursors.put st c }

/- The run that a statement is in. -/
def Cursor.run (c : Cursor) : Run :=
  c.program.runs.headD {}

/- The runs after the first one; the last one is repeated. -/
def laterRuns : List Run → List Run
  | [] => []
  | [run] => [run]
  | _ :: r => r

/- Begin the next run. -/
def Cursor.restart (c : Cursor) : Cursor :=
  let runs := laterRuns c.program.runs
  { c with
    program := { c.program with runs }
    outcomes := firstOutcomes runs
    row := []
    stepped := false
    finished := false
    failure := none }

/- The failure to report at the end of a run. -/
def Cursor.endFault (c : Cursor) : Option Fault :=
  if ! c.stepped then none
  else
    match c.failure with
    | some fault => some fault
    | none => c.run.ending

/- End a run that was begun. -/
def Cursor.rewound (c : Cursor) : Cursor :=
  if c.stepped then c.restart else c

/- What a step does to a database besides its result. -/
def DatabaseState.deliver
    (o : Outcome)
    (d : DatabaseState) : DatabaseState :=
  { d with
    changes := o.changes.getD d.changes
    totalChanges := d.totalChanges + o.changes.getD 0
    rowId := o.rowId.getD d.rowId
    autocommit := o.autocommit.getD d.autocommit }

/- Deliver a step. -/
def State.deliver
    (s : State)
    (st : StatementHandle)
    (c : Cursor)
    (o : Outcome) : ResultCode × State :=
  let s := s.modifyDatabase st.database
    (DatabaseState.deliver o)
  let c := { c with stepped := true, failure := none }
  match o.ending with
  | .row cells =>
      (ResultCode.row, s.putCursor st { c with row := cells })
  | .done =>
      (ResultCode.done,
        s.putCursor st { c with row := [], finished := true })
  | .failed fault =>
      let s := s.putCursor st
        { c with
          row := []
          finished := true
          failure := some fault }
      s.failOn st.database fault

/- Step a statement. -/
def State.step
    (s : State)
    (st : StatementHandle) : ResultCode × State :=
  match s.cursors.get? st with
  | none => (ResultCode.misuse, s)
  | some c =>
      let c := if c.finished then c.restart else c
      match c.outcomes with
      | [] =>
          s.deliver st c
            { ending := .done, autocommit := c.completion }
      | o :: rest =>
          s.deliver st { c with outcomes := rest } o

/- Reset a statement. -/
def State.reset
    (s : State)
    (st : StatementHandle) : ResultCode × State :=
  match s.cursors.get? st with
  | none => (ResultCode.misuse, s)
  | some c =>
      let s := s.putCursor st c.rewound
      s.orFail st.database c.endFault s

/- Finalize a statement. -/
def State.finalize
    (s : State)
    (st : StatementHandle) : ResultCode × State :=
  match s.cursors.get? st with
  | none => (ResultCode.ok, s)
  | some c =>
      let s := { s with cursors := s.cursors.erase st }
      s.orFail st.database c.endFault s

/- Bind a parameter. -/
def State.bind
    (s : State)
    (st : StatementHandle)
    (index : Int)
    (payload : Binding) : ResultCode × State :=
  match s.cursors.get? st with
  | none => (ResultCode.misuse, s)
  | some c =>
      let bound :=
        { c with bindings := c.bindings.put index payload }
      s.orFail st.database
        (c.program.bindFaults.lookup index)
        (s.putCursor st bound)

/- Bind nothing any more. -/
def State.clearBindings
    (s : State)
    (st : StatementHandle) : ResultCode × State :=
  match s.cursors.get? st with
  | none => (ResultCode.misuse, s)
  | some c =>
      s.orFail st.database c.program.clearFault
        (s.putCursor st { c with bindings := {} })

------------------------------------------------------------
-- Columns
------------------------------------------------------------

/- The value that a parameter was given. -/
def valueOf : Binding → Value
  | .null => .null
  | .integer n => .integer n
  | .real x => .real x
  | .text none => .null
  | .text (some t) => .text t
  | .blob none => .null
  | .blob (some b) => .blob b
  | .zeroBlob n => .blob (List.replicate n 0)

/- The content of a column. -/
def State.cell
    (s : State)
    (st : StatementHandle)
    (index : Int) : Cell :=
  match s.cursors.get? st with
  | none => .value .null
  | some c =>
      match c.row.getD index.toNat (.value .null) with
      | .parameter n =>
          .value <|
            ((c.bindings.get? n).map valueOf).getD .null
      | cell => cell

/- Read a text; a lost one leaves its code on the handle. -/
def State.columnText
    (s : State)
    (st : StatementHandle)
    (index : Int) : Option Bytes × State :=
  match s.cell st index with
  | .value (.text t) => (some t, s)
  | .lostText code =>
      (none, s.modifyDatabase st.database fun d =>
        { d with error := { d.error with code } })
  | _ => (none, s)

------------------------------------------------------------
-- Backups
------------------------------------------------------------

/- Start a backup. -/
def State.startBackup
    (s : State)
    (destination : DatabaseHandle)
    (bk : BackupHandle) : Bool × State :=
  let (fault, rest) := pop s.script.backupStarts
  let s := s.withScript ({ · with backupStarts := rest })
  match fault with
  | some fault => (false, (s.failOn destination fault).2)
  | none =>
      let plan := s.script.backups.headD {}
      let s := s.withScript fun t =>
        { t with backups := t.backups.tail }
      (true,
        { s with
          copies := s.copies.put bk
            { plan, left := plan.pages } })

/- Copy some pages. -/
def State.stepBackup
    (s : State)
    (bk : BackupHandle)
    (pages : Int) : ResultCode × State :=
  match s.copies.get? bk with
  | none => (ResultCode.misuse, s)
  | some c =>
      let (fault, rest) := pop c.plan.steps
      let c := { c with plan := { c.plan with steps := rest } }
      match fault with
      | some fault =>
          (fault.code, { s with copies := s.copies.put bk c })
      | none =>
          let c := { c with moved := true }
          if pages < 0 ∨ c.left ≤ pages then
            (ResultCode.done,
              { s with
                copies := s.copies.put bk
                  { c with left := 0 } })
          else
            (ResultCode.ok,
              { s with
                copies := s.copies.put bk
                  { c with left := c.left - pages } })

/- Finish a backup. -/
def State.finishBackup
    (s : State)
    (bk : BackupHandle) : ResultCode × State :=
  match s.copies.get? bk with
  | none => (ResultCode.ok, s)
  | some c =>
      ((c.plan.finish.map (·.code)).getD ResultCode.ok,
        { s with copies := s.copies.erase bk })

/- A number of a backup that has moved. -/
def State.progress
    (s : State)
    (bk : BackupHandle)
    (f : CopyState → Int) : Int :=
  match s.copies.get? bk with
  | some c => if c.moved then f c else 0
  | none => 0

------------------------------------------------------------
-- Questions
------------------------------------------------------------

/-
  What is known about a schema: the number in a list, -1 if
  the list does not name it.  Without a list, the schemas
  that are always there have the number 0.
-/
def schemaNumber
    (list : Option (List (Bytes × Int)))
    (always : List String)
    (schema : Bytes) : Int :=
  match list with
  | some l => (l.lookup schema).getD (-1)
  | none =>
      if schema ∈ always.map Bytes.ascii then 0 else -1

/- The program of a statement. -/
def State.program
    (s : State)
    (st : StatementHandle) : Program :=
  match s.cursors.get? st with
  | some c => c.program
  | none => { sql := [] }

/- The statement that was compiled last of those left. -/
def nextOf :
    (left : List StatementHandle) → NextStatement left
  | [] => ⟨none, rfl⟩
  | st :: _ => ⟨some st, List.mem_cons_self⟩

/- The text of a statement with bound values. -/
def State.expandedText
    (s : State)
    (st : StatementHandle) : Option Bytes :=
  match s.cursors.get? st with
  | none => none
  | some c =>
      match c.program.expanded with
      | some text => text.map Bytes.untilNul
      | none => some (Bytes.untilNul c.text)

/- The text of a statement. -/
def State.statementText
    (s : State)
    (st : StatementHandle) : Option Bytes :=
  match s.cursors.get? st with
  | none => none
  | some c =>
      if c.program.textMissing then none
      else some (Bytes.untilNul c.text)

/- The index of the parameter with a name. -/
def State.parameterIndex
    (s : State)
    (st : StatementHandle)
    (name : Bytes) : Nat :=
  let names := (s.program st).parameters.map fun n =>
    n.map Bytes.untilNul
  match names.idxOf? (some name) with
  | some i => i + 1
  | none => 0

/- The name of a parameter. -/
def State.parameterName
    (s : State)
    (st : StatementHandle)
    (index : Int) : Option Bytes :=
  ((s.program st).parameters.getD (index - 1).toNat none).map
    Bytes.untilNul

------------------------------------------------------------
-- Answers
------------------------------------------------------------

/- The answer to each call. -/
def answer : (c : Call) → State → c.Answer × State
  | .startup, s =>
      let (fault, rest) := pop s.script.startups
      ((fault.map (·.code)).getD ResultCode.ok,
        s.withScript ({ · with startups := rest }))
  | .shutdown, s =>
      let (fault, rest) := pop s.script.shutdowns
      ((fault.map (·.code)).getD ResultCode.ok,
        s.withScript ({ · with shutdowns := rest }))
  | .openDatabase _ _ db, s => s.openDatabase db
  | .close db, s => s.close db
  | .closeLater _, s => ((), s)
  | .extendedCodes db on, s =>
      let (fault, rest) := pop s.script.extendedCodes
      let s := s.withScript ({ · with extendedCodes := rest })
      s.orFail db fault <| s.modifyDatabase db fun d =>
        { d with extendedCodes := on }
  | .busyTimeout db _, s =>
      let (fault, rest) := pop s.script.busyTimeouts
      let s := s.withScript ({ · with busyTimeouts := rest })
      s.orFail db fault s
  | .configure db option value, s =>
      s.configure db option value
  | .interrupt _, s => ((), s)
  | .prepare sql st, s => s.prepare sql st
  | .bind st index payload, s => s.bind st index payload
  | .clearBindings st, s => s.clearBindings st
  | .step st, s => s.step st
  | .reset st, s => s.reset st
  | .finalize st, s => s.finalize st
  | .startBackup db _ _ _ bk, s => s.startBackup db bk
  | .stepBackup bk pages, s => s.stepBackup bk pages
  | .finishBackup bk, s => s.finishBackup bk
  | .version, s => (Bytes.ascii "3.40.1", s)
  | .errorCode db, s =>
      let d := s.database db
      (d.returned d.error.code, s)
  | .extendedErrorCode db, s =>
      ((s.database db).error.code, s)
  | .errorMessage db, s => ((s.database db).error.message, s)
  | .errorOffset db, s => ((s.database db).error.offset, s)
  | .autocommit db, s => ((s.database db).autocommit, s)
  | .transactionState _ schema, s =>
      (schemaNumber s.script.transactions
        ["*", "main", "temp"]
        (schema.getD (Bytes.ascii "*")), s)
  | .readOnlySchema _ schema, s =>
      (schemaNumber s.script.readOnly ["main", "temp"] schema,
        s)
  | .lastRowId db, s => ((s.database db).rowId, s)
  | .changes db, s => ((s.database db).changes, s)
  | .totalChanges db, s => ((s.database db).totalChanges, s)
  | .nextStatement _ left, s => (nextOf left, s)
  | .statementText st, s => (s.statementText st, s)
  | .expandedText st, s => (s.expandedText st, s)
  | .readOnlyStatement st, s => ((s.program st).readOnly, s)
  | .parameterCount st, s =>
      ((s.program st).parameters.length, s)
  | .parameterIndex st name, s => (s.parameterIndex st name, s)
  | .parameterName st index, s => (s.parameterName st index, s)
  | .columnCount st, s => ((s.program st).columns.length, s)
  | .columnName st index, s =>
      ((((s.program st).columns.getD index (none, none)).1).map
        Bytes.untilNul, s)
  | .columnDeclaration st index, s =>
      ((((s.program st).columns.getD index (none, none)).2).map
        Bytes.untilNul, s)
  | .columnType st index, s =>
      ((s.cell st index).typeCode, s)
  | .columnInteger st index, s =>
      match s.cell st index with
      | .value (.integer n) => (n, s)
      | _ => (0, s)
  | .columnReal st index, s =>
      match s.cell st index with
      | .value (.real x) => (x, s)
      | _ => (⟨0⟩, s)
  | .columnText st index, s => s.columnText st index
  | .columnBlob st index, s =>
      match s.cell st index with
      | .value (.blob b) => (some b, s)
      | _ => (none, s)
  | .remainingPages bk, s => (s.progress bk (·.left), s)
  | .pageCount bk, s => (s.progress bk (·.plan.pages), s)

end Scripted

/- The engine that follows scripts. -/
def Engine.scripted : Engine :=
  { State := Scripted.State
    answer := Scripted.answer
    describe := Scripted.describe }

end SqliteAccess
