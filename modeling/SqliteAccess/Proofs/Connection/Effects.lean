import SqliteAccess.Proofs.Backup.Effects

/-
  What connections are kept from.  Only running SQL and
  opening a connection have an effect; closing has none.

  The programs are characterized by:
    * `Connection.execute_affects`
    * `Connection.executeBatch_affects`
    * `Connection.setPragma_affects`
    * `Connection.close_affects`
    * `Connection.shut_affects`
    * `Connection.applyOptions_affects`
    * `Connection.establish_affects`
-/

namespace SqliteAccess

variable {E : Engine} {A : Effect → Prop}

open Attempt

namespace Connection

variable (c : ConnectionId)

------------------------------------------------------------
-- Settings
------------------------------------------------------------

theorem setConfig_affects
    (flag : ConfigFlag)
    (on : Bool) :
    Affects (E := E) A (setConfig c flag on) := by
  apply Affects.bind (requireOpen_affects c _)
  intro db
  apply Affects.bind (.ask rfl)
  exact fun answer => check_affects _ _ _ _

theorem getConfig_affects (flag : ConfigFlag) :
    Affects (E := E) A (getConfig c flag) := by
  apply Affects.bind (requireOpen_affects c _)
  intro db
  apply Affects.bind (.ask rfl)
  intro answer
  exact (check_affects _ _ _ _).map

theorem setBusyTimeout_affects (milliseconds : Int) :
    Affects (E := E) A (setBusyTimeout c milliseconds) := by
  apply Affects.bind (requireOpen_affects c _)
  intro db
  apply Affects.bind (.require _ _)
  intro _
  apply Affects.bind (.ask rfl)
  exact fun code => check_affects _ _ _ _

theorem setExtendedCodes_affects (on : Bool) :
    Affects (E := E) A (setExtendedCodes c on) := by
  apply Affects.bind (.read _)
  intro conn
  cases conn.handle with
  | none => exact .pure ()
  | some db =>
      apply Affects.bind (.ask rfl)
      exact fun code => check_affects _ _ _ _

theorem interrupt_affects :
    Quiet.Affects (E := E) A (interrupt c) := by
  apply Quiet.Affects.bind (.read _)
  intro conn
  cases conn.handle with
  | none => exact .pure ()
  | some db => exact .ask rfl

------------------------------------------------------------
-- Questions
------------------------------------------------------------

theorem isAutocommit_affects :
    Affects (E := E) A (isAutocommit c) :=
  (requireOpen_affects c _).bind fun _ => .ask rfl

theorem transactionState_affects (schema : Bytes) :
    Affects (E := E) A (transactionState c schema) := by
  apply Affects.bind (requireOpen_affects c _)
  exact fun db => (Affects.ask rfl).map

theorem isReadOnly_affects (schema : Bytes) :
    Affects (E := E) A (isReadOnly c schema) := by
  apply Affects.bind (requireOpen_affects c _)
  exact fun db => (Affects.ask rfl).map

theorem lastRowId_affects :
    Affects (E := E) A (lastRowId c) :=
  (requireOpen_affects c _).bind fun _ => .ask rfl

theorem changes_affects :
    Affects (E := E) A (changes c) :=
  (requireOpen_affects c _).bind fun _ => .ask rfl

theorem totalChanges_affects :
    Affects (E := E) A (totalChanges c) :=
  (requireOpen_affects c _).bind fun _ => .ask rfl

------------------------------------------------------------
-- Running SQL
------------------------------------------------------------

section Running

variable (hCompile : A .compile)

include hCompile

theorem execute_affects (sql : Bytes) :
    Affects (E := E) A (execute c sql) := by
  apply Statement.within_affects hCompile
  intro p
  apply Affects.bind (.read _)
  intro s
  apply Affects.bind (.require _ _)
  exact fun _ => Statement.execute_affects p

theorem executeFirst_affects (sql : Bytes) :
    Affects (E := E) A (executeFirst c sql) := by
  apply Statement.within_affects hCompile
  intro p
  apply Affects.bind (.read _)
  intro s
  apply Affects.bind (Statement.execute_affects p)
  intro _
  exact (Affects.lift (Statement.finalize_affects p)).map

theorem executeUpTo_affects
    (n : Nat)
    (sql : Bytes) :
    Affects (E := E) A (executeUpTo c n sql) := by
  induction n generalizing sql with
  | zero => exact .throw _
  | succ n ih =>
      apply Affects.ite
      · apply Affects.bind (executeFirst_affects c hCompile _)
        exact fun consumed => ih _
      · exact .pure ()

theorem executeBatch_affects (sql : Bytes) :
    Affects (E := E) A (executeBatch c sql) := by
  apply Affects.bind (.read _)
  exact fun n => executeUpTo_affects c hCompile n sql

theorem tableExists_affects (name : Bytes) :
    Affects (E := E) A (tableExists c name) := by
  apply Statement.within_affects hCompile
  intro p
  apply Affects.bind (Statement.bindText_affects p 1 name)
  exact fun _ => Statement.next_affects p

theorem pragma_affects (name : Bytes) :
    Affects (E := E) A (pragma c name) := by
  apply Affects.bind (.accept _)
  intro _
  apply Statement.within_affects hCompile
  intro p
  apply Affects.bind (Statement.step_affects p)
  intro result
  apply Affects.ite (.pure _)
  apply Affects.bind (Statement.columnCount_affects p)
  intro count
  exact .ite (.pure _) (Statement.columnValue_affects p 0)

theorem setPragma_affects
    (name : Bytes)
    (v : Value) :
    Affects (E := E) A (setPragma c name v) := by
  apply Affects.bind (.accept _)
  intro _
  apply Affects.bind (.accept _)
  intro literal
  apply Statement.within_affects hCompile
  intro p
  apply Affects.bind (.read _)
  exact fun n => Statement.drain_affects p n

theorem compileByHost_affects (sql : Bytes) :
    Quiet.Affects (E := E) A (compileByHost c sql) := by
  apply Quiet.Affects.bind (.read _)
  intro conn
  cases conn.handle with
  | none => exact .pure none
  | some db =>
      apply Quiet.Affects.bind
      · exact Statement.compile_affects hCompile db sql
      · exact fun _ => .pure _

end Running

------------------------------------------------------------
-- Closing
------------------------------------------------------------

/- A connection that loses its handle is edited. -/
theorem withoutHandle_edited (w : World E) :
    w.Edited (w.modifyConnection c withoutHandle) :=
  .connection w c fun _ => .inl rfl

theorem noteClosed_affects :
    Quiet.Affects (E := E) A (noteClosed c) := by
  apply Quiet.Affects.bind (.read _)
  exact fun conn => .note _ _ _

theorem finalizeLeft_affects
    (db : DatabaseHandle)
    (n : Nat) :
    Quiet.Affects (E := E) A (finalizeLeft db n) := by
  induction n with
  | zero => exact .pure ()
  | succ n ih =>
      apply Quiet.Affects.bind (.read _)
      intro left
      apply Quiet.Affects.bind (.ask rfl)
      intro next
      cases next.val with
      | none => exact .pure ()
      | some st => exact .bind (.ask rfl) fun _ => ih

theorem closeStubborn_affects
    (db : DatabaseHandle)
    (path : Bytes) :
    Quiet.Affects (E := E) A (closeStubborn db path) := by
  apply Quiet.Affects.bind (.ask rfl)
  intro code
  apply Quiet.Affects.ite (.pure code)
  apply Quiet.Affects.bind (.note _ _ _)
  intro _
  apply Quiet.Affects.bind (.read _)
  intro left
  apply Quiet.Affects.bind (finalizeLeft_affects db _)
  exact fun _ => .ask rfl

theorem releaseHandle_affects :
    Quiet.Affects (E := E) A (releaseHandle c) := by
  apply Quiet.Affects.bind (.read _)
  intro conn
  cases conn.handle with
  | none => exact .pure ()
  | some db =>
      have hRest : Quiet.Affects (E := E) A
          (Quiet.update
            (World.modifyConnection c withoutHandle) >>=
              fun _ => noteClosed c) := by
        apply Quiet.Affects.bind
        · exact .edit (withoutHandle_edited c)
        exact fun _ => noteClosed_affects c
      apply Quiet.Affects.bind (closeStubborn_affects db _)
      intro code
      apply Quiet.Affects.ite
      · apply Quiet.Affects.bind (.note _ _ _)
        intro _
        apply Quiet.Affects.bind (.ask rfl)
        exact fun _ => hRest
      · exact hRest

theorem close_affects :
    Affects (E := E) A (close c) := by
  apply Affects.bind (.read _)
  intro conn
  cases conn.handle with
  | none => exact .pure ()
  | some db =>
      apply Affects.bind (.require _ _)
      intro _
      apply Affects.bind (.ask rfl)
      intro code
      apply Affects.bind (check_affects _ _ _ _)
      intro _
      apply Affects.bind
      · exact .lift (.edit (withoutHandle_edited c))
      exact fun _ => .lift (noteClosed_affects c)

theorem releaseChildren_affects :
    Quiet.Affects (E := E) A (releaseChildren c) := by
  apply Quiet.Affects.bind (.read _)
  intro conn
  apply Quiet.Affects.bind
  · exact .edit fun w => .connection w c fun _ => .inr rfl
  intro _
  apply Quiet.Affects.bind
  · exact .each (fun p => Backup.detach_affects p c) _
  exact fun _ => .each Statement.detach_affects _

theorem shut_affects :
    Quiet.Affects (E := E) A (shut c) := by
  apply Quiet.Affects.bind (.read _)
  intro conn
  apply Quiet.Affects.ite
  case hElse => exact .pure ()
  apply Quiet.Affects.ite
  · apply Quiet.Affects.bind (.note _ _ _)
    intro _
    apply Quiet.Affects.bind (releaseChildren_affects c)
    exact fun _ => releaseHandle_affects c
  · exact releaseHandle_affects c

------------------------------------------------------------
-- Opening
------------------------------------------------------------

theorem openingError_affects
    (db : DatabaseHandle)
    (path : Bytes)
    (answer : OpenAnswer) :
    Quiet.Affects (E := E) A
      (openingError db path answer) := by
  apply Quiet.Affects.ite
  · apply Quiet.Affects.bind (.ask rfl)
    intro code
    apply Quiet.Affects.bind (.ask rfl)
    intro reason
    apply Quiet.Affects.bind (.ask rfl)
    exact fun _ => .pure _
  · exact .pure _

theorem openHandle_affects
    (path : Bytes)
    (flags : OpenFlags) :
    Affects (E := E) A (openHandle path flags) := by
  apply Affects.bind (.read _)
  intro issued
  apply Affects.bind (.ask rfl)
  intro answer
  apply Affects.optional
  case hFirst =>
    intro hRest
    apply Affects.bind
    · exact .lift (.edit fun w => .apart w _ _ _ _ rfl)
    exact fun _ => hRest
  apply Affects.ite
  · apply Affects.bind
    · exact .lift (openingError_affects _ path answer)
    exact fun e => .failed
  · exact .pure _

theorem applyOptions_affects
    (hCompile : A .compile)
    (options : ConnectionOptions) :
    Affects (E := E) A (applyOptions c options) := by
  apply Affects.bind (setExtendedCodes_affects c _)
  intro _
  have hRest : Affects (E := E) A
      (do
        if options.strictQuoting then
          setConfig c .quotedStringsInData false
          setConfig c .quotedStringsInDefinitions false
        if options.foreignKeys then
          let _ ←
            execute c (Bytes.ascii "PRAGMA foreign_keys = ON")
        if options.writeAheadLog then
          setPragma c (Bytes.ascii "journal_mode")
            (.text (Bytes.ascii "WAL"))) := by
    apply Affects.optional
    case hFirst =>
      intro hRest
      apply Affects.bind (setConfig_affects c _ _)
      intro _
      apply Affects.bind (setConfig_affects c _ _)
      exact fun _ => hRest
    apply Affects.optional
    case hFirst =>
      intro hRest
      apply Affects.bind (execute_affects c hCompile _)
      exact fun _ => hRest
    exact .ite (setPragma_affects c hCompile _ _) (.pure ())
  cases options.busyTimeout with
  | none => exact hRest
  | some milliseconds =>
      apply Affects.bind
      · exact setBusyTimeout_affects c milliseconds
      exact fun _ => hRest

/-
  Opening makes a connection with a new identity, and forgets
  it again if it cannot be configured.
-/
theorem establish_affects
    (hCompile : A .compile)
    (hConnect : A .connect)
    (path : Bytes)
    (options : ConnectionOptions) :
    Affects (E := E) A (establish path options) := by
  apply Affects.bind (.accept _)
  intro flags
  apply Affects.bind (openHandle_affects path flags)
  intro db s
  let c : ConnectionId := ⟨s.world.issued.connections + 1⟩
  have hRest : Affects (E := E) A
      (onFailure (applyOptions c options)
          (releaseHandle c >>= fun _ =>
            Quiet.update (forget c)) >>= fun _ =>
        (lift (Quiet.note .debug "connection opened"
          [.ofText "path" path,
            .ofInt "flags" flags.bits.toInt]) >>= fun _ =>
              pure c)) := by
    apply Affects.bind
    · apply Affects.onFailure
      · exact applyOptions_affects c hCompile options
      apply Quiet.Affects.bind (releaseHandle_affects c)
      exact fun _ _ => .single (.forgotten hConnect c)
    intro _
    exact (Affects.lift (.note _ _ _)).map
  exact .head (.connected (c := c) hConnect rfl _) (hRest _)

end Connection

end SqliteAccess
