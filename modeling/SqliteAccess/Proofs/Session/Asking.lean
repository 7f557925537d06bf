import SqliteAccess.Proofs.Backup.Copying
import SqliteAccess.Proofs.Connection.Opened
import SqliteAccess.Proofs.Statement.Anchored
import SqliteAccess.Proofs.Statement.Linked

/-
  Calls that change no object.

  Key definitions include:
    * `Stage.Allows`

  The calls are characterized by:
    * `Sound.clear`
    * `Stage.Allows.lawful`
    * `Sound.heard`
-/

namespace SqliteAccess

variable {E : Engine}

------------------------------------------------------------
-- Calls That Change No Object
------------------------------------------------------------

namespace Call

/- Whether a call concerns the engine as a whole. -/
def isGlobal : Call → Bool
  | startup => true
  | shutdown => true
  | version => true
  | _ => false

/- The database that a call asks or sets something of. -/
def ofDatabase? : Call → Option DatabaseHandle
  | extendedCodes db _ => some db
  | busyTimeout db _ => some db
  | configure db _ _ => some db
  | interrupt db => some db
  | errorCode db => some db
  | extendedErrorCode db => some db
  | errorMessage db => some db
  | errorOffset db => some db
  | autocommit db => some db
  | transactionState db _ => some db
  | readOnlySchema db _ => some db
  | lastRowId db => some db
  | changes db => some db
  | totalChanges db => some db
  | nextStatement db _ => some db
  | _ => none

/- The statement that a call asks something of. -/
def ofStatement? : Call → Option StatementHandle
  | expandedText st => some st
  | readOnlyStatement st => some st
  | parameterIndex st _ => some st
  | parameterName st _ => some st
  | _ => none

/- The new statement that a call asks to describe itself. -/
def ofNewStatement? : Call → Option StatementHandle
  | statementText st => some st
  | parameterCount st => some st
  | columnCount st => some st
  | columnName st _ => some st
  | columnDeclaration st _ => some st
  | _ => none

/- The backup that a call asks something of. -/
def ofBackup? : Call → Option BackupHandle
  | remainingPages bk => some bk
  | pageCount bk => some bk
  | _ => none

end Call

/-
  The calls that can be made at a stage and that change no
  object.  Each names handles that are there; a statement is
  bound, cleared and read only in the states that allow it,
  and a call that was to create a handle has failed.
-/
inductive Stage.Allows (g : Stage E) : Event → Prop
  | global {e}
      (hCall : e.call.isGlobal) : Allows g e
  | database {e db}
      (hCall : e.call.ofDatabase? = some db)
      (hOpen : g.world.Opens db ∨
        g.custody.arriving = some db) : Allows g e
  | statement {e st}
      (hCall : e.call.ofStatement? = some st)
      (hHeld : g.world.Holds st) : Allows g e
  | newStatement {e st}
      (hCall : e.call.ofNewStatement? = some st)
      (hPending : g.custody.pending = some st) : Allows g e
  | backup {e bk}
      (hCall : e.call.ofBackup? = some bk)
      (hCopies : g.world.Copies bk) : Allows g e
  | bind {p s st index payload code}
      (hStatement : g.world.statements.get? p = some s)
      (hHandle : s.handle = some st)
      (hState : s.state = .ready)
      (hFirst : 1 ≤ index)
      (hLast : index ≤ (s.parameterCount : Int)) :
      Allows g ⟨.bind st index payload, code⟩
  | clearBindings {p s st code}
      (hStatement : g.world.statements.get? p = some s)
      (hHandle : s.handle = some st)
      (hState : s.state = .ready) :
      Allows g ⟨.clearBindings st, code⟩
  | column {e p s st index}
      (hCall : e.call.column? = some (st, index))
      (hStatement : g.world.statements.get? p = some s)
      (hHandle : s.handle = some st)
      (hState : s.state = .row)
      (hFirst : 0 ≤ index)
      (hLast : index < (s.columnNames.length : Int)) :
      Allows g e
  | notOpened {path flags db answer}
      (hNumber :
        db.number = g.world.issued.databases + 1)
      (hFailed : OpenAnswer.created answer = false) :
      Allows g ⟨.openDatabase path flags db, answer⟩
  | notClosed {c conn db code}
      (hConnection : g.world.connections.get? c = some conn)
      (hHandle : conn.handle = some db)
      (hChildless : g.world.Childless c)
      (hPending : g.custody.pending = none)
      (hFailed : code ≠ ResultCode.ok) :
      Allows g ⟨.close db, code⟩
  | notCompiled {sql st answer}
      (hOpen : g.world.Opens st.database)
      (hNumber :
        st.number = g.world.issued.statements + 1)
      (hFailed : PrepareAnswer.created answer = false) :
      Allows g ⟨.prepare sql st, answer⟩
  | notStarted {db dbSchema source sourceSchema bk}
      (hOpen : g.world.Opens db)
      (hSource : g.world.Opens source)
      (hNumber : bk.number = g.world.issued.backups + 1) :
      Allows g
        ⟨.startBackup db dbSchema source sourceSchema bk,
          false⟩

------------------------------------------------------------
-- Harmless Calls
------------------------------------------------------------

/-
  Whether a call is of those that neither make nor end a
  handle nor move the cursor of a statement.
-/
def Call.isInert : Call → Bool
  | openDatabase .. => false
  | close _ => false
  | closeLater _ => false
  | prepare .. => false
  | step _ => false
  | reset _ => false
  | finalize _ => false
  | startBackup .. => false
  | finishBackup _ => false
  | _ => true

/-
  Whether a call has left every handle and every cursor as it
  was.
-/
structure Event.Harmless
    (t : Trace)
    (e : Event) : Prop where
  statement : ∀ st, (Lifetime.statement st).Spared t e
  still : ∀ st, e.Still st
  backup : ∀ bk, (Lifetime.backup bk).Spared t e
  copies : ∀ bk, e.copies bk = none
  database : ∀ db, (Lifetime.database db).Spared t e
  leaves : ∀ db, Lifetime.leaves db e = false

namespace Event

variable {e : Event}

theorem harmless_of_inert
    (t : Trace)
    (hInert : e.call.isInert) :
    e.Harmless t := by
  rcases e with ⟨call, answer⟩
  refine
    { statement := fun st => ⟨?_, ?_⟩
      still := fun st => ⟨?_, ?_⟩
      backup := fun bk => ⟨?_, ?_⟩
      copies := fun bk => ?_
      database := fun db => ⟨?_, ?_⟩
      leaves := fun db => ?_ }
  all_goals
    cases call <;> first | rfl | cases hInert

/- What a call names that is about the engine. -/
theorem of_global
    (hCall : e.call.isGlobal) :
    e.call.isInert ∧ e.call.statement? = none ∧
      e.call.backup? = none ∧ e.call.databases = [] ∧
        ∀ t, e.Conforms t := by
  rcases e with ⟨call, answer⟩
  cases call <;> cases hCall <;>
    refine ⟨rfl, rfl, rfl, rfl, fun t => ?_⟩ <;>
    simp [Event.Conforms, Call.column?]

/- What a call names that is about a database. -/
theorem of_database
    {db : DatabaseHandle}
    (hCall : e.call.ofDatabase? = some db) :
    e.call.isInert ∧ e.call.statement? = none ∧
      e.call.backup? = none ∧ e.call.databases = [db] ∧
        ∀ t, e.Conforms t := by
  rcases e with ⟨call, answer⟩
  cases call <;> cases hCall <;>
    refine ⟨rfl, rfl, rfl, rfl, fun t => ?_⟩ <;>
    simp [Event.Conforms, Call.column?]

/- What a call names that is about a statement. -/
theorem of_statement
    {st : StatementHandle}
    (hCall : e.call.ofStatement? = some st) :
    e.call.isInert ∧ e.call.statement? = some st ∧
      e.call.backup? = none ∧ e.call.databases = [] ∧
        ∀ t, e.Conforms t := by
  rcases e with ⟨call, answer⟩
  cases call <;> cases hCall <;>
    refine ⟨rfl, rfl, rfl, rfl, fun t => ?_⟩ <;>
    simp [Event.Conforms, Call.column?]

/- What a call names that is about a new statement. -/
theorem of_newStatement
    {st : StatementHandle}
    (hCall : e.call.ofNewStatement? = some st) :
    e.call.isInert ∧ e.call.statement? = some st ∧
      e.call.backup? = none ∧ e.call.databases = [] ∧
        ∀ t, e.Conforms t := by
  rcases e with ⟨call, answer⟩
  cases call <;> cases hCall <;>
    refine ⟨rfl, rfl, rfl, rfl, fun t => ?_⟩ <;>
    simp [Event.Conforms, Call.column?]

/- What a call names that is about a backup. -/
theorem of_backup
    {bk : BackupHandle}
    (hCall : e.call.ofBackup? = some bk) :
    e.call.isInert ∧ e.call.statement? = none ∧
      e.call.backup? = some bk ∧ e.call.databases = [] ∧
        ∀ t, e.Conforms t := by
  rcases e with ⟨call, answer⟩
  cases call <;> cases hCall <;>
    refine ⟨rfl, rfl, rfl, rfl, fun t => ?_⟩ <;>
    simp [Event.Conforms, Call.column?]

/- What a call names that reads a column. -/
theorem of_column
    {st : StatementHandle}
    {index : Int}
    (hCall : e.call.column? = some (st, index)) :
    e.call.isInert ∧ e.call.statement? = some st ∧
      e.call.backup? = none ∧ e.call.databases = [] ∧
        ∀ t, t.stateOf st = .row → 0 ≤ index →
          (∃ count : Nat, t.columns st = some count ∧
            index < count) → e.Conforms t := by
  rcases e with ⟨call, answer⟩
  cases call <;> cases hCall <;>
    refine ⟨rfl, rfl, rfl, rfl,
      fun t hState hFirst hLast => ?_⟩ <;>
    simp only [Event.Conforms, Call.column?] <;>
    rintro st index ⟨⟩ <;>
    exact ⟨hState, hFirst, hLast⟩

end Event

namespace Stage.Allows

variable {g : Stage E} {e : Event}

/- What is asked leaves every handle as it is. -/
theorem harmless
    (hSound : Sound g)
    (hAllowed : g.Allows e) :
    e.Harmless g.world.trace := by
  cases hAllowed with
  | global hCall =>
      exact Event.harmless_of_inert _
        (Event.of_global hCall).1
  | database hCall _ =>
      exact Event.harmless_of_inert _
        (Event.of_database hCall).1
  | statement hCall _ =>
      exact Event.harmless_of_inert _
        (Event.of_statement hCall).1
  | newStatement hCall _ =>
      exact Event.harmless_of_inert _
        (Event.of_newStatement hCall).1
  | backup hCall _ =>
      exact Event.harmless_of_inert _
        (Event.of_backup hCall).1
  | bind => exact Event.harmless_of_inert _ rfl
  | clearBindings => exact Event.harmless_of_inert _ rfl
  | column hCall =>
      exact Event.harmless_of_inert _
        (Event.of_column hCall).1
  | notOpened _ hFailed =>
      constructor
      case statement => exact fun st => ⟨rfl, rfl⟩
      case still => exact fun st => ⟨rfl, rfl⟩
      case backup => exact fun bk => ⟨rfl, rfl⟩
      case copies => exact fun bk => rfl
      case database =>
        intro db
        exact ⟨by simp [Lifetime.database, hFailed], rfl⟩
      case leaves =>
        intro db
        simp [Lifetime.leaves, hFailed]
  | @notClosed c conn db code hConnection hHandle _ _ hFailed =>
      constructor
      case statement => exact fun st => ⟨rfl, rfl⟩
      case still => exact fun st => ⟨rfl, rfl⟩
      case backup => exact fun bk => ⟨rfl, rfl⟩
      case copies => exact fun bk => rfl
      case leaves => exact fun db => rfl
      case database =>
        intro db'
        refine ⟨rfl, ?_⟩
        have hNone :=
          (hSound.opened.alive hConnection hHandle).2
        by_cases hSame : db = db'
        · subst hSame
          simp [Lifetime.database, hFailed, hNone]
        · simp [Lifetime.database, hSame]
  | notCompiled _ _ hFailed =>
      constructor
      case statement =>
        intro st
        exact ⟨by simp [Lifetime.statement, hFailed], rfl⟩
      case still =>
        intro st
        exact ⟨by simp [Event.stateSet, hFailed], rfl⟩
      case backup => exact fun bk => ⟨rfl, rfl⟩
      case copies => exact fun bk => rfl
      case database => exact fun db => ⟨rfl, rfl⟩
      case leaves => exact fun db => rfl
  | notStarted =>
      constructor
      case statement => exact fun st => ⟨rfl, rfl⟩
      case still => exact fun st => ⟨rfl, rfl⟩
      case backup =>
        intro bk
        exact ⟨by simp [Lifetime.backup], rfl⟩
      case copies => simp [Event.copies]
      case database => exact fun db => ⟨rfl, rfl⟩
      case leaves => exact fun db => rfl

/-
  Only a statement that is under way tells its numbers when
  it is asked.
-/
theorem silent
    {st : StatementHandle}
    (hSound : Sound g)
    (hAllowed : g.Allows e)
    (hOther : g.custody.pending ≠ some st) :
    e.Silent st := by
  have hStill := (hAllowed.harmless hSound).still st
  rcases e with ⟨call, answer⟩
  refine { hStill with parameters := ?_, columns := ?_ }
  · cases call <;> try rfl
    cases hAllowed <;>
      simp_all [Event.parametersTold, Call.isGlobal,
        Call.ofDatabase?, Call.ofStatement?,
        Call.ofNewStatement?, Call.ofBackup?, Call.column?]
  · cases call <;> try rfl
    cases hAllowed <;>
      simp_all [Event.columnsTold, Call.isGlobal,
        Call.ofDatabase?, Call.ofStatement?,
        Call.ofNewStatement?, Call.ofBackup?, Call.column?]

end Stage.Allows

------------------------------------------------------------
-- Calls in Order
------------------------------------------------------------

/-
  A call that makes no handle is in order if what it names is
  alive.
-/
theorem Event.Lawful.of_named
    {hosted : List StatementHandle}
    {t : Trace}
    {e : Event}
    (hMakesStatement : e.call.makesStatement = false)
    (hMakesBackup : e.call.makesBackup = false)
    (hMakesDatabase : e.call.makesDatabase = false)
    (hStatement : ∀ st, e.call.statement? = some st →
      (Lifetime.statement st).alive t)
    (hBackup : ∀ bk, e.call.backup? = some bk →
      (Lifetime.backup bk).alive t)
    (hDatabase : ∀ db ∈ e.call.databases,
      (Lifetime.database db).alive t)
    (hClosing : ∀ db, e.call.closes? = some db →
      Trace.Clear hosted t db ∧
        (e.call = .closeLater db →
          t.any (Lifetime.leaves db) = false))
    (hConforms : e.Conforms t) :
    e.Lawful hosted t where
  statements st := by
    refine ⟨?_, fun hNames _ => hStatement st ?_⟩
    · simp [hMakesStatement]
    · simpa using hNames
  backups bk := by
    refine ⟨?_, fun hNames _ => hBackup bk ?_⟩
    · simp [hMakesBackup]
    · simpa using hNames
  databases db := by
    refine ⟨?_, fun hNames _ => hDatabase db ?_⟩
    · simp [hMakesDatabase]
    · simpa using hNames
  closing db hCloses := (hClosing db hCloses).1
  deferring db hLater :=
    (hClosing db (by rw [hLater]; rfl)).2 hLater
  conforms := hConforms

namespace Event.Lawful

variable {hosted : List StatementHandle} {t : Trace}
variable {e : Event} {db : DatabaseHandle}

/- An inert call is in order if what it names is alive. -/
theorem of_inert
    (hInert : e.call.isInert)
    (hStatement : ∀ st, e.call.statement? = some st →
      (Lifetime.statement st).alive t)
    (hBackup : ∀ bk, e.call.backup? = some bk →
      (Lifetime.backup bk).alive t)
    (hDatabase : ∀ db ∈ e.call.databases,
      (Lifetime.database db).alive t)
    (hConforms : e.Conforms t) :
    e.Lawful hosted t := by
  rcases e with ⟨call, answer⟩
  apply of_named _ _ _ hStatement hBackup hDatabase _
    hConforms
  all_goals
    cases call <;>
      simp_all [Call.isInert, Call.makesStatement,
        Call.makesBackup, Call.makesDatabase, Call.closes?]

/- A database is opened under a new handle. -/
theorem of_open
    {path : Bytes}
    {flags : Int32}
    {answer : OpenAnswer}
    (hNew : (Lifetime.database db).births t = 0) :
    Event.Lawful hosted t
      ⟨.openDatabase path flags db, answer⟩ where
  statements st := by
    simp [Lifetime.Admits, Call.statement?]
  backups bk := by
    simp [Lifetime.Admits, Call.backup?]
  databases db' := by
    refine ⟨fun hMakes => ?_, fun hNames hNot => ?_⟩
    · have hSame : db' = db := by
        simpa [Call.makesDatabase, Call.databases]
          using hMakes
      exact hSame ▸ hNew
    · simp_all [Call.makesDatabase, Call.databases]
  closing _ hCloses := by simp [Call.closes?] at hCloses
  deferring _ hLater := by simp at hLater
  conforms := by simp [Event.Conforms, Call.column?]

/- A statement is compiled under a new handle. -/
theorem of_prepare
    {sql : Bytes}
    {st : StatementHandle}
    {answer : PrepareAnswer}
    (hNew : (Lifetime.statement st).births t = 0)
    (hAlive : (Lifetime.database st.database).alive t) :
    Event.Lawful hosted t ⟨.prepare sql st, answer⟩ where
  statements st' := by
    refine ⟨fun hMakes => ?_, fun hNames hNot => ?_⟩
    · have hSame : st = st' := by
        simpa [Call.makesStatement, Call.statement?]
          using hMakes
      exact hSame ▸ hNew
    · simp_all [Call.makesStatement, Call.statement?]
  backups bk := by
    simp [Lifetime.Admits, Call.backup?]
  databases db' := by
    refine ⟨by simp [Call.makesDatabase], fun hNames _ => ?_⟩
    have hSame : db' = st.database := by
      simpa [Call.databases] using hNames
    exact hSame ▸ hAlive
  closing _ hCloses := by simp [Call.closes?] at hCloses
  deferring _ hLater := by simp at hLater
  conforms := by simp [Event.Conforms, Call.column?]

/- A backup is started under a new handle. -/
theorem of_start
    {source : DatabaseHandle}
    {schema sourceSchema : Bytes}
    {bk : BackupHandle}
    {created : Bool}
    (hNew : (Lifetime.backup bk).births t = 0)
    (hAlive : (Lifetime.database db).alive t)
    (hSource : (Lifetime.database source).alive t) :
    Event.Lawful hosted t
      ⟨.startBackup db schema source sourceSchema bk,
        created⟩ where
  statements st := by
    simp [Lifetime.Admits, Call.statement?]
  backups bk' := by
    refine ⟨fun hMakes => ?_, fun hNames hNot => ?_⟩
    · have hSame : bk = bk' := by
        simpa [Call.makesBackup, Call.backup?] using hMakes
      exact hSame ▸ hNew
    · simp_all [Call.makesBackup, Call.backup?]
  databases db' := by
    refine ⟨by simp [Call.makesDatabase], fun hNames _ => ?_⟩
    have hOne : db' = db ∨ db' = source := by
      simpa [Call.databases] using hNames
    rcases hOne with rfl | rfl
    · exact hAlive
    · exact hSource
  closing _ hCloses := by simp [Call.closes?] at hCloses
  deferring _ hLater := by simp at hLater
  conforms := by simp [Event.Conforms, Call.column?]

/- A database is closed that nothing needs. -/
theorem of_close
    (hCall : e.call = .close db ∨ e.call = .closeLater db)
    (hAlive : (Lifetime.database db).alive t)
    (hClear : Trace.Clear hosted t db)
    (hLater : e.call = .closeLater db →
      t.any (Lifetime.leaves db) = false) :
    e.Lawful hosted t := by
  rcases e with ⟨call, answer⟩
  rcases hCall with rfl | rfl
  all_goals
    apply of_named rfl rfl rfl
    · simp [Call.statement?]
    · simp [Call.backup?]
    · simpa [Call.databases] using hAlive
    · intro db' hCloses
      cases hCloses
      exact ⟨hClear, hLater⟩
    · simp [Event.Conforms, Call.column?]

end Event.Lawful

------------------------------------------------------------
-- Calls at Sound Stages
------------------------------------------------------------

namespace Sound

variable {g : Stage E}

/- A statement that is held is alive. -/
theorem alive_of_holds
    {st : StatementHandle}
    (hSound : Sound g)
    (hHeld : g.world.Holds st) :
    (Lifetime.statement st).alive g.world.trace := by
  rcases hHeld with ⟨p, s, hStatement, hHandle⟩
  exact hSound.linked.alive hStatement hHandle

/- A database that is open is alive. -/
theorem alive_of_opens
    {db : DatabaseHandle}
    (hSound : Sound g)
    (hOpen : g.world.Opens db) :
    (Lifetime.database db).alive g.world.trace := by
  rcases hOpen with ⟨c, conn, hConnection, hHandle⟩
  exact (hSound.opened.alive hConnection hHandle).1

/- A backup that is held is alive. -/
theorem alive_of_copies
    {bk : BackupHandle}
    (hSound : Sound g)
    (hCopies : g.world.Copies bk) :
    (Lifetime.backup bk).alive g.world.trace := by
  rcases hCopies with ⟨p, b, hBackup, hHandle⟩
  exact hSound.copying.alive hBackup hHandle

/-
  Nothing is in the way of closing a database if no statement
  is under way and nothing is live on its connection.
-/
theorem clear
    {db : DatabaseHandle}
    (hSound : Sound g)
    (hPending : g.custody.pending = none)
    (hChildless : ∀ {c conn},
      g.world.connections.get? c = some conn →
        conn.handle = some db → g.world.Childless c) :
    Trace.Clear g.custody.hosted g.world.trace db where
  statements st hDatabase hAlive := by
    rcases hSound.linked.custody hAlive with h | h | h
    · rw [hPending] at h
      cases h
    · exact h
    · rcases h with ⟨p, s, hStatement, hHandle⟩
      cases hOwner : s.connection with
      | none =>
          rw [hSound.owned.none_iff hStatement] at hOwner
          rw [hOwner] at hHandle
          cases hHandle
      | some c =>
          rcases hSound.owned.opened hStatement hOwner
              hHandle with
            ⟨conn, hConnection, hOpen⟩
          rw [hDatabase] at hOpen
          have hNone := hChildless hConnection hOpen
          exact absurd
            ⟨s, hStatement, by simp [hHandle], hOwner⟩
            (hNone.statements p)
  backups bk source destination hBetween hUses := by
    cases hAlive :
      (Lifetime.backup bk).alive g.world.trace with
    | false => rfl
    | true =>
        rcases hSound.copying.custody hAlive with
          ⟨p, b, hBackup, hHandle⟩
        rcases hSound.copying.between hBackup hHandle with
          ⟨from', to', _, _, hFrom, hTo, _, hSource,
           hDestination, _, _, hSourceDb, hDb, hBetween'⟩
        have hLive : b.handle ≠ none := by simp [hHandle]
        cases hBetween.symm.trans hBetween'
        rcases hUses with rfl | rfl
        · exact absurd ⟨b, hBackup, hLive, .inl hFrom⟩
            ((hChildless hSource hSourceDb).backups p)
        · exact absurd ⟨b, hBackup, hLive, .inr hTo⟩
            ((hChildless hDestination hDb).backups p)

theorem clear_of_childless
    {c : ConnectionId}
    {conn : Connection}
    {db : DatabaseHandle}
    (hSound : Sound g)
    (hPending : g.custody.pending = none)
    (hConnection : g.world.connections.get? c = some conn)
    (hHandle : conn.handle = some db)
    (hChildless : g.world.Childless c) :
    Trace.Clear g.custody.hosted g.world.trace db := by
  apply hSound.clear hPending
  intro c' conn' hConnection' hHandle'
  cases hSound.opened.unique hConnection hHandle
    hConnection' hHandle'
  exact hChildless

/- A call that names no statement tells nothing of one. -/
theorem linked_heard
    {e : Event}
    (hSound : Sound g)
    (hOther : e.call.statement? = none) :
    Linked g.world.statements (e :: g.world.trace)
      g.custody.pending g.custody.hosted
      g.world.issued.statements := by
  have hNot : ∀ st, e.call.statement? ≠ some st := by
    simp [hOther]
  exact hSound.linked.heard
    (fun st => Lifetime.spared_of_ne _ (hNot st))
    (fun st => (Event.silent_of_ne (hNot st)).toStill)
    (fun st _ => Event.silent_of_ne (hNot st))

end Sound

namespace Stage.Allows

variable {g : Stage E} {e : Event}

/- What is asked comes in order. -/
theorem lawful
    (hSound : Sound g)
    (hAllowed : g.Allows e) :
    e.Lawful g.custody.hosted g.world.trace := by
  cases hAllowed with
  | global hCall =>
      rcases Event.of_global hCall with
        ⟨hInert, hStatement, hBackup, hDatabases, hConforms⟩
      apply Event.Lawful.of_inert hInert _ _ _ (hConforms _)
      · simp [hStatement]
      · simp [hBackup]
      · simp [hDatabases]
  | database hCall hOpen =>
      rcases Event.of_database hCall with
        ⟨hInert, hStatement, hBackup, hDatabases, hConforms⟩
      have hAlive := hSound.opened.alive_of_arriving hOpen
      apply Event.Lawful.of_inert hInert _ _ _ (hConforms _)
      · simp [hStatement]
      · simp [hBackup]
      · simpa [hDatabases] using hAlive
  | statement hCall hHeld =>
      rcases Event.of_statement hCall with
        ⟨hInert, hStatement, hBackup, hDatabases, hConforms⟩
      have hAlive := hSound.alive_of_holds hHeld
      apply Event.Lawful.of_inert hInert _ _ _ (hConforms _)
      · simpa [hStatement] using hAlive
      · simp [hBackup]
      · simp [hDatabases]
  | newStatement hCall hPending =>
      rcases Event.of_newStatement hCall with
        ⟨hInert, hStatement, hBackup, hDatabases, hConforms⟩
      have hAlive := (hSound.linked.fresh hPending).1
      apply Event.Lawful.of_inert hInert _ _ _ (hConforms _)
      · simpa [hStatement] using hAlive
      · simp [hBackup]
      · simp [hDatabases]
  | backup hCall hCopies =>
      rcases Event.of_backup hCall with
        ⟨hInert, hStatement, hBackup, hDatabases, hConforms⟩
      have hAlive := hSound.alive_of_copies hCopies
      apply Event.Lawful.of_inert hInert _ _ _ (hConforms _)
      · simp [hStatement]
      · simpa [hBackup] using hAlive
      · simp [hDatabases]
  | column hCall hHeld hHandle hState hFirst hLast =>
      rcases Event.of_column hCall with
        ⟨hInert, hStatement, hBackup, hDatabases, hConforms⟩
      have hFollows := hSound.linked.follows hHeld hHandle
      have hAlive := hSound.linked.alive hHeld hHandle
      have hRead := hConforms _
        (hFollows.state.trans hState) hFirst
        ⟨_, hFollows.columns, hLast⟩
      apply Event.Lawful.of_inert hInert _ _ _ hRead
      · simpa [hStatement] using hAlive
      · simp [hBackup]
      · simp [hDatabases]
  | @bind p s st index payload code hHeld hHandle hState
      hFirst hLast =>
      have hFollows := hSound.linked.follows hHeld hHandle
      have hAlive := hSound.linked.alive hHeld hHandle
      have hBind : Event.Conforms g.world.trace
          ⟨.bind st index payload, code⟩ :=
        ⟨hFollows.state.trans hState, hFirst, _,
          hFollows.parameters, hLast⟩
      apply Event.Lawful.of_inert rfl _ _ _ hBind
      · simpa [Call.statement?] using hAlive
      · simp [Call.backup?]
      · simp [Call.databases]
  | @clearBindings p s st code hHeld hHandle hState =>
      have hFollows := hSound.linked.follows hHeld hHandle
      have hAlive := hSound.linked.alive hHeld hHandle
      have hClear : Event.Conforms g.world.trace
          ⟨.clearBindings st, code⟩ :=
        hFollows.state.trans hState
      apply Event.Lawful.of_inert rfl _ _ _ hClear
      · simpa [Call.statement?] using hAlive
      · simp [Call.backup?]
      · simp [Call.databases]
  | notOpened hNumber _ =>
      have hNew := hSound.opened.births_eq_zero hNumber
      exact Event.Lawful.of_open hNew
  | notClosed hConnection hHandle hChildless hPending _ =>
      have hAlive :=
        (hSound.opened.alive hConnection hHandle).1
      have hClear := hSound.clear_of_childless hPending
        hConnection hHandle hChildless
      exact Event.Lawful.of_close (.inl rfl) hAlive hClear
        (by simp)
  | notCompiled hOpen hNumber _ =>
      have hAlive := hSound.alive_of_opens hOpen
      have hNew := hSound.linked.births_eq_zero hNumber
      exact Event.Lawful.of_prepare hNew hAlive
  | notStarted hOpen hSource hNumber =>
      have hAlive := hSound.alive_of_opens hOpen
      have hAlive' := hSound.alive_of_opens hSource
      have hNew := hSound.copying.births_eq_zero hNumber
      exact Event.Lawful.of_start hNew hAlive hAlive'

end Stage.Allows

/- Asking keeps a stage sound. -/
theorem Sound.asked
    {g : Stage E}
    {e : Event}
    (hSound : Sound g)
    (hAllowed : g.Allows e)
    (engine : E.State) :
    Sound (g.heard e engine) := by
  have hHarmless := hAllowed.harmless hSound
  exact
    { hSound with
      lawful := ⟨hAllowed.lawful hSound, hSound.lawful⟩
      linked := hSound.linked.heard hHarmless.statement
        hHarmless.still
        fun _ hOther => hAllowed.silent hSound hOther
      opened := hSound.opened.heard hHarmless.database
        hHarmless.leaves
      copying := hSound.copying.heard hHarmless.backup
        hHarmless.copies }

end SqliteAccess
