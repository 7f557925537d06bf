import SqliteAccess.Proofs.Operation.Run

/-
  The discipline of native handles.

  Over a whole session, from its start to the destruction of
  everything in it, every handle is given back exactly once
  and never named afterwards, and no database is closed under
  a statement or a backup.

  Key definitions include:
    * `Event.releases`
    * `Trace.HandleDiscipline`

  The discipline is characterized by:
    * `Session.handle_discipline`
-/

namespace SqliteAccess

variable {E : Engine}

------------------------------------------------------------
-- The Discipline
------------------------------------------------------------

/-
  Whether a call releases a database that was opened: it is
  closed with success, or left to be closed later.
-/
def Event.releases (db : DatabaseHandle) : Event → Bool
  | ⟨.close db', code⟩ => db' = db && code = ResultCode.ok
  | ⟨.closeLater db', _⟩ => db' = db
  | _ => false

namespace Trace

/-
  Whether the library needs nothing of a database any more:
  the statements that it compiled there are finalized, and
  the backups that it started there are finished.  What was
  compiled for the host is not the library's.
-/
structure Released
    (hosted : List StatementHandle)
    (t : Trace)
    (db : DatabaseHandle) : Prop where
  statements : ∀ sql st answer,
    ⟨.prepare sql st, answer⟩ ∈ t → answer.created →
      st.database = db → st ∉ hosted →
        ∃ code, ⟨.finalize st, code⟩ ∈ t
  backups : ∀ destination name source name' bk,
    ⟨.startBackup destination name source name' bk, true⟩
        ∈ t →
      db = destination ∨ db = source →
        ∃ code, ⟨.finishBackup bk, code⟩ ∈ t

/-
  Whether every handle of a finished session was given back
  once and was not named afterwards:

    * `finalized`, `finished`: statements and backups are
      given back exactly once
    * `finalizedLast`, `finishedLast`: that is the last call
      that names them
    * `closing`: a database is closed only when the library
      needs nothing of it
    * `opened`: an opened database is released exactly once,
      and that is the last call that names it
    * `failed`: what a failed opening has left is closed
      exactly once, and not named afterwards
-/
structure HandleDiscipline
    (hosted : List StatementHandle)
    (t : Trace) : Prop where
  finalized : ∀ sql st answer,
    ⟨.prepare sql st, answer⟩ ∈ t → answer.created →
      st ∉ hosted →
        t.countP (·.call = .finalize st) = 1
  finished : ∀ destination name source name' bk,
    ⟨.startBackup destination name source name' bk, true⟩
        ∈ t →
      t.countP (·.call = .finishBackup bk) = 1
  finalizedLast : ∀ later st code earlier,
    t = later ++ ⟨.finalize st, code⟩ :: earlier →
      ∀ e ∈ later, e.call.statement? ≠ some st
  finishedLast : ∀ later bk code earlier,
    t = later ++ ⟨.finishBackup bk, code⟩ :: earlier →
      ∀ e ∈ later, e.call.backup? ≠ some bk
  closing : ∀ later e earlier db,
    t = later ++ e :: earlier → e.call.closes? = some db →
      Released hosted earlier db
  opened : ∀ path flags db answer,
    ⟨.openDatabase path flags db, answer⟩ ∈ t →
      answer.created → answer.code = ResultCode.ok →
        t.countP (·.releases db) = 1 ∧
          ∀ later e earlier, t = later ++ e :: earlier →
            e.releases db →
              ∀ e' ∈ later, db ∉ e'.call.databases
  failed : ∀ path flags db answer,
    ⟨.openDatabase path flags db, answer⟩ ∈ t →
      answer.created → answer.code ≠ ResultCode.ok →
        t.countP (·.call = .close db) = 1 ∧
          t.countP (·.call = .closeLater db) = 0 ∧
            ∀ later code earlier,
              t = later ++ ⟨.close db, code⟩ :: earlier →
                ∀ e ∈ later, db ∉ e.call.databases

------------------------------------------------------------
-- Counting Ends
------------------------------------------------------------

variable {hosted : List StatementHandle} {t : Trace}

/- A statement ends by being finalized. -/
theorem statement_endings
    (st : StatementHandle)
    (t : Trace) :
    (Lifetime.statement st).endings t =
      t.countP (·.call = .finalize st) := by
  apply Lifetime.endings_eq_countP
  rintro _ ⟨c, a⟩ _ _
  cases c <;> try rfl
  case finalize => simp [Lifetime.statement]

/- A backup ends by being finished. -/
theorem backup_endings
    (bk : BackupHandle)
    (t : Trace) :
    (Lifetime.backup bk).endings t =
      t.countP (·.call = .finishBackup bk) := by
  apply Lifetime.endings_eq_countP
  rintro _ ⟨c, a⟩ _ _
  cases c <;> try rfl
  case finishBackup => simp [Lifetime.backup]

/- What ends a database if no failed opening has left it. -/
theorem ends_eq_releases
    {db : DatabaseHandle}
    (hLeft : t.any (Lifetime.leaves db) = false)
    (e : Event) :
    (Lifetime.database db).ends t e = e.releases db := by
  rcases e with ⟨c, a⟩
  cases c <;> try rfl
  case close => simp [Lifetime.database, Event.releases, hLeft]

/- What ends a database that a failed opening has left. -/
theorem ends_eq_close
    {db : DatabaseHandle}
    {e : Event}
    (hLeft : (Lifetime.database db).names e →
      (Lifetime.database db).makes e = false →
        t.any (Lifetime.leaves db) = true)
    (hNow : e.call ≠ .closeLater db) :
    (Lifetime.database db).ends t e =
      decide (e.call = .close db) := by
  rcases e with ⟨c, a⟩
  cases c <;> try rfl
  case close db' =>
    by_cases hSame : db' = db
    · subst hSame
      have hFailed := hLeft (by simp [Call.databases]) rfl
      simp [Lifetime.database, hFailed]
    · simp [Lifetime.database, hSame]
  case closeLater db' =>
    have hOther : db' ≠ db := by simpa using hNow
    simp [Lifetime.database, hOther]

/- Only one call opens a database. -/
theorem leaves_eq_false
    {path : Bytes}
    {flags : Int32}
    {db : DatabaseHandle}
    {answer : OpenAnswer}
    (hRespected : (Lifetime.database db).Respected t)
    (hOpened : ⟨.openDatabase path flags db, answer⟩ ∈ t)
    (hCreated : answer.created)
    (hCode : answer.code = ResultCode.ok) :
    t.any (Lifetime.leaves db) = false := by
  rw [List.any_eq_false]
  intro e hMember hLeaves
  have hSame := Lifetime.born_unique hRespected hMember
    hOpened (Lifetime.born_of_leaves hLeaves)
    (by simp [Lifetime.database, hCreated])
  subst hSame
  simp [Lifetime.leaves, hCode] at hLeaves

/-
  Every call that names what a failed opening has left comes
  after that opening.
-/
theorem leaves_of_named
    {path : Bytes}
    {flags : Int32}
    {db : DatabaseHandle}
    {answer : OpenAnswer}
    {later earlier : Trace}
    {e : Event}
    (hLawful : Lawful hosted (later ++ e :: earlier))
    (hOpened : ⟨.openDatabase path flags db, answer⟩
      ∈ later ++ e :: earlier)
    (hCreated : answer.created)
    (hCode : answer.code ≠ ResultCode.ok)
    (hNames : (Lifetime.database db).names e)
    (hMakes : (Lifetime.database db).makes e = false) :
    earlier.any (Lifetime.leaves db) = true := by
  have hAlive :=
    (hLawful.of_append.databases db).2 hNames hMakes
  rcases
      Lifetime.births_ne_zero_iff.mp
        (Lifetime.births_ne_zero_of_alive hAlive) with
    ⟨e', hMember, hBorn⟩
  have hSame := Lifetime.born_unique (hLawful.databases db)
    (by simp [hMember]) hOpened hBorn
    (by simp [Lifetime.database, hCreated])
  subst hSame
  rw [List.any_eq_true]
  exact ⟨_, hMember,
    by simp [Lifetime.leaves, hCreated, hCode]⟩

------------------------------------------------------------
-- From Order to Discipline
------------------------------------------------------------

/- A call that is counted has been made. -/
theorem mem_of_countP_eq_one
    {c : Call}
    (hOnce : t.countP (·.call = c) = 1) :
    ∃ answer, ⟨c, answer⟩ ∈ t := by
  have hSome : 0 < t.countP (·.call = c) := by omega
  rcases List.countP_pos_iff.mp hSome with
    ⟨⟨c', answer⟩, hMember, hCall⟩
  have hSame : c' = c := by simpa using hCall
  subst hSame
  exact ⟨answer, hMember⟩

/- A statement that is not alive was finalized once. -/
theorem finalized_once
    {sql : Bytes}
    {st : StatementHandle}
    {answer : PrepareAnswer}
    (hLawful : t.Lawful hosted)
    (hMember : ⟨.prepare sql st, answer⟩ ∈ t)
    (hCreated : answer.created)
    (hDead : (Lifetime.statement st).alive t = false) :
    t.countP (·.call = .finalize st) = 1 := by
  rw [← statement_endings]
  apply Lifetime.endings_eq_one (hLawful.statements st) _
    hDead
  apply Lifetime.births_ne_zero_iff.mpr
  exact ⟨_, hMember, by simp [Lifetime.statement, hCreated]⟩

/- A backup that is not alive was finished once. -/
theorem finished_once
    {destination source : DatabaseHandle}
    {name name' : Bytes}
    {bk : BackupHandle}
    (hLawful : t.Lawful hosted)
    (hMember :
      ⟨.startBackup destination name source name' bk, true⟩
        ∈ t)
    (hDead : (Lifetime.backup bk).alive t = false) :
    t.countP (·.call = .finishBackup bk) = 1 := by
  rw [← backup_endings]
  apply Lifetime.endings_eq_one (hLawful.backups bk) _ hDead
  apply Lifetime.births_ne_zero_iff.mpr
  exact ⟨_, hMember, by simp [Lifetime.backup]⟩

/- Nothing is missing where nothing is in the way. -/
theorem Clear.released
    {db : DatabaseHandle}
    (hLawful : t.Lawful hosted)
    (hClear : t.Clear hosted db) :
    Released hosted t db where
  statements := by
    intro sql st answer hMember hCreated hDatabase hOwn
    apply mem_of_countP_eq_one
    apply finalized_once hLawful hMember hCreated
    rw [Bool.eq_false_iff]
    intro hAlive
    exact hOwn (hClear.statements st hDatabase hAlive)
  backups := by
    intro destination name source name' bk hMember hUses
    apply mem_of_countP_eq_one
    apply finished_once hLawful hMember
    exact hClear.backups bk source destination
      (between_eq (hLawful.backups bk) hMember) hUses.symm

/- An opened database that is not alive was released once. -/
theorem released_once
    {path : Bytes}
    {flags : Int32}
    {db : DatabaseHandle}
    {answer : OpenAnswer}
    (hLawful : t.Lawful hosted)
    (hOpened : ⟨.openDatabase path flags db, answer⟩ ∈ t)
    (hCreated : answer.created)
    (hCode : answer.code = ResultCode.ok)
    (hDead : (Lifetime.database db).alive t = false) :
    t.countP (·.releases db) = 1 ∧
      ∀ later e earlier, t = later ++ e :: earlier →
        e.releases db →
          ∀ e' ∈ later, db ∉ e'.call.databases := by
  have hLeft := leaves_eq_false (hLawful.databases db)
    hOpened hCreated hCode
  have hEnds : ∀ later e earlier,
      t = later ++ e :: earlier →
        (Lifetime.database db).ends earlier e =
          e.releases db := by
    rintro later e earlier rfl
    apply ends_eq_releases
    simp only [List.any_append, List.any_cons,
      Bool.or_eq_false_iff] at hLeft
    exact hLeft.2.2
  constructor
  · rw [← Lifetime.endings_eq_countP hEnds]
    apply Lifetime.endings_eq_one (hLawful.databases db) _
      hDead
    apply Lifetime.births_ne_zero_iff.mpr
    exact ⟨_, hOpened, by simp [Lifetime.database, hCreated]⟩
  · intro later e earlier hSplit hReleases e' hLater
    have hNames := Lifetime.not_named_after_end
      (hSplit ▸ hLawful.databases db)
      ((hEnds later e earlier hSplit).trans hReleases) e'
      hLater
    simpa using hNames

/-
  What a failed opening has left and is not alive was closed
  once.
-/
theorem closed_once
    {path : Bytes}
    {flags : Int32}
    {db : DatabaseHandle}
    {answer : OpenAnswer}
    (hLawful : t.Lawful hosted)
    (hOpened : ⟨.openDatabase path flags db, answer⟩ ∈ t)
    (hCreated : answer.created)
    (hCode : answer.code ≠ ResultCode.ok)
    (hDead : (Lifetime.database db).alive t = false) :
    t.countP (·.call = .close db) = 1 ∧
      t.countP (·.call = .closeLater db) = 0 ∧
        ∀ later code earlier,
          t = later ++ ⟨.close db, code⟩ :: earlier →
            ∀ e ∈ later, db ∉ e.call.databases := by
  have hLeft : ∀ later e earlier,
      t = later ++ e :: earlier →
        (Lifetime.database db).names e →
          (Lifetime.database db).makes e = false →
            earlier.any (Lifetime.leaves db) = true := by
    rintro later e earlier rfl
    exact leaves_of_named hLawful hOpened hCreated hCode
  have hNow : ∀ e ∈ t, e.call ≠ .closeLater db := by
    intro e hMember hLater
    rcases List.append_of_mem hMember with
      ⟨later, earlier, rfl⟩
    have hMust := hLawful.of_append.deferring db hLater
    rw [hLeft later e earlier rfl
      (by simp [hLater, Call.databases])
      (by simp [hLater, Call.makesDatabase])] at hMust
    cases hMust
  have hEnds : ∀ later e earlier,
      t = later ++ e :: earlier →
        (Lifetime.database db).ends earlier e =
          decide (e.call = .close db) := by
    intro later e earlier hSplit
    exact ends_eq_close (hLeft later e earlier hSplit)
      (hNow e (by simp [hSplit]))
  refine ⟨?_, ?_, ?_⟩
  · rw [← Lifetime.endings_eq_countP hEnds]
    apply Lifetime.endings_eq_one (hLawful.databases db) _
      hDead
    apply Lifetime.births_ne_zero_iff.mpr
    exact ⟨_, hOpened, by simp [Lifetime.database, hCreated]⟩
  · rw [List.countP_eq_zero]
    intro e hMember
    simpa using hNow e hMember
  · intro later code earlier hSplit e' hLater
    have hNames := Lifetime.not_named_after_end
      (hSplit ▸ hLawful.databases db)
      ((hEnds later _ earlier hSplit).trans (by simp)) e'
      hLater
    simpa using hNames

/-
  Calls that come in order are disciplined if only handles of
  the host are alive at the end.
-/
theorem Lawful.handleDiscipline
    (hLawful : t.Lawful hosted)
    (hStatements : ∀ st,
      (Lifetime.statement st).alive t → st ∈ hosted)
    (hBackups : ∀ bk, (Lifetime.backup bk).alive t = false)
    (hDatabases : ∀ db,
      (Lifetime.database db).alive t = false) :
    t.HandleDiscipline hosted where
  finalized := by
    intro sql st answer hMember hCreated hOwn
    apply finalized_once hLawful hMember hCreated
    rw [Bool.eq_false_iff]
    exact fun hAlive => hOwn (hStatements st hAlive)
  finished := by
    intro destination name source name' bk hMember
    exact finished_once hLawful hMember (hBackups bk)
  finalizedLast := by
    rintro later st code earlier rfl e hLater
    have hNames := Lifetime.not_named_after_end
      (hLawful.statements st) (by simp [Lifetime.statement])
      e hLater
    simpa using hNames
  finishedLast := by
    rintro later bk code earlier rfl e hLater
    have hNames := Lifetime.not_named_after_end
      (hLawful.backups bk) (by simp [Lifetime.backup])
      e hLater
    simpa using hNames
  closing := by
    rintro later e earlier db rfl hCloses
    exact (hLawful.of_append.closing db hCloses).released
      hLawful.suffix.2
  opened := by
    intro path flags db answer hOpened hCreated hCode
    exact released_once hLawful hOpened hCreated hCode
      (hDatabases db)
  failed := by
    intro path flags db answer hOpened hCreated hCode
    exact closed_once hLawful hOpened hCreated hCode
      (hDatabases db)

end Trace

------------------------------------------------------------
-- Whole Sessions
------------------------------------------------------------

namespace Session

variable {s : Session E} {h : List StatementHandle}

/-
  Where there are no connections, only handles of the host
  are alive.
-/
theorem dead_of_no_connections
    (hSound : Sound (s.rest h))
    (hNone : ∀ c, s.world.connections.get? c = none) :
    (∀ st, (Lifetime.statement st).alive s.world.trace →
        st ∈ h) ∧
      (∀ bk, (Lifetime.backup bk).alive s.world.trace =
        false) ∧
        ∀ db, (Lifetime.database db).alive s.world.trace =
          false := by
  have hGone : ∀ c conn,
      (s.rest h).world.connections.get? c ≠ some conn := by
    intro c conn
    show s.world.connections.get? c ≠ some conn
    simp [hNone]
  refine ⟨?_, ?_, ?_⟩
  · intro st hAlive
    rcases hSound.linked.custody hAlive with
      hPending | hHosted | ⟨p, r, hStatement, hHandle⟩
    · cases hPending
    · exact hHosted
    · cases hOwner : r.connection with
      | none =>
          have hEnded :=
            (hSound.owned.none_iff hStatement).mp hOwner
          simp [hHandle] at hEnded
      | some c =>
          rcases hSound.owned.opened hStatement hOwner
              hHandle with
            ⟨conn, hConnection, _⟩
          exact absurd hConnection (hGone c conn)
  · intro bk
    rw [Bool.eq_false_iff]
    intro hAlive
    rcases hSound.copying.custody hAlive with
      ⟨p, b, hBackup, hHandle⟩
    rcases hSound.copying.between hBackup hHandle with
      ⟨source, _, conn, _, _, _, _, hConnection, _⟩
    exact absurd hConnection (hGone source conn)
  · intro db
    rw [Bool.eq_false_iff]
    intro hAlive
    rcases hSound.opened.custody hAlive with
      hArriving | ⟨c, conn, hConnection, _⟩
    · cases hArriving
    · exact absurd hConnection (hGone c conn)

theorem handleDiscipline_of_no_connections
    (hSound : Sound (s.rest h))
    (hNone : ∀ c, s.world.connections.get? c = none) :
    s.world.trace.HandleDiscipline h := by
  rcases dead_of_no_connections hSound hNone with
    ⟨hStatements, hBackups, hDatabases⟩
  exact hSound.lawful.handleDiscipline hStatements hBackups
    hDatabases

/- A session that is destroyed has treated its handles so. -/
theorem dismantle_discipline
    {s : Session E}
    {h : List StatementHandle}
    (hSound : Sound (s.rest h)) :
    s.dismantle.world.trace.HandleDiscipline h := by
  rcases dismantle_steps hSound with ⟨hSteps, hNone⟩
  exact handleDiscipline_of_no_connections
    (hSteps.sound hSound) hNone

/-
  Whatever the engine answers and whatever the operations
  are, the session treats its handles with discipline.
-/
theorem handle_discipline
    (engine : E.State)
    (patience : Nat)
    (log : Log)
    (ops : List Operation) :
    ((start engine patience log).runAll
        ops).2.dismantle.world.trace.HandleDiscipline
      ((start engine patience log).hosted ops) :=
  dismantle_discipline
    (reachable_sound engine patience log ops)

end Session

end SqliteAccess
