import SqliteAccess.Proofs.Trace.Lifetime
import SqliteAccess.Proofs.Trace.Reading

/-
  Traces in which every call comes in order.

  Key definitions include:
    * `Trace.Each`
    * `Trace.between`
    * `Trace.Clear`
    * `Event.Conforms`
    * `Event.Lawful`
    * `Trace.Lawful`
-/

namespace SqliteAccess

------------------------------------------------------------
-- Every Call
------------------------------------------------------------

namespace Trace

/-
  Whether every call of a trace is one that may come after
  the calls before it.
-/
def Each
    (P : Trace → Event → Prop)
    (t : Trace) : Prop :=
  ∀ later e earlier, t = later ++ e :: earlier → P earlier e

variable {P : Trace → Event → Prop} {e : Event} {t : Trace}

theorem each_nil : Each P [] := by
  intro later e earlier hSplit
  cases later <;> cases hSplit

theorem each_cons :
    Each P (e :: t) ↔ P t e ∧ Each P t := by
  constructor
  · intro hEach
    refine ⟨hEach [] e t rfl, ?_⟩
    rintro later e' earlier rfl
    exact hEach (e :: later) e' earlier rfl
  · rintro ⟨hNow, hEarlier⟩ later e' earlier hSplit
    cases later with
    | nil =>
        cases hSplit
        exact hNow
    | cons _ later =>
        cases hSplit
        exact hEarlier later e' earlier rfl

end Trace

------------------------------------------------------------
-- Closing Databases
------------------------------------------------------------

/- The database handle that a call is to close. -/
def Call.closes? : Call → Option DatabaseHandle
  | close db => some db
  | closeLater db => some db
  | _ => none

/- The databases between which a call starts a backup. -/
def Event.copies
    (bk : BackupHandle) :
    Event → Option (DatabaseHandle × DatabaseHandle)
  | ⟨.startBackup destination _ source _ bk', created⟩ =>
      if bk' = bk ∧ created then some (source, destination)
      else none
  | _ => none

namespace Trace

/-
  The databases that a backup copies between, its source
  first.
-/
def between
    (t : Trace)
    (bk : BackupHandle) :
    Option (DatabaseHandle × DatabaseHandle) :=
  t.findSome? (·.copies bk)

/-
  Whether nothing of the library is in the way of closing a
  database: every statement on it that is alive belongs to
  the host, and no backup that uses it is alive.
-/
structure Clear
    (hosted : List StatementHandle)
    (t : Trace)
    (db : DatabaseHandle) : Prop where
  statements : ∀ st,
    st.database = db → (Lifetime.statement st).alive t →
      st ∈ hosted
  backups : ∀ bk source destination,
    t.between bk = some (source, destination) →
      db = source ∨ db = destination →
        (Lifetime.backup bk).alive t = false

end Trace

------------------------------------------------------------
-- Driving Statements
------------------------------------------------------------

/- The column that a call reads, and of which statement. -/
def Call.column? : Call → Option (StatementHandle × Int)
  | columnType st index => some (st, index)
  | columnInteger st index => some (st, index)
  | columnReal st index => some (st, index)
  | columnText st index => some (st, index)
  | columnBlob st index => some (st, index)
  | _ => none

/-
  Whether a call drives its statement as the engine wants it
  driven.  Parameters are bound and cleared only before the
  first step, a statement that is done is not stepped, and
  columns are read only on a row.  Indices are in range.
-/
def Event.Conforms
    (t : Trace)
    (e : Event) : Prop :=
  match e.call with
  | .bind st index _ =>
      t.stateOf st = .ready ∧ 1 ≤ index ∧
        ∃ count : Nat, t.parameters st = some count ∧
          index ≤ count
  | .clearBindings st => t.stateOf st = .ready
  | .step st => t.stateOf st = .ready ∨ t.stateOf st = .row
  | call =>
      ∀ st index, call.column? = some (st, index) →
        t.stateOf st = .row ∧ 0 ≤ index ∧
          ∃ count : Nat, t.columns st = some count ∧
            index < count

------------------------------------------------------------
-- Calls in Order
------------------------------------------------------------

/-
  Whether a call is in order after a trace: it names handles
  that are alive, makes handles that are new, closes only
  databases that nothing of the library needs, at once if a
  failed opening left them, and drives its statement as it
  should.
-/
structure Event.Lawful
    (hosted : List StatementHandle)
    (t : Trace)
    (e : Event) : Prop where
  statements : ∀ st, (Lifetime.statement st).Admits t e
  backups : ∀ bk, (Lifetime.backup bk).Admits t e
  databases : ∀ db, (Lifetime.database db).Admits t e
  closing : ∀ db, e.call.closes? = some db →
    Trace.Clear hosted t db
  deferring : ∀ db, e.call = .closeLater db →
    t.any (Lifetime.leaves db) = false
  conforms : e.Conforms t

namespace Trace

/- Whether every call of a trace is in order. -/
def Lawful
    (hosted : List StatementHandle) : Trace → Prop
  | [] => True
  | e :: t => e.Lawful hosted t ∧ Lawful hosted t

variable {hosted : List StatementHandle} {t : Trace}

namespace Lawful

theorem statements
    (hLawful : t.Lawful hosted)
    (st : StatementHandle) :
    (Lifetime.statement st).Respected t := by
  induction t with
  | nil => trivial
  | cons e t ih =>
      exact ⟨hLawful.1.statements st, ih hLawful.2⟩

theorem backups
    (hLawful : t.Lawful hosted)
    (bk : BackupHandle) :
    (Lifetime.backup bk).Respected t := by
  induction t with
  | nil => trivial
  | cons e t ih =>
      exact ⟨hLawful.1.backups bk, ih hLawful.2⟩

theorem databases
    (hLawful : t.Lawful hosted)
    (db : DatabaseHandle) :
    (Lifetime.database db).Respected t := by
  induction t with
  | nil => trivial
  | cons e t ih =>
      exact ⟨hLawful.1.databases db, ih hLawful.2⟩

/- Where a trace is lawful it was so before. -/
theorem suffix
    {later earlier : Trace}
    (hLawful : Lawful hosted (later ++ earlier)) :
    earlier.Lawful hosted := by
  induction later with
  | nil => exact hLawful
  | cons _ _ ih => exact ih hLawful.2

/- Every call of a lawful trace came in order. -/
theorem of_append
    {later earlier : Trace}
    {e : Event}
    (hLawful : Lawful hosted (later ++ e :: earlier)) :
    e.Lawful hosted earlier :=
  (suffix hLawful).1

/- A trace stays lawful when the host gets more handles. -/
theorem mono
    {more : List StatementHandle}
    (hLawful : t.Lawful hosted)
    (hMore : hosted ⊆ more) :
    t.Lawful more := by
  induction t with
  | nil => trivial
  | cons e t ih =>
      refine ⟨?_, ih hLawful.2⟩
      exact
        { hLawful.1 with
          closing := fun db hCloses =>
            { hLawful.1.closing db hCloses with
              statements := fun st hDatabase hAlive =>
                hMore
                  ((hLawful.1.closing db hCloses).statements
                    st hDatabase hAlive) } }

end Lawful

------------------------------------------------------------
-- Databases of Backups
------------------------------------------------------------

/- A backup copies between the databases it was started on. -/
theorem between_eq
    {bk : BackupHandle}
    {destination source : DatabaseHandle}
    {name name' : Bytes}
    (hRespected : (Lifetime.backup bk).Respected t)
    (hStarted :
      ⟨.startBackup destination name source name' bk, true⟩
        ∈ t) :
    t.between bk = some (source, destination) := by
  cases hBetween : t.between bk with
  | none =>
      have hNone :=
        List.findSome?_eq_none_iff.mp hBetween _ hStarted
      simp [Event.copies] at hNone
  | some pair =>
      rcases List.exists_of_findSome?_eq_some hBetween with
        ⟨e, hMember, hCopies⟩
      have hBorn : (Lifetime.backup bk).born e := by
        rcases e with ⟨c, a⟩
        cases c <;> try cases hCopies
        case startBackup =>
          simp_all [Event.copies, Lifetime.backup]
      have hSame := Lifetime.born_unique hRespected hMember
        hStarted hBorn (by simp [Lifetime.backup])
      subst hSame
      simpa [Event.copies] using hCopies.symm

end Trace

end SqliteAccess
