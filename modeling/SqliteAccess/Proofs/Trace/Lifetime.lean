import SqliteAccess.Engine.Basic

/-
  The lifetimes of the handles in a trace.

  A handle is born by the call that creates it and ends by
  the call that gives it back.  A trace respects a lifetime
  if the handle is made at most once and is named only while
  it is alive.

  Key definitions include:
    * `Lifetime`
    * `Lifetime.alive`
    * `Lifetime.Respected`
    * `Lifetime.statement`
    * `Lifetime.backup`
    * `Lifetime.database`

  The lifetimes are characterized by:
    * `Lifetime.births_eq`
    * `Lifetime.not_named_after_end`
    * `Lifetime.mem_unfinalized_iff`
-/

namespace SqliteAccess

------------------------------------------------------------
-- Naming Handles
------------------------------------------------------------

namespace Call

/- The statement handle that a call names. -/
def statement? : Call → Option StatementHandle
  | prepare _ st => some st
  | bind st _ _ => some st
  | clearBindings st => some st
  | step st => some st
  | reset st => some st
  | finalize st => some st
  | statementText st => some st
  | expandedText st => some st
  | readOnlyStatement st => some st
  | parameterCount st => some st
  | parameterIndex st _ => some st
  | parameterName st _ => some st
  | columnCount st => some st
  | columnName st _ => some st
  | columnDeclaration st _ => some st
  | columnType st _ => some st
  | columnInteger st _ => some st
  | columnReal st _ => some st
  | columnText st _ => some st
  | columnBlob st _ => some st
  | _ => none

/- The backup handle that a call names. -/
def backup? : Call → Option BackupHandle
  | startBackup _ _ _ _ bk => some bk
  | stepBackup bk _ => some bk
  | finishBackup bk => some bk
  | remainingPages bk => some bk
  | pageCount bk => some bk
  | _ => none

/-
  The database handles that a call names.  A statement is
  compiled on the database that its handle belongs to.
-/
def databases : Call → List DatabaseHandle
  | openDatabase _ _ db => [db]
  | close db => [db]
  | closeLater db => [db]
  | extendedCodes db _ => [db]
  | busyTimeout db _ => [db]
  | configure db _ _ => [db]
  | interrupt db => [db]
  | prepare _ st => [st.database]
  | startBackup destination _ source _ _ =>
      [destination, source]
  | errorCode db => [db]
  | extendedErrorCode db => [db]
  | errorMessage db => [db]
  | errorOffset db => [db]
  | autocommit db => [db]
  | transactionState db _ => [db]
  | readOnlySchema db _ => [db]
  | lastRowId db => [db]
  | changes db => [db]
  | totalChanges db => [db]
  | nextStatement db _ => [db]
  | _ => []

/- Whether a call is to create a statement handle. -/
def makesStatement : Call → Bool
  | prepare _ _ => true
  | _ => false

/- Whether a call is to create a backup handle. -/
def makesBackup : Call → Bool
  | startBackup .. => true
  | _ => false

/- Whether a call is to create a database handle. -/
def makesDatabase : Call → Bool
  | openDatabase .. => true
  | _ => false

end Call

------------------------------------------------------------
-- Lifetimes
------------------------------------------------------------

/-
  The calls that matter to one handle: those that name it,
  those that are to make it, those that bring it into being,
  and those that end it.  Whether a call ends a handle may
  depend on what came before it.
-/
structure Lifetime where
  names : Event → Bool
  makes : Event → Bool
  born : Event → Bool
  ends : Trace → Event → Bool
  makes_of_born : ∀ e, born e → makes e
  names_of_makes : ∀ e, makes e → names e
  names_of_ends : ∀ t e, ends t e → names e
  not_makes_of_ends : ∀ t e, ends t e → makes e = false

namespace Lifetime

variable (l : Lifetime)

/- Whether a handle was created and not given back since. -/
def alive : Trace → Bool
  | [] => false
  | e :: t => l.born e || (alive t && ! l.ends t e)

/- How often a handle was created. -/
def births (t : Trace) : Nat :=
  t.countP l.born

/- How often a handle was given back. -/
def endings : Trace → Nat
  | [] => 0
  | e :: t => endings t + if l.ends t e then 1 else 0

/-
  Whether a call is in order after a trace: it makes the
  handle only if that was never created, and otherwise names
  it only while it is alive.
-/
def Admits
    (t : Trace)
    (e : Event) : Prop :=
  (l.makes e → l.births t = 0) ∧
    (l.names e → l.makes e = false → l.alive t)

/- Whether every call of a trace is in order. -/
def Respected : Trace → Prop
  | [] => True
  | e :: t => l.Admits t e ∧ Respected t

------------------------------------------------------------
-- One Birth, One End
------------------------------------------------------------

variable {l}

theorem births_cons
    (e : Event)
    (t : Trace) :
    l.births (e :: t) =
      l.births t + if l.born e then 1 else 0 := by
  simp [births, List.countP_cons]

/- Only a call that is to make a handle can create it. -/
theorem born_eq_false
    {e : Event}
    (hMakes : l.makes e = false) :
    l.born e = false := by
  cases hBorn : l.born e with
  | false => rfl
  | true => simp [l.makes_of_born e hBorn] at hMakes

/- Only a call that names a handle can make it. -/
theorem makes_eq_false
    {e : Event}
    (hNames : l.names e = false) :
    l.makes e = false := by
  cases hMakes : l.makes e with
  | false => rfl
  | true => simp [l.names_of_makes e hMakes] at hNames

/- Only a call that names a handle can end it. -/
theorem ends_eq_false
    {e : Event}
    (t : Trace)
    (hNames : l.names e = false) :
    l.ends t e = false := by
  cases hEnds : l.ends t e with
  | false => rfl
  | true => simp [l.names_of_ends t e hEnds] at hNames

/- A call that makes a handle does not end it. -/
theorem ends_eq_false_of_makes
    {e : Event}
    (t : Trace)
    (hMakes : l.makes e) :
    l.ends t e = false := by
  cases hEnds : l.ends t e with
  | false => rfl
  | true => simp [l.not_makes_of_ends t e hEnds] at hMakes

/- A handle is alive after the call that created it. -/
theorem alive_of_born
    {e : Event}
    (t : Trace)
    (hBorn : l.born e) :
    l.alive (e :: t) := by
  simp [alive, hBorn]

/- A handle is not alive after the call that ended it. -/
theorem not_alive_of_ends
    {e : Event}
    {t : Trace}
    (hEnds : l.ends t e) :
    l.alive (e :: t) = false := by
  have hMakes := l.not_makes_of_ends t e hEnds
  simp [alive, born_eq_false hMakes, hEnds]

/- Whether a call neither creates nor ends a handle. -/
structure Spared
    (l : Lifetime)
    (t : Trace)
    (e : Event) : Prop where
  born : l.born e = false
  ends : l.ends t e = false

theorem spared_of_not_names
    {e : Event}
    (t : Trace)
    (hNames : l.names e = false) :
    l.Spared t e where
  born := born_eq_false (makes_eq_false hNames)
  ends := ends_eq_false t hNames

theorem Spared.alive_cons
    {e : Event}
    {t : Trace}
    (hSpared : l.Spared t e) :
    l.alive (e :: t) = l.alive t := by
  simp [alive, hSpared.born, hSpared.ends]

theorem Spared.births_cons
    {e : Event}
    {t : Trace}
    (hSpared : l.Spared t e) :
    l.births (e :: t) = l.births t := by
  simp [Lifetime.births_cons, hSpared.born]

/-
  A handle is created at most once, and it has been given
  back once or is still alive.
-/
theorem births_eq
    {t : Trace}
    (hRespected : l.Respected t) :
    l.births t =
        l.endings t + (if l.alive t then 1 else 0) ∧
      l.births t ≤ 1 := by
  induction t with
  | nil => simp [births, endings, alive]
  | cons e t ih =>
      rcases hRespected with ⟨⟨hFresh, hAlive⟩, hBefore⟩
      rcases ih hBefore with ⟨hSum, hOnce⟩
      rw [births_cons]
      cases hBorn : l.born e with
      | true =>
          have hMakes := l.makes_of_born e hBorn
          have hNone := hFresh hMakes
          have hEnds := ends_eq_false_of_makes t hMakes
          simp only [endings, alive, hBorn, hEnds,
            Bool.true_or, if_true, Bool.false_eq_true,
            if_false]
          omega
      | false =>
          cases hEnds : l.ends t e with
          | true =>
              have hNames := l.names_of_ends t e hEnds
              have hMakes := l.not_makes_of_ends t e hEnds
              have hLiving := hAlive hNames hMakes
              simp only [hLiving, if_true] at hSum
              simp only [endings, alive, hBorn, hEnds,
                hLiving, Bool.not_true, Bool.and_false,
                Bool.or_false, Bool.false_eq_true, if_true,
                if_false]
              omega
          | false =>
              simp only [endings, alive, hBorn, hEnds,
                Bool.not_false, Bool.and_true,
                Bool.false_or, Bool.false_eq_true, if_false]
              omega

/- What is alive was created. -/
theorem births_ne_zero_of_alive
    {t : Trace}
    (hAlive : l.alive t) :
    l.births t ≠ 0 := by
  induction t with
  | nil => simp [alive] at hAlive
  | cons e t ih =>
      rw [births_cons]
      cases hBorn : l.born e with
      | true => simp
      | false =>
          simp only [alive, hBorn, Bool.false_or,
            Bool.and_eq_true] at hAlive
          simpa using ih hAlive.1

/- What was created has a call that created it. -/
theorem births_ne_zero_iff
    {t : Trace} :
    l.births t ≠ 0 ↔ ∃ e ∈ t, l.born e := by
  simp [births, Nat.pos_iff_ne_zero.symm,
    List.countP_pos_iff]

/- What was created stays created. -/
theorem births_ne_zero_of_suffix
    {t t' : Trace}
    (hSuffix : t <:+ t')
    (hBirths : l.births t ≠ 0) :
    l.births t' ≠ 0 := by
  rcases births_ne_zero_iff.mp hBirths with
    ⟨e, hMember, hBorn⟩
  exact births_ne_zero_iff.mpr
    ⟨e, hSuffix.subset hMember, hBorn⟩

/- What was created is not made again. -/
theorem Admits.makes_eq_false
    {t : Trace}
    {e : Event}
    (hAdmits : l.Admits t e)
    (hBirths : l.births t ≠ 0) :
    l.makes e = false := by
  rw [Bool.eq_false_iff]
  exact fun hMakes => hBirths (hAdmits.1 hMakes)

/- A handle that was created and is not alive ended once. -/
theorem endings_eq_one
    {t : Trace}
    (hRespected : l.Respected t)
    (hBorn : l.births t ≠ 0)
    (hDead : l.alive t = false) :
    l.endings t = 1 := by
  rcases births_eq hRespected with ⟨hSum, hOnce⟩
  simp only [hDead, Bool.false_eq_true, if_false] at hSum
  omega

/- A handle that has ended is not alive, and was created. -/
theorem dead_of_ends
    {e : Event}
    {t : Trace}
    (hRespected : l.Respected (e :: t))
    (hEnds : l.ends t e) :
    l.alive (e :: t) = false ∧ l.births (e :: t) ≠ 0 := by
  have hNames := l.names_of_ends t e hEnds
  have hMakes := l.not_makes_of_ends t e hEnds
  have hLiving := hRespected.1.2 hNames hMakes
  have hBefore :=
    births_ne_zero_of_alive hLiving
  refine ⟨not_alive_of_ends hEnds, ?_⟩
  rw [births_cons]
  omega

/-
  A handle that was created and is not alive is named by no
  later call.
-/
theorem not_named_of_dead
    {earlier : Trace}
    (hBorn : l.births earlier ≠ 0)
    (hDead : l.alive earlier = false) :
    ∀ later : Trace,
      l.Respected (later ++ earlier) →
        l.births (later ++ earlier) ≠ 0 ∧
          l.alive (later ++ earlier) = false ∧
            ∀ e ∈ later, l.names e = false := by
  intro later
  induction later with
  | nil =>
      intro _
      exact ⟨hBorn, hDead, by simp⟩
  | cons e later ih =>
      intro hRespected
      rcases hRespected with ⟨hAdmits, hBefore⟩
      rcases ih hBefore with ⟨hBirths, hStill, hOthers⟩
      have hMakes := hAdmits.makes_eq_false hBirths
      have hNames : l.names e = false := by
        cases hNames : l.names e with
        | false => rfl
        | true =>
            have hLiving := hAdmits.2 hNames hMakes
            simp [hStill] at hLiving
      refine ⟨?_, ?_, ?_⟩
      · rw [List.cons_append, births_cons]
        omega
      · rw [List.cons_append,
          (spared_of_not_names _ hNames).alive_cons]
        exact hStill
      · intro e' hMember
        rcases List.mem_cons.mp hMember with rfl | hLater
        · exact hNames
        · exact hOthers e' hLater

/- What was created and is not alive stays so. -/
theorem dead_of_suffix
    {t₀ t : Trace}
    (hRespected : l.Respected t)
    (hSuffix : t₀ <:+ t)
    (hBorn : l.births t₀ ≠ 0)
    (hDead : l.alive t₀ = false) :
    l.births t ≠ 0 ∧ l.alive t = false := by
  rcases hSuffix with ⟨later, rfl⟩
  have hStill := not_named_of_dead hBorn hDead later hRespected
  exact ⟨hStill.1, hStill.2.1⟩

/- A handle that is alive has been so since it was created. -/
theorem alive_of_append
    {later earlier : Trace}
    (hRespected : l.Respected (later ++ earlier))
    (hBorn : l.births earlier ≠ 0)
    (hAlive : l.alive (later ++ earlier)) :
    l.alive earlier := by
  cases hBefore : l.alive earlier with
  | true => rfl
  | false =>
      have hDead :=
        not_named_of_dead hBorn hBefore later hRespected
      simp [hDead.2.1] at hAlive

/- No call names a handle after the call that ended it. -/
theorem not_named_after_end
    {later earlier : Trace}
    {e : Event}
    (hRespected : l.Respected (later ++ e :: earlier))
    (hEnds : l.ends earlier e) :
    ∀ e' ∈ later, l.names e' = false := by
  have hSuffix : l.Respected (e :: earlier) := by
    clear hEnds
    induction later with
    | nil => exact hRespected
    | cons _ _ ih => exact ih hRespected.2
  rcases dead_of_ends hSuffix hEnds with ⟨hDead, hBorn⟩
  exact (not_named_of_dead hBorn hDead later hRespected).2.2

/- Only one call creates a handle. -/
theorem born_unique
    {t : Trace}
    {e e' : Event}
    (hRespected : l.Respected t)
    (hMember : e ∈ t)
    (hMember' : e' ∈ t)
    (hBorn : l.born e)
    (hBorn' : l.born e') :
    e = e' := by
  induction t with
  | nil => cases hMember
  | cons e₀ t ih =>
      have hFresh : ∀ e₁ ∈ t, l.born e₀ → l.born e₁ →
          False := by
        intro e₁ hIn hFirst hSecond
        have hNone :=
          hRespected.1.1 (l.makes_of_born e₀ hFirst)
        exact births_ne_zero_iff.mpr ⟨e₁, hIn, hSecond⟩
          hNone
      rcases List.mem_cons.mp hMember with rfl | hIn
      · rcases List.mem_cons.mp hMember' with rfl | hIn'
        · rfl
        · exact (hFresh e' hIn' hBorn hBorn').elim
      · rcases List.mem_cons.mp hMember' with rfl | hIn'
        · exact (hFresh e hIn hBorn' hBorn).elim
        · exact ih hRespected.2 hIn hIn'

/- Counting the calls that end a handle. -/
theorem endings_eq_countP
    {q : Event → Bool}
    {t : Trace}
    (hEnds : ∀ later e earlier,
      t = later ++ e :: earlier → l.ends earlier e = q e) :
    l.endings t = t.countP q := by
  induction t with
  | nil => rfl
  | cons e t ih =>
      have hBefore : l.endings t = t.countP q := by
        apply ih
        intro later e' earlier hSplit
        exact hEnds (e :: later) e' earlier
          (by rw [hSplit, List.cons_append])
      rw [endings, List.countP_cons, hBefore,
        hEnds [] e t rfl]

------------------------------------------------------------
-- Statements
------------------------------------------------------------

/- The lifetime of a statement handle. -/
def statement (st : StatementHandle) : Lifetime where
  names e := e.call.statement? = some st
  makes e :=
    e.call.makesStatement && e.call.statement? = some st
  born
    | ⟨.prepare _ st', answer⟩ => st' = st && answer.created
    | _ => false
  ends _ e :=
    match e.call with
    | .finalize st' => st' = st
    | _ => false
  makes_of_born := by
    rintro ⟨c, a⟩ hBorn
    cases c <;> try cases hBorn
    case prepare =>
      simp_all [Call.makesStatement, Call.statement?]
  names_of_makes := by
    intro e hMakes
    simp_all
  names_of_ends := by
    rintro t ⟨c, a⟩ hEnds
    cases c <;> try cases hEnds
    case finalize => simp_all [Call.statement?]
  not_makes_of_ends := by
    rintro t ⟨c, a⟩ hEnds
    cases c <;> first | rfl | cases hEnds

@[simp]
theorem statement_names
    (st : StatementHandle)
    (e : Event) :
    (statement st).names e =
      decide (e.call.statement? = some st) := rfl

@[simp]
theorem statement_makes
    (st : StatementHandle)
    (e : Event) :
    (statement st).makes e =
      (e.call.makesStatement &&
        decide (e.call.statement? = some st)) := rfl

/-
  The statements that a trace leaves unfinalized are those
  that are alive, each listed once.
-/
theorem mem_unfinalized_iff
    {t : Trace}
    (hRespected : ∀ st, (statement st).Respected t) :
    (∀ st, st ∈ t.unfinalized ↔ (statement st).alive t) ∧
      t.unfinalized.Nodup := by
  induction t with
  | nil => simp [Trace.unfinalized, alive]
  | cons e t ih =>
      rcases ih fun st => (hRespected st).2 with
        ⟨hMember, hNodup⟩
      rcases e with ⟨c, a⟩
      cases c with
      | prepare sql st =>
          have hFresh : st ∉ Trace.unfinalized t := by
            intro hListed
            have hAlive := (hMember st).mp hListed
            have hMakes : (statement st).makes
                ⟨.prepare sql st, a⟩ := by
              simp [statement, Call.makesStatement,
                Call.statement?]
            exact births_ne_zero_of_alive hAlive
              ((hRespected st).1.1 hMakes)
          cases hCreated : a.created with
          | false =>
              constructor
              · intro st'
                simpa [Trace.unfinalized, hCreated, alive,
                  statement] using hMember st'
              · simpa [Trace.unfinalized, hCreated]
                  using hNodup
          | true =>
              constructor
              · intro st'
                have hBefore := hMember st'
                have hSame : st' = st ↔ st = st' := eq_comm
                simp [Trace.unfinalized, hCreated, hBefore,
                  alive, statement, hSame]
              · simpa [Trace.unfinalized, hCreated] using
                  And.intro hFresh hNodup
      | finalize st =>
          constructor
          · intro st'
            have hBefore := hMember st'
            simp only [Trace.unfinalized,
              hNodup.mem_erase_iff, hBefore, alive,
              statement, ne_eq]
            by_cases hSame : st' = st
            · simp [hSame]
            · have hOther : st ≠ st' := fun h => hSame h.symm
              simp [hSame, hOther]
          · exact hNodup.erase st
      | _ =>
          refine ⟨fun st => ?_, hNodup⟩
          rw [Spared.alive_cons]
          · exact hMember st
          · exact ⟨rfl, rfl⟩

------------------------------------------------------------
-- Backups
------------------------------------------------------------

/- The lifetime of a backup handle. -/
def backup (bk : BackupHandle) : Lifetime where
  names e := e.call.backup? = some bk
  makes e := e.call.makesBackup && e.call.backup? = some bk
  born
    | ⟨.startBackup _ _ _ _ bk', created⟩ =>
        bk' = bk && created
    | _ => false
  ends _ e :=
    match e.call with
    | .finishBackup bk' => bk' = bk
    | _ => false
  makes_of_born := by
    rintro ⟨c, a⟩ hBorn
    cases c <;> try cases hBorn
    case startBackup =>
      simp_all [Call.makesBackup, Call.backup?]
  names_of_makes := by
    intro e hMakes
    simp_all
  names_of_ends := by
    rintro t ⟨c, a⟩ hEnds
    cases c <;> try cases hEnds
    case finishBackup => simp_all [Call.backup?]
  not_makes_of_ends := by
    rintro t ⟨c, a⟩ hEnds
    cases c <;> first | rfl | cases hEnds

@[simp]
theorem backup_names
    (bk : BackupHandle)
    (e : Event) :
    (backup bk).names e =
      decide (e.call.backup? = some bk) := rfl

@[simp]
theorem backup_makes
    (bk : BackupHandle)
    (e : Event) :
    (backup bk).makes e =
      (e.call.makesBackup &&
        decide (e.call.backup? = some bk)) := rfl

------------------------------------------------------------
-- Databases
------------------------------------------------------------

/- Whether a call that failed left a database handle. -/
def leaves (db : DatabaseHandle) : Event → Bool
  | ⟨.openDatabase _ _ db', answer⟩ =>
      db' = db && answer.created &&
        answer.code ≠ ResultCode.ok
  | _ => false

/-
  The lifetime of a database handle.  Closing ends it if that
  succeeds, and in any case if the handle is what a failed
  opening has left.
-/
def database (db : DatabaseHandle) : Lifetime where
  names e := db ∈ e.call.databases
  makes e := e.call.makesDatabase && db ∈ e.call.databases
  born
    | ⟨.openDatabase _ _ db', answer⟩ =>
        db' = db && answer.created
    | _ => false
  ends t
    | ⟨.close db', code⟩ =>
        db' = db &&
          (code = ResultCode.ok || t.any (leaves db))
    | ⟨.closeLater db', _⟩ => db' = db
    | _ => false
  makes_of_born := by
    rintro ⟨c, a⟩ hBorn
    cases c <;> try cases hBorn
    case openDatabase =>
      simp_all [Call.makesDatabase, Call.databases]
  names_of_makes := by
    intro e hMakes
    simp_all
  names_of_ends := by
    rintro t ⟨c, a⟩ hEnds
    cases c <;> try cases hEnds
    case close => simp_all [Call.databases]
    case closeLater => simp_all [Call.databases]
  not_makes_of_ends := by
    rintro t ⟨c, a⟩ hEnds
    cases c <;> first | rfl | cases hEnds

@[simp]
theorem database_names
    (db : DatabaseHandle)
    (e : Event) :
    (database db).names e =
      decide (db ∈ e.call.databases) := rfl

@[simp]
theorem database_makes
    (db : DatabaseHandle)
    (e : Event) :
    (database db).makes e =
      (e.call.makesDatabase &&
        decide (db ∈ e.call.databases)) := rfl

end Lifetime

end SqliteAccess
