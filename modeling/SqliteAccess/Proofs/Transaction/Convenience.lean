import SqliteAccess.Proofs.Connection.Agreement
import SqliteAccess.Proofs.Operation.Sparing
import SqliteAccess.Proofs.Session.Discipline

/-
  Calls that need statements of their own.

  Such a call compiles what it needs, and whatever becomes of
  it, all of that is finalized in the end.  The statements
  and the backups of the caller are as before, and so is what
  the connections list.

  Key definitions include:
    * `Attempt.Convenient`
    * `Session.LeavesNoTrace`
    * `Connection.StopsAt`
    * `Session.RunsConveniences`

  The calls are characterized by:
    * `Attempt.Convenient.keeps`
    * `Session.leavesNoTrace_of_steps`
    * `Connection.stopsAt_of_more`
    * `Session.runs_conveniences`
-/

namespace SqliteAccess

variable {E : Engine} {α β : Type} {s t : Session E}
variable {c : ConnectionId} {sql : Bytes}

open Attempt

------------------------------------------------------------
-- Programs of Such Calls
------------------------------------------------------------

namespace Attempt

/-
  Whether an attempt consists of calls that need statements of
  their own, and of what the caller makes of their results:

    * `pure`, `bind`: a result, and to go on with one
    * `throw`, `handle`: a failure, and to handle one
    * `execute` up to `tableExists`: the calls on a connection
    * `begin` up to `dropSavepoint`: what is done with guards
    * `withGuard`, `withSavepoint`: work after which a guard
      is destroyed in any case
    * `withTransaction`: work inside a transaction
-/
inductive Convenient : {α : Type} → Attempt E α → Prop
  | pure {α : Type} (a : α) :
      Convenient (Pure.pure a : Attempt E α)
  | bind {α β : Type} {x : Attempt E α}
      {k : α → Attempt E β}
      (hFirst : Convenient x)
      (hRest : ∀ a, Convenient (k a)) :
      Convenient (x >>= k)
  | throw {α : Type} (e : Failure) :
      Convenient (MonadExcept.throw e : Attempt E α)
  | handle {α : Type} {x : Attempt E α}
      {k : Failure → Attempt E α}
      (hBody : Convenient x)
      (hHandler : ∀ e, Convenient (k e)) :
      Convenient (MonadExcept.tryCatch x k)
  | execute (c : ConnectionId) (sql : Bytes) :
      Convenient (Connection.execute c sql)
  | executeBatch (c : ConnectionId) (sql : Bytes) :
      Convenient (Connection.executeBatch c sql)
  | pragma (c : ConnectionId) (name : Bytes) :
      Convenient (Connection.pragma c name)
  | setPragma (c : ConnectionId) (name : Bytes) (v : Value) :
      Convenient (Connection.setPragma c name v)
  | tableExists (c : ConnectionId) (name : Bytes) :
      Convenient (Connection.tableExists c name)
  | begin (c : ConnectionId) (p : Place)
      (type : TransactionType) :
      Convenient (Transaction.start c p type)
  | commit (p : Place) :
      Convenient (Transaction.commit p)
  | rollback (p : Place) :
      Convenient (Transaction.rollback p)
  | drop (p : Place) :
      Convenient (lift (Transaction.destroy p))
  | savepoint (t p : Place) (name : Bytes) :
      Convenient (Transaction.savepoint t p name)
  | savepointOn (c : ConnectionId) (p : Place)
      (name : Bytes) :
      Convenient (Savepoint.start c p name)
  | release (p : Place) :
      Convenient (Savepoint.release p)
  | rollbackTo (p : Place) :
      Convenient (Savepoint.rollback p)
  | dropSavepoint (p : Place) :
      Convenient (lift (Savepoint.destroy p))
  | withGuard {α : Type} {x : Attempt E α}
      (hBody : Convenient x) (p : Place) :
      Convenient (ensuring x (Transaction.destroy p))
  | withSavepoint {α : Type} {x : Attempt E α}
      (hBody : Convenient x) (p : Place) :
      Convenient (ensuring x (Savepoint.destroy p))
  | withTransaction {α : Type}
      {work : Place → Attempt E α}
      (c : ConnectionId) (p : Place)
      (hWork : Convenient (work p)) :
      Convenient (Transaction.withinAt c p work)

/- They leave nothing more under way than before. -/
theorem Convenient.keeps
    {A : Part → Prop}
    {x : Attempt E α}
    (hConvenient : Convenient x)
    (hPart : A (.statement .scratch)) :
    Keeps A Custody.Idle x := by
  induction hConvenient with
  | pure a => exact .pure a
  | bind _ _ ihFirst ihRest => exact ihFirst.bind ihRest
  | throw e => exact .throw e
  | handle _ _ ihBody ihHandler =>
      exact ihBody.tryCatch ihHandler
  | execute c sql => exact Connection.execute_keeps hPart sql
  | executeBatch c sql =>
      exact Connection.executeBatch_keeps hPart sql
  | pragma c name => exact Connection.pragma_keeps hPart name
  | setPragma c name v =>
      exact Connection.setPragma_keeps hPart name v
  | tableExists c name =>
      exact Connection.tableExists_keeps hPart name
  | begin c p type => exact Transaction.start_keeps hPart type
  | commit p => exact Transaction.commit_keeps hPart
  | rollback p => exact Transaction.rollback_keeps hPart
  | drop p => exact .lift (Transaction.destroy_keeps hPart)
  | savepoint t p name =>
      exact Transaction.savepoint_keeps hPart name
  | savepointOn c p name => exact Savepoint.start_keeps hPart name
  | release p => exact Savepoint.release_keeps hPart
  | rollbackTo p => exact Savepoint.rollback_keeps hPart
  | dropSavepoint p =>
      exact .lift (Savepoint.destroy_keeps hPart)
  | withGuard _ p ih =>
      exact ih.ensuring (Transaction.destroy_keeps hPart)
  | withSavepoint _ p ih =>
      exact ih.ensuring (Savepoint.destroy_keeps hPart)
  | withTransaction c p _ ih =>
      exact Transaction.withinAt_keeps hPart ih

end Attempt

/- The items of a transaction consist of such calls. -/
theorem TransactionItem.performAll_convenient
    (c : ConnectionId)
    (guard : Place)
    (body : List TransactionItem)
    (last : Int) :
    Convenient (E := E) (performAll c guard body last) := by
  induction body generalizing last with
  | nil => exact .pure last
  | cons item r ih =>
      cases item with
      | execute sql => exact .bind (.execute c sql) ih
      | raise message => exact .throw _
      | commit => exact .bind (.commit guard) fun _ => ih last
      | rollback =>
          exact .bind (.rollback guard) fun _ => ih last

/- So does the transaction around them. -/
theorem Transaction.within_convenient
    (c : ConnectionId)
    (body : List TransactionItem)
    (last : Int) :
    Convenient (E := E)
      (within c fun guard =>
        TransactionItem.performAll c guard body last) := by
  rw [within_eq]
  exact .withTransaction c .scratch
    (TransactionItem.performAll_convenient c .scratch body
      last)

------------------------------------------------------------
-- No Trace
------------------------------------------------------------

/-
  Whether a session has the statements and the backups of
  another one that comes before it:

    * `statements`, `backups`: every place has the same
    * `listed`, `copies`: every connection lists the same
    * `finalized`: what was compiled in between was finalized,
      once
-/
structure Session.LeavesNoTrace
    (s t : Session E) : Prop where
  statements : ∀ p,
    t.world.statements.get? p = s.world.statements.get? p
  backups : ∀ p,
    t.world.backups.get? p = s.world.backups.get? p
  listed : ∀ c p, p ∈ (t.world.connection c).statements ↔
    p ∈ (s.world.connection c).statements
  copies : ∀ c p, p ∈ (t.world.connection c).backups ↔
    p ∈ (s.world.connection c).backups
  finalized : ∀ {l sql st answer},
    t.world.trace = l ++ s.world.trace →
      ⟨.prepare sql st, answer⟩ ∈ l → answer.created →
        l.countP (·.call = .finalize st) = 1

/- The backups that a connection lists are live on it. -/
theorem Sound.mem_copies_iff
    {g : Stage E}
    {p : Place}
    (hSound : Sound g)
    (hClosing : g.custody.closing = none) :
    p ∈ (g.world.connection c).backups ↔
      LiveBackup g.world.backups p c := by
  cases hConnection : g.world.connections.get? c with
  | none =>
      have hNot : ¬ LiveBackup g.world.backups p c :=
        fun hLive =>
          hSound.exists_of_liveBackup hLive hConnection
      simp [World.connection, hConnection, Connection.vacant,
        hNot]
  | some conn =>
      rw [World.connection_of_get? hConnection]
      exact hSound.mem_backups_iff hClosing hConnection

/- A handle is born once, before something or after it. -/
theorem Lifetime.births_before
    {life : Lifetime}
    {later earlier : Trace}
    (hRespected : life.Respected (later ++ earlier))
    (hBorn : life.births later ≠ 0) :
    life.births earlier = 0 := by
  have hOnce := (births_eq hRespected).2
  unfold births at hOnce hBorn ⊢
  rw [List.countP_append] at hOnce
  omega

namespace Session

variable {h : List StatementHandle}

section Resting

variable (hSound : Sound (s.rest h))
variable (hSteps : Steps (· = .statement .scratch) (s.rest h)
  (t.rest h))

include hSound hSteps

/- Only a temporary statement has been there meanwhile. -/
theorem statements_of_steps (p : Place) :
    t.world.statements.get? p =
      s.world.statements.get? p := by
  cases p with
  | slot n => exact hSteps.keeps_statement (by simp)
  | scratch =>
      have hNone : ∀ {u : Session E}, Sound (u.rest h) →
          u.world.statements.get? .scratch = none := by
        intro u hSound
        have hAbsent : u.world.statements.contains .scratch =
            false := hSound.scratch
        simpa [Table.contains] using hAbsent
      rw [hNone (hSteps.sound hSound), hNone hSound]

/- What is new is not alive any more. -/
theorem dead_of_steps
    {l : Trace}
    {st : StatementHandle}
    (hTrace : t.world.trace = l ++ s.world.trace)
    (hBorn : (Lifetime.statement st).births l ≠ 0) :
    (Lifetime.statement st).alive t.world.trace = false := by
  have hAfter := hSteps.sound hSound
  have hRespected := hAfter.lawful.statements st
  have hNew := Lifetime.births_before (hTrace ▸ hRespected)
    hBorn
  rw [Bool.eq_false_iff]
  intro hAlive
  rcases hAfter.linked.custody hAlive with
    hPending | hHosted | ⟨p, r, hFound, hHandle⟩
  · cases hPending
  · exact hSound.linked.given hHosted hNew
  · have hBefore : s.world.statements.get? p = some r :=
      (statements_of_steps hSound hSteps p).symm.trans hFound
    exact Lifetime.births_ne_zero_of_alive
      (hSound.linked.alive hBefore hHandle) hNew

/- So nothing is left of what was done. -/
theorem leavesNoTrace_of_steps : s.LeavesNoTrace t := by
  have hAfter := hSteps.sound hSound
  have hStatements := statements_of_steps hSound hSteps
  have hBackups : ∀ p, t.world.backups.get? p =
      s.world.backups.get? p := fun p =>
    hSteps.keeps_backup (by simp)
  constructor
  case statements => exact hStatements
  case backups => exact hBackups
  case listed =>
    intro c p
    refine (hAfter.mem_statements_iff rfl).trans
      (Iff.trans ?_ (hSound.mem_statements_iff rfl).symm)
    show LiveStatement t.world.statements p c ↔
      LiveStatement s.world.statements p c
    unfold LiveStatement
    rw [hStatements]
  case copies =>
    intro c p
    refine (hAfter.mem_copies_iff rfl).trans
      (Iff.trans ?_ (hSound.mem_copies_iff rfl).symm)
    show LiveBackup t.world.backups p c ↔
      LiveBackup s.world.backups p c
    unfold LiveBackup
    rw [hBackups]
  case finalized =>
    intro l sql st answer hTrace hMember hCreated
    have hBorn : (Lifetime.statement st).births l ≠ 0 :=
      Lifetime.births_ne_zero_iff.mpr
        ⟨_, hMember, by simp [Lifetime.statement, hCreated]⟩
    have hDead := dead_of_steps hSound hSteps hTrace hBorn
    have hMember' : ⟨.prepare sql st, answer⟩ ∈
        t.world.trace := by
      rw [hTrace]
      exact List.mem_append_left _ hMember
    have hOnce : t.world.trace.countP
        (·.call = .finalize st) = 1 :=
      Trace.finalized_once hAfter.lawful hMember' hCreated
        hDead
    -- it was not there before, so it was not finalized then
    have hNew := Lifetime.births_before
      (hTrace ▸ hAfter.lawful.statements st) hBorn
    have hBefore : s.world.trace.countP
        (·.call = .finalize st) = 0 := by
      have hSum := (Lifetime.births_eq
        (hSound.lawful.statements st)).1
      change (Lifetime.statement st).births s.world.trace =
        (Lifetime.statement st).endings s.world.trace + _
          at hSum
      rw [← Trace.statement_endings]
      omega
    rw [hTrace, List.countP_append] at hOnce
    omega

end Resting

/- Whatever a convenient attempt does, no trace is left. -/
theorem leavesNoTrace_of_convenient
    {x : Attempt E α}
    (hSound : Sound (s.rest h))
    (hConvenient : x.Convenient) :
    s.LeavesNoTrace (x.run s).2 := by
  rcases hConvenient.keeps
    (A := (· = .statement .scratch)) rfl (s.rest h)
    (Custody.atRest_of_hosted h).toIdle hSound s.log with
    ⟨k, hSteps, hEnd⟩
  have hSame : k = (s.rest h).custody := hEnd.elim
  subst hSame
  exact leavesNoTrace_of_steps hSound hSteps

end Session

------------------------------------------------------------
-- More Than One Statement
------------------------------------------------------------

namespace Session

/- The handle of the statement that is compiled next. -/
def nextStatement
    (s : Session E)
    (db : DatabaseHandle) : StatementHandle :=
  { number := s.world.issued.statements + 1, database := db }

/- What the engine answers to a text that is compiled next. -/
def nextAnswer
    (s : Session E)
    (db : DatabaseHandle)
    (sql : Bytes) : PrepareAnswer :=
  (E.answer (.prepare sql (s.nextStatement db))
    s.world.engine).1

/- Where that statement ends in the text. -/
def nextOffset
    (s : Session E)
    (db : DatabaseHandle)
    (sql : Bytes) : Nat :=
  (s.nextAnswer db sql).tail.getD sql.length

end Session

/-
  Whether executing a text stops where more SQL follows its
  first statement:

    * `refused`: that is a broken rule of use
    * `calls`: a statement is compiled and finalized, and no
      other call has an effect
    * `unstepped`: no statement at all is stepped
-/
structure Connection.StopsAt
    (c : ConnectionId)
    (sql : Bytes)
    (offset : Nat)
    (s : Session E) : Prop where
  refused : ((execute c sql).run s).1 =
    .error (.database (Refusal.moreSql offset sql).error)
  calls : ∃ st answer code,
    s.Hears
      [⟨.finalize st, code⟩, ⟨.prepare sql st, answer⟩]
      ((execute c sql).run s).2
  unstepped : ∀ {l},
    ((execute c sql).run s).2.world.trace =
        l ++ s.world.trace →
      ∀ e ∈ l, ∀ st, e.call ≠ .step st

/- Compiling hands over the next handle. -/
theorem Statement.compile_fst
    (db : DatabaseHandle)
    (sql : Bytes)
    (s : Session E) :
    (compile db sql s).1 =
      (s.nextStatement db, s.nextAnswer db sql) := by
  unfold compile
  simp only [Quiet.run_bind]
  split <;> rfl

/- If no call with an effect is a step, no call is. -/
theorem Session.Hears.unstepped
    {calls l : Trace}
    (hHears : s.Hears calls t)
    (hCalls : ∀ e ∈ calls, ∀ st, e.call ≠ .step st)
    (hTrace : t.world.trace = l ++ s.world.trace) :
    ∀ e ∈ l, ∀ st, e.call ≠ .step st := by
  rcases hHears with ⟨events, hSame, rfl⟩
  rw [hSame] at hTrace
  cases List.append_cancel_right hTrace
  intro e hMember st hStep
  have hEffect : e.call.isEffect = true := by
    rw [hStep]
    rfl
  exact hCalls e (List.mem_filter.mpr ⟨hMember, hEffect⟩) st
    hStep

/- A text whose first statement is followed by more stops. -/
theorem Connection.stopsAt_of_more
    {db : DatabaseHandle}
    (hOpen : (s.world.connection c).handle = some db)
    (hText : Statement.Sendable sql)
    (hCode : (s.nextAnswer db sql).code = ResultCode.ok)
    (hCreated : (s.nextAnswer db sql).created = true)
    (hMore : Blank.isBlank
      (sql.drop (s.nextOffset db sql)) = false) :
    StopsAt c sql (s.nextOffset db sql) s := by
  rcases Statement.compile_did db sql s with
    ⟨st, answer, u, hCompiled, -, -, hDid⟩
  have hNext := Statement.compile_fst db sql s
  rw [hCompiled] at hNext
  cases hNext
  rcases Statement.keep_of_created hCode hCreated .scratch c db
    sql (s.nextStatement db) u with
    ⟨t, hKept, hTail, hHears, hEnters⟩
  have hPrepared : (Statement.prepare c .scratch sql).run s =
      (.ok (), t) := by
    rw [Statement.prepare_run hOpen hText, hCompiled]
    exact hKept
  change _ = s.nextOffset db sql at hTail
  have hFollows := Statement.prepare_hasTail hPrepared
  rw [hTail, hMore] at hFollows
  have hRun := execute_of_more hPrepared hFollows
  rw [hTail] at hRun
  rcases hEnters.stands with ⟨r, hStands, -, -⟩
  rcases Statement.destroy_did hStands with
    ⟨code, hFinalized, -⟩
  have hAll := (hDid.heard.trans hHears).trans hFinalized
  rw [← congrArg Prod.snd hRun] at hAll
  constructor
  case refused => exact congrArg Prod.fst hRun
  case calls => exact ⟨_, _, code, hAll⟩
  case unstepped =>
    intro l hTrace
    refine hAll.unstepped ?_ hTrace
    simp

------------------------------------------------------------
-- Reachable Sessions
------------------------------------------------------------

/-
  Whether a session can be used for calls that need statements
  of their own:

    * `tidy`: whatever becomes of them, they leave no trace
    * `single`: a text is executed only if its first statement
      is the only one, which is known when that was compiled
    * `long`: a text that is too long is not compiled, and
      nothing else happens
-/
structure Session.RunsConveniences
    (s : Session E) : Prop where
  tidy : ∀ {α : Type} {x : Attempt E α}, x.Convenient →
    s.LeavesNoTrace (x.run s).2
  single : ∀ {c db sql},
    (s.world.connection c).handle = some db →
      Statement.Sendable sql →
        (s.nextAnswer db sql).code = ResultCode.ok →
          (s.nextAnswer db sql).created = true →
            Blank.isBlank
                (sql.drop (s.nextOffset db sql)) = false →
              Connection.StopsAt c sql (s.nextOffset db sql) s
  long : ∀ {c db sql},
    (s.world.connection c).handle = some db →
      Blank.isBlank sql = false →
        ¬ sql.length ≤ Statement.longestText →
          (Connection.execute c sql).run s =
            (.error (.database Refusal.longText.error), s)

/-
  After any operations on any engine, such calls leave no
  trace, and a text with more than one statement is refused
  before anything is stepped.
-/
theorem Session.runs_conveniences
    (engine : E.State)
    (patience : Nat)
    (log : Log)
    (ops : List Operation) :
    ((start engine patience log).runAll
      ops).2.RunsConveniences where
  tidy hConvenient :=
    leavesNoTrace_of_convenient
      (reachable_sound engine patience log ops) hConvenient
  single := Connection.stopsAt_of_more
  long := Connection.execute_of_long

end SqliteAccess
