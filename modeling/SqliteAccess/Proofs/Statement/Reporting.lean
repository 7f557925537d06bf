import SqliteAccess.Proofs.Operation.Run
import SqliteAccess.Proofs.Statement.Currency
import SqliteAccess.Proofs.Statement.Resetting

/-
  Errors of statements are reported once.

  What no step has reported is raised by the next reset, or
  is worth one warning when the statement is finalized.  What
  a step has reported is not repeated by either, and after a
  reset the statement can be used again.

  Key definitions include:
    * `Session.Warns`
    * `Session.Usable`
    * `Session.Recovers`
    * `Session.ReportsOnce`
    * `Session.Passes`
    * `Session.ReportsErrors`

  The reports are characterized by:
    * `Session.Knows.finalize_warns`
    * `Session.Knows.recovers`
    * `Session.Knows.reportsOnce`
    * `Session.errors_reported_once`
-/

namespace SqliteAccess

variable {E : Engine} {α : Type} {s t : Session E}
variable {p : Place} {c : ConnectionId}
variable {st : StatementHandle} {r r' : Statement}

open Attempt

------------------------------------------------------------
-- Finalizing
------------------------------------------------------------

/-
  Whether a statement is finalized by one call, with a line in
  the log if and only if the engine answers an error and no
  step of the statement has failed before.
-/
structure Session.Warns
    (s : Session E)
    (p : Place)
    (st : StatementHandle)
    (code : ResultCode)
    (t : Session E) : Prop where
  call : t.world.trace =
    ⟨.finalize st, code⟩ :: s.world.trace
  log : t.log =
    if code ≠ ResultCode.ok ∧
        s.world.trace.hasFailed st = false then
      s.log.write .warning
        (Bytes.ascii "sqlite3_finalize reported an error")
        [.ofText "code" (ResultCode.name code),
          .ofText "sql" (s.world.statement p).sql]
    else
      s.log

/- What follows neither calls the engine nor writes a line. -/
theorem Session.Warns.followed
    {code : ResultCode}
    {u : Session E}
    (hWarns : s.Warns p st code t)
    (hTrace : u.world.trace = t.world.trace)
    (hLog : u.log = t.log) :
    s.Warns p st code u :=
  ⟨hTrace.trans hWarns.call, hLog.trans hWarns.log⟩

namespace Statement

/- Give a handle back, and warn of an error that is news. -/
def giveBack
    (r : Statement)
    (st : StatementHandle) : Quiet E Unit := do
  let code : ResultCode ← Quiet.invoke (.finalize st)
  if code ≠ ResultCode.ok ∧ ! r.stepFailed then
    Quiet.note .warning "sqlite3_finalize reported an error"
      [.ofText "code" (ResultCode.name code),
        .ofText "sql" r.sql]

/- A statement is struck out before its handle is given back. -/
theorem finalize_run
    (hFound : s.world.statements.get? p = some r)
    (hHandle : r.handle = some st) :
    finalize p s =
      giveBack r st
        { s with
          world := World.modifyStatement p ended
            (s.world.modifyLinked r.connection
              (·.removeStatement p)) } := by
  unfold finalize lookup
  rw [Quiet.run_bind]
  simp only [Quiet.read, World.statement_of_get? hFound,
    hHandle]
  rfl

end Statement

namespace Session.Knows

/- Giving a handle back warns of an error nobody knows of. -/
theorem giveBack_warns
    (hKnows : s.Knows p c st r)
    (hFailed : r'.stepFailed = r.stepFailed)
    (hText : r'.sql = r.sql)
    (hEngine : t.world.engine = s.world.engine)
    (hTrace : t.world.trace = s.world.trace)
    (hLog : t.log = s.log) :
    s.Warns p st (Quiet.invoke (.finalize st) s).1
      (Statement.giveBack r' st t).2 := by
  have hCode : (Quiet.invoke (.finalize st) t).1 =
      (Quiet.invoke (.finalize st) s).1 :=
    congrArg (fun engine => (E.answer _ engine).1) hEngine
  have hMark : (! r'.stepFailed) = true ↔
      s.world.trace.hasFailed st = false := by
    rw [hFailed, hKnows.failed, Bool.not_eq_true']
  have hCall :
      (Quiet.invoke (.finalize st) t).2.world.trace =
        ⟨.finalize st, (Quiet.invoke (.finalize st) s).1⟩ ::
          s.world.trace := by
    rw [← hCode, ← hTrace]
    rfl
  unfold Statement.giveBack
  rw [Quiet.run_bind]
  simp only [hCode, hMark]
  split
  case isTrue hBoth =>
    refine ⟨hCall, ?_⟩
    rw [if_pos hBoth, hKnows.statement, ← hText, ← hLog]
    rfl
  case isFalse hNot =>
    refine ⟨hCall, ?_⟩
    rw [if_neg hNot]
    exact hLog

theorem finalize_warns
    (hKnows : s.Knows p c st r) :
    s.Warns p st (Quiet.invoke (.finalize st) s).1
      (Statement.finalize p s).2 := by
  rw [Statement.finalize_run hKnows.found hKnows.handle]
  simp only [World.modifyLinked_eq, World.modifyStatement_eq]
  exact hKnows.giveBack_warns rfl rfl rfl rfl rfl

/- So does a connection that goes away. -/
theorem detach_warns
    (hKnows : s.Knows p c st r) :
    s.Warns p st (Quiet.invoke (.finalize st) s).1
      (Statement.detach p s).2 := by
  unfold Statement.detach
  rw [Quiet.run_bind]
  let untied : Session E :=
    (Quiet.update (World.modifyStatement p fun s =>
      { s with connection := none }) s).2
  have hFound : untied.world.statements.get? p =
      some { r with connection := none } := by
    show (World.modifyStatement p _ s.world).statements.get? p
      = _
    rw [World.modifyStatement_eq]
    show (s.world.statements.modify p _).get? p = _
    rw [Table.get?_modify, if_pos rfl, hKnows.found]
    rfl
  rw [show (Quiet.update _ s).2 = untied from rfl,
    Statement.finalize_run hFound hKnows.handle]
  simp only [untied, Quiet.update, World.modifyLinked_eq,
    World.modifyStatement_eq]
  exact hKnows.giveBack_warns rfl rfl rfl rfl rfl

/- As far as errors go, a statement is destroyed like that. -/
theorem destroy_warns
    (hKnows : s.Knows p c st r) :
    s.Warns p st (Quiet.invoke (.finalize st) s).1
      (Statement.destroy p s).2 := by
  apply hKnows.finalize_warns.followed
  · unfold Statement.destroy
    rw [Quiet.run_bind]
    simp only [Quiet.update, World.dropAnchor_eq]
  · rfl

/- So is moving another statement over it. -/
theorem assign_warns
    {source : Place}
    (hKnows : s.Knows p c st r)
    (hOther : source ≠ p) :
    s.Warns p st (Quiet.invoke (.finalize st) s).1
      (Statement.assign source p s).2 := by
  apply hKnows.finalize_warns.followed
  · unfold Statement.assign
    rw [if_neg hOther, Quiet.run_bind]
    simp only [Quiet.update, Statement.transfer_eq]
  · unfold Statement.assign
    rw [if_neg hOther]
    rfl

end Session.Knows

------------------------------------------------------------
-- After a Failure
------------------------------------------------------------

/-
  Whether a statement can be used again: it is ready, and the
  engine alone decides how the next step ends and whether an
  argument that converts can be bound to a parameter.
-/
structure Session.Usable
    (s : Session E)
    (p : Place)
    (st : StatementHandle) : Prop where
  ready : (s.world.statement p).state = .ready
  handle : (s.world.statement p).handle = some st
  step : s.Advances p st (Quiet.invoke (.step st) s).1
    ((Statement.step p).run s).1
    ((Statement.step p).run s).2
  bind : ∀ {argument v} {index : Int},
    Argument.checked argument = .ok v → 1 ≤ index →
      index ≤ ((s.world.statement p).parameterCount : Int) →
        Decided E
          ((Statement.bindArgument p index argument).run s).1
          (Quiet.invoke (.bind st index v.payload) s).1
          .binding (s.world.statement p).sql

/-
  Whether a statement has failed and recovers: it is done, and
  resetting it raises nothing and makes it usable.
-/
structure Session.Recovers
    (s : Session E)
    (p : Place)
    (st : StatementHandle) : Prop where
  done : (s.world.statement p).state = .done
  silent : ((Statement.reset p).run s).1 = .ok ()
  usable : ((Statement.reset p).run s).2.Usable p st

namespace Session.Knows

/- A statement that is ready is usable. -/
theorem usable
    (hKnows : s.Knows p c st r)
    (hReady : r.state = .ready) :
    s.Usable p st := by
  have hNotDone : r.state ≠ .done := by
    rw [hReady]
    nofun
  constructor
  case ready => rw [hKnows.statement, hReady]
  case handle => rw [hKnows.statement, hKnows.handle]
  case step => exact (hKnows.stepped hNotDone).1
  case bind =>
    intro argument v index hChecked hFirst hLast
    have hTakes : (s.world.statement p).Takes index :=
      { live := by
          rw [hKnows.statement, hKnows.handle]
          nofun
        noRow := by
          rw [hKnows.statement, hReady]
          nofun
        first := hFirst
        last := hLast }
    have hAtOnce : (Statement.rewindIfDone p st).run s =
        (.ok (), s) := by
      unfold Statement.rewindIfDone Statement.lookup
      rw [run_read, hKnows.statement, if_neg hNotDone]
      rfl
    rw [Statement.bindArgument_eq, hChecked, accept_ok_bind]
    unfold Statement.bindChecked
    rw [Statement.bindPayload_of_takes hTakes
      (hKnows.statement ▸ hKnows.handle),
      run_bind_of_ok hAtOnce]
    unfold Statement.hand Statement.lookup
    rw [run_read, run_bind_of_ok (run_lift _ s)]
    exact check_decided _ _ _ _ _

/- A statement that has failed recovers. -/
theorem recovers
    (hKnows : s.Knows p c st r)
    (hFailed : s.world.trace.hasFailed st = true) :
    s.Recovers p st := by
  have hMark : r.stepFailed = true :=
    hKnows.failed.trans hFailed
  constructor
  case done =>
    rw [hKnows.statement]
    exact hKnows.stuck hMark
  case silent =>
    have hResult := hKnows.resets.result
    rwa [if_pos hFailed] at hResult
  case usable =>
    rw [hKnows.reset_run]
    exact hKnows.rewound.2.usable rfl

/-
  If stepping fails, the statement did not get past its reset,
  or it has failed and recovers.
-/
theorem step_recovers
    {e : Failure}
    (hKnows : s.Knows p c st r)
    (hRun : (Statement.step p).run s = (.error e, t)) :
    (Statement.reset p).run s = (.error e, t) ∨
      t.world.trace.hasFailed st = true ∧
        t.Recovers p st := by
  have hFails : ∀ {u r₁}, u.Knows p c st r₁ →
      r₁.state ≠ .done →
        (Statement.step p).run u = (.error e, t) →
          t.world.trace.hasFailed st = true ∧
            t.Recovers p st := by
    intro u r₁ hKnows₁ hState hStep
    rcases hKnows₁.stepped hState with ⟨hAdvances, hStepped⟩
    rw [hStep] at hAdvances hStepped
    have hFailed : t.world.trace.hasFailed st = true := by
      apply hAdvances.marked.mpr
      constructor
      · intro hRow
        cases hAdvances.row hRow
      · intro hDone
        cases hAdvances.completed hDone
    exact ⟨hFailed, hStepped.recovers hFailed⟩
  by_cases hDone : r.state = .done
  · have hReset := hKnows.step_resetsFirst hDone
    unfold Attempt.ResetsFirst at hReset
    rw [hRun] at hReset
    have hRewound := hKnows.rewound.2
    rw [← hKnows.reset_run] at hRewound
    rcases hFirst : (Statement.reset p).run s with ⟨result, u⟩
    rw [hFirst] at hRewound
    cases result with
    | error e' =>
        rw [run_bind_of_error hFirst] at hReset
        cases hReset
        exact .inl rfl
    | ok _ =>
        rw [run_bind_of_ok hFirst] at hReset
        exact .inr (hFails hRewound nofun hReset.symm)
  · exact .inr (hFails hKnows hDone hRun)

end Session.Knows

------------------------------------------------------------
-- Reports
------------------------------------------------------------

/-
  Whether the resets of a statement report errors that nobody
  has reported, and no others:

    * `reset`: resetting it does
    * `step`, `clear`, `bind`: if it is done, what is reset on
      the way is reset in the same way
-/
structure Session.ReportsResets
    (s : Session E)
    (p : Place)
    (st : StatementHandle) : Prop where
  reset : s.Resets p st (Quiet.invoke (.reset st) s).1
    ((Statement.reset p).run s).1
    ((Statement.reset p).run s).2
  step : (s.world.statement p).state = .done →
    (Statement.step p).ResetsFirst p s
  clear : (s.world.statement p).state = .done →
    (Statement.clearBindings p).ResetsFirst p s
  bind : (s.world.statement p).state = .done →
    ∀ index argument,
      (∃ refusal : Refusal,
          (Statement.bindArgument p index argument).run s =
            (.error (.database refusal.error), s)) ∨
        (Statement.bindArgument p index argument).ResetsFirst
          p s

/-
  Whether the errors of a statement are reported once:

    * `resets`: by its resets
    * `named`: by those before a parameter with a name is
      bound, which the engine is asked for first
    * `steps`: by a step that is not preceded by a reset
    * `execute`: by the reset at the end of a run
    * `failed`, `recovers`: after a step that has failed, a
      reset raises nothing, and the statement is usable
    * `finalize`, `detach`, `destroy`, `assign`: by the log if
      it is finalized, however it comes to that
-/
structure Session.ReportsOnce
    (s : Session E)
    (p : Place)
    (st : StatementHandle) : Prop where
  resets : s.ReportsResets p st
  named : ∀ name argument, ∃ asked,
    s.Consulted asked ∧ asked.ReportsResets p st ∧
      ((∃ e, (Statement.bindNamed p name argument).run s =
          (.error e, asked)) ∨
        ∃ index : Nat,
          (Statement.bindNamed p name argument).run s =
            (Statement.bindArgument p index argument).run
              asked)
  steps : (s.world.statement p).state ≠ .done →
    s.Advances p st (Quiet.invoke (.step st) s).1
      ((Statement.step p).run s).1
      ((Statement.step p).run s).2
  execute : s.ExecutesOnce p st
  failed : ∀ {e t},
    (Statement.step p).run s = (.error e, t) →
      (Statement.reset p).run s = (.error e, t) ∨
        t.world.trace.hasFailed st = true ∧ t.Recovers p st
  recovers : s.world.trace.hasFailed st = true →
    s.Recovers p st
  finalize : s.Warns p st (Quiet.invoke (.finalize st) s).1
    (Statement.finalize p s).2
  detach : s.Warns p st (Quiet.invoke (.finalize st) s).1
    (Statement.detach p s).2
  destroy : s.Warns p st (Quiet.invoke (.finalize st) s).1
    (Statement.destroy p s).2
  assign : ∀ {source}, source ≠ p →
    s.Warns p st (Quiet.invoke (.finalize st) s).1
      (Statement.assign source p s).2

namespace Session.Knows

theorem reportsResets
    (hKnows : s.Knows p c st r) :
    s.ReportsResets p st where
  reset := hKnows.resets
  step hDone :=
    hKnows.step_resetsFirst (hKnows.statement ▸ hDone)
  clear hDone := hKnows.clearBindings_resetsFirst
    (hKnows.statement ▸ hDone)
  bind hDone := hKnows.bindArgument_resetsFirst
    (hKnows.statement ▸ hDone)

/- A statement that knows about its steps reports them once. -/
theorem reportsOnce
    (hKnows : s.Knows p c st r) :
    s.ReportsOnce p st where
  resets := hKnows.reportsResets
  named name argument := by
    have hConsults :=
      Statement.requireParameterIndex_consults (E := E) p name
    rcases hRun :
        (Statement.requireParameterIndex p name).run s with
      ⟨result, asked⟩
    have hConsulted := hConsults.consulted_of_run hRun
    have hKnows' := hKnows.of_consulted hConsulted
    refine ⟨asked, hConsulted, hKnows'.reportsResets, ?_⟩
    unfold Statement.bindNamed
    cases result with
    | error e => exact .inl ⟨e, run_bind_of_error hRun⟩
    | ok index => exact .inr ⟨index, run_bind_of_ok hRun⟩
  steps hState :=
    (hKnows.stepped (hKnows.statement ▸ hState)).1
  execute := hKnows.executesOnce
  failed := hKnows.step_recovers
  recovers := hKnows.recovers
  finalize := hKnows.finalize_warns
  detach := hKnows.detach_warns
  destroy := hKnows.destroy_warns
  assign := hKnows.assign_warns

end Session.Knows

------------------------------------------------------------
-- Sessions
------------------------------------------------------------

/-
  Whether a session passes a world, between two operations or
  inside of one, with something under way there.
-/
def Session.Passes
    (s : Session E)
    (k : Custody)
    (w : World E) : Prop :=
  Steps (fun _ => True) (s.rest []) ⟨k, w⟩

/-
  Whether the errors of all statements are reported once:

    * `rests`: any operations lead to a world that is passed
    * `temporary`: so does preparing a statement that lasts as
      long as some work
    * `stepped`, `executed`: so does that work
    * `statements`: in all such worlds a statement reports its
      errors once, wherever it has been moved
-/
structure Session.ReportsErrors (s : Session E) : Prop where
  rests : ∀ ops : List Operation,
    s.Passes { hosted := s.hosted ops }
      (s.runAll ops).2.world
  temporary : ∀ {k t c sql u},
    s.Passes k (Session.world t) → k.Idle →
      (Statement.prepare c .scratch sql).run t = (.ok (), u) →
        s.Passes { k with scratch := true } u.world
  stepped : ∀ {k t} p, s.Passes k (Session.world t) →
    s.Passes k ((Statement.step p).run t).2.world
  executed : ∀ {k t} p, s.Passes k (Session.world t) →
    s.Passes k ((Statement.execute p).run t).2.world
  statements : ∀ {k t p st},
    s.Passes k (Session.world t) →
      (t.world.statement p).handle = some st →
        t.ReportsOnce p st

namespace Session.Passes

variable {k : Custody}

/- What leaves nothing more under way leads to such worlds. -/
theorem kept
    {x : Attempt E α}
    (hPasses : s.Passes k t.world)
    (hSound : Sound (s.rest []))
    (hKeeps : Attempt.Keeps (fun _ => True) (fun _ => True) x) :
    s.Passes k (x.run t).2.world := by
  have hHere : Sound (⟨k, t.world⟩ : Stage E) :=
    Steps.sound hSound hPasses
  rcases hKeeps ⟨k, t.world⟩ trivial hHere t.log with
    ⟨k', hSteps, hEnd⟩
  have hSame : k' = k := hEnd.elim
  subst hSame
  exact Relation.ReflTransGen.trans hPasses hSteps

/- There is room for one temporary statement. -/
theorem prepared
    {u : Session E}
    {sql : Bytes}
    (hPasses : s.Passes k t.world)
    (hSound : Sound (s.rest []))
    (hIdle : k.Idle)
    (hRun : (Statement.prepare c .scratch sql).run t =
      (.ok (), u)) :
    s.Passes { k with scratch := true } u.world := by
  have hHere : Sound (⟨k, t.world⟩ : Stage E) :=
    Steps.sound hSound hPasses
  have hVacant : t.world.statements.get? .scratch = none := by
    have hScratch :
        t.world.statements.contains .scratch = false :=
      hHere.scratch.trans hIdle.scratch
    simpa [Table.contains] using hScratch
  have hLeads : Attempt.Leads (fun _ => True)
      (⟨k, t.world⟩ : Stage E) t.world
      (Statement.prepare c .scratch sql) _ _ :=
    Statement.prepare_leads trivial hIdle.pending
      hIdle.closing hVacant (.inl rfl)
  rcases hLeads hHere t.log with ⟨k', hSteps, hEnd⟩
  rw [show (Statement.prepare c .scratch sql).run
    ⟨t.world, t.log⟩ = (.ok (), u) from hRun] at hSteps hEnd
  have hCustody : k' = { k with scratch := true } := by
    simpa [Attempt.Ends] using hEnd.1
  subst hCustody
  exact Relation.ReflTransGen.trans hPasses hSteps

end Session.Passes

namespace Session

/-
  On any engine, in any run, the errors of every statement
  are reported once.
-/
theorem errors_reported_once
    (engine : E.State)
    (patience : Nat)
    (log : Log) :
    (start engine patience log : Session E).ReportsErrors := by
  have hStart := start_sound engine patience log
  constructor
  case rests =>
    intro ops
    have hSteps := runAll_steps ops hStart
    rw [List.append_nil] at hSteps
    exact hSteps
  case temporary =>
    intro k t c sql u hPasses hIdle hRun
    exact hPasses.prepared hStart hIdle hRun
  case stepped =>
    intro k t p hPasses
    exact hPasses.kept hStart (Statement.step_keeps trivial)
  case executed =>
    intro k t p hPasses
    exact hPasses.kept hStart (Statement.execute_keeps trivial)
  case statements =>
    intro k t p st hPasses hHandle
    have hHere := hPasses.sound hStart
    rcases hHere.knows rfl hHandle with ⟨c, hKnows⟩
    exact hKnows.reportsOnce

/- An engine that knows one statement, whose steps fail. -/
def failingEngine : Engine.scripted.State :=
  ({ script :=
      { programs :=
          [{ sql := Bytes.ascii "S"
             runs :=
              [{ outcomes :=
                  [{ ending :=
                      .failed
                        { code := ResultCode.constraint }
                   }] }] }] } } : Scripted.State)

/- Prepare that statement, and step it. -/
def failedSetup : List Operation :=
  oneRowSetup ++ [.statement 0 .step]

/- The session in which that step has failed. -/
def failedSession : Session Engine.scripted :=
  ((start failingEngine 10 {}).runAll failedSetup).2

/-
  There the engine answers an error to a reset, and the
  statement recovers all the same.
-/
theorem errors_reported_once_failed :
    ∃ st,
      (failedSession.world.statement (.slot 0)).handle =
          some st ∧
      failedSession.world.trace.hasFailed st = true ∧
      (Quiet.invoke (.reset st) failedSession).1 =
          ResultCode.constraint ∧
      failedSession.Recovers (.slot 0) st := by
  have hReports := errors_reported_once failingEngine 10 {}
  have hHere := hReports.rests failedSetup
  have hFails :
      (failedSession.world.statement (.slot 0)).handle.any
        (fun st =>
          let code : ResultCode :=
            (Quiet.invoke (.reset st) failedSession).1
          failedSession.world.trace.hasFailed st &&
            code = ResultCode.constraint) = true := by
    decide +kernel
  unfold failedSession at hFails ⊢
  revert hHere hFails
  generalize ((start failingEngine 10 {}).runAll
    failedSetup).2 = s
  intro hHere hFails
  cases hHandle : (s.world.statement (.slot 0)).handle with
  | none =>
      rw [hHandle] at hFails
      exact Bool.noConfusion hFails
  | some st =>
      simp only [hHandle, Option.any_some, Bool.and_eq_true,
        decide_eq_true_eq] at hFails
      have hOnce := hReports.statements hHere hHandle
      exact ⟨st, rfl, hFails.1, hFails.2,
        hOnce.recovers hFails.1⟩

end Session

end SqliteAccess
